import PacketLink.Proofs.Network.Spares

/-!
# The traffic of callers

Whatever is done with a network, the submissions of callers move through the queues of its endpoints
as `Traffic.Step` says. `Departs` says that submissions have left an endpoint, and `Conveys` is what
holds of every operation, whatever the handlers and the listeners do. What is seen of packets are
whole visits: a packet that goes to the peer comes to handlers before anything else is delivered.
-/

namespace PacketLink

/-- What comes to those who take packets. -/
inductive Visit where
  /-- A submission went from a station to its peer and then came to these handlers. -/
  | delivery (station : Nat) (submission : Submission Sender) (takers : List Handler)
  /-- Bytes were given to a connection without its transport. -/
  | direct (node : Nat) (data : Bytes)

/-- What is seen of a visit. -/
def Visit.passages : Visit → List Passage
  | .delivery station submission takers =>
    .delivered station submission :: takers.map (.given · submission.data)
  | .direct node data => [.given (.node node) data]

namespace Network

/-- What has been seen of packets since `n` are whole visits. -/
def Visited (n n' : Network) : Prop :=
  ∃ visits : List Visit, n'.lookBack Observation.passage? =
    n.lookBack Observation.passage? ++ visits.flatMap (·.passages)

/-- Submissions have left `station`, whose endpoint has become `e`, and those in `sent` have come to
its peer. -/
structure Departs (station : Nat) (e : Endpoint Sender) (sent : List (Submission Sender))
    (n n' : Network) : Prop where
  endpoint?_eq : ∀ other,
    n'.endpoint? other = if other = station then some e else n.endpoint? other
  callerCount_eq : n'.callerCount = n.callerCount
  deliveries_eq : ∀ other,
    n'.deliveries other = n.deliveries other ++ if other = station then sent else []
  visited : Visited n n'

/-- An operation moves the submissions of callers along; `failed` says where some were to be
released and a handler failed. -/
structure Conveys (failed : Nat → Prop) (n n' : Network) : Prop where
  step : ∀ station, Traffic.Step (failed station) (n.traffic station) (n'.traffic station)
  visited : Visited n n'

variable {n n' n'' : Network} {station : Nat} {s : Station} {e e' : Endpoint Sender}
  {sent sent' : List (Submission Sender)} {failed : Nat → Prop}

/-- The traffic at a station whose endpoint is known. -/
lemma traffic_of_endpoint? (there : n.endpoint? station = some e) :
    n.traffic station =
      { e.queues with delivered := n.delivered station, next := n.callerCount } := by
  rw [traffic, queues, there, Option.map_some, Option.getD_some]

/-- Where nothing is seen there was no visit. -/
lemma Visited.refl (n : Network) : Visited n n := ⟨[], (List.append_nil _).symm⟩

/-- The visits of two steps are whole ones in both. -/
lemma Visited.trans (first : Visited n n') (second : Visited n' n'') : Visited n n'' := by
  obtain ⟨visits, seen⟩ := first
  obtain ⟨visits', seen'⟩ := second
  exact ⟨visits ++ visits', by rw [seen', seen, List.append_assoc, List.flatMap_append]⟩

namespace Spares

/-- What spares the submissions of callers shows no visit. -/
lemma visited (spares : Spares n n') : Visited n n' :=
  ⟨[], spares.passages_eq.trans (List.append_nil _).symm⟩

/-- What spares the submissions of callers moves them along by nothing. -/
lemma conveys (spares : Spares n n') : Conveys failed n n' :=
  ⟨fun station => spares.traffic_eq station ▸ .stay _, spares.visited⟩

end Spares

/-! ## Packets that leave -/

section Deliveries

variable (n : Network) (data : Bytes)

/-- Putting a connection in its place concerns no packet. -/
lemma still_setConnection (node : Nat) (connection : Connection) :
    Still [] n (n.setConnection node connection) :=
  ⟨fun _ => rfl, rfl, (List.append_nil _).symm, rfl, [], (List.append_nil _).symm,
    List.forall_mem_nil _⟩

/-- A connection takes a packet. -/
lemma still_take (node : Nat) (connection : Connection) :
    Still [.given (.node node) data] n
      ((n.observe (.taken node data)).settleTurn node (connection.receive data).1) := by
  have taken : Aside [.given (.node node) data] n (n.observe (.taken node data)) :=
    .observe n rfl rfl
  have settled := settleTurn_induction (n.observe (.taken node data)) node
    (connection.receive data).1 (motive := fun _ n' => Still [] (n.observe (.taken node data)) n')
    (still_setConnection ..)
    fun mem still => still.trans (Aside.perform _ (connection.report_receive data _ mem)).toStill
  exact taken.toStill.trans settled

/-- Whatever a handler does, only taking the packet concerns the link. -/
lemma still_giveTo (handler : Handler) :
    ∃ takers : List Handler, Still (takers.map (.given · data)) n (n.giveTo data handler).1 := by
  unfold giveTo
  cases handler with
  | node node =>
    dsimp only
    split
    · rename_i x _
      exact ⟨[.node node], still_take n data node x.connection⟩
    · exact ⟨[], .refl n⟩
  | named handler =>
    dsimp only
    split
    · exact ⟨[], .refl n⟩
    · rename_i h _
      have seen : Aside [.given (.named handler) data] n
          (n.observe (.handled h.home handler data)) := .observe n rfl rfl
      have handled := seen.toStill
      refine ⟨[.named handler], ?_⟩
      split
      · exact handled
      · exact handled.trans (.unhandle ..)
      · exact handled.trans (.unhandle ..)
      · exact handled.trans (.handle ..)
      · exact handled

/-- Whatever the handlers do, a visit concerns the link only in that they take the packet. -/
lemma still_visit (station visits number : Nat) :
    ∃ takers : List Handler,
      Still (takers.map (.given · data)) n (visit station data visits number n).1 := by
  induction visits generalizing n number with
  | zero => exact ⟨[], .refl n⟩
  | succ visits ih =>
    rw [visit]
    split
    · exact ⟨[], .refl n⟩
    · rename_i registered handler _
      obtain ⟨takers, given⟩ := still_giveTo n data handler
      split
      · rename_i given' fault result
        rw [result] at given
        exact ⟨takers, given⟩
      · rename_i given' result
        rw [result] at given
        obtain ⟨others, visited⟩ := ih given' (registered + 1)
        exact ⟨takers ++ others, List.map_append ▸ given.trans visited⟩

variable {n}

/-- A packet that leaves its endpoint comes to the peer or not, and nothing else is changed but what
the drop rule has left. -/
lemma still_deliver (get : n.stations[station]? = some s) (submission : Submission Sender) :
    ∃ visits : List Visit,
      (visits = [] ∨ ∃ takers, visits = [.delivery station submission takers]) ∧
      Still (visits.flatMap (·.passages))
        (n.setEndpoint station (s.endpoint.askDrop submission.data).2)
        (n.deliver station submission).1 := by
  simp only [deliver, get]
  split
  · exact ⟨[], .inl rfl, .refl _⟩
  · cases s.peer with
    | none => exact ⟨[], .inl rfl, .refl _⟩
    | some peer =>
      let asked := n.setEndpoint station (s.endpoint.askDrop submission.data).2
      have left : Aside [.delivered station submission] asked
          (asked.observe (.delivered station submission)) := .observe asked rfl rfl
      obtain ⟨takers, visited⟩ := still_visit (asked.observe (.delivered station submission))
        submission.data peer asked.visitLimit 0
      refine ⟨[.delivery station submission takers], .inr ⟨takers, rfl⟩, ?_⟩
      rw [List.flatMap_singleton]
      exact left.toStill.trans visited

end Deliveries

namespace Departs

/-- Where nothing happens nothing has left. -/
lemma refl (there : n.endpoint? station = some e) : Departs station e [] n n := by
  refine ⟨fun other => ?_, rfl, fun other => ?_, .refl n⟩
  · split
    · rename_i here
      rw [here, there]
    · rfl
  · split <;> exact (List.append_nil _).symm

/-- Nothing is released where nothing is held. -/
lemma of_empty (there : n.endpoint? station = some e) (empty : e.held = []) :
    Departs station { e with held := [], drop := e.drop } [] n n := by
  have same : { e with held := [], drop := e.drop } = e := by rw [← empty]
  rw [same]
  exact refl there

/-- What leaves in two steps leaves in one after the other. -/
lemma trans (first : Departs station e sent n n')
    (second : Departs station e' sent' n' n'') : Departs station e' (sent ++ sent') n n'' := by
  refine ⟨fun other => ?_, second.callerCount_eq.trans first.callerCount_eq, fun other => ?_,
    first.visited.trans second.visited⟩
  · rw [second.endpoint?_eq, first.endpoint?_eq]
    split <;> rfl
  · rw [second.deliveries_eq, first.deliveries_eq, List.append_assoc]
    split <;> rfl

/-- A task that is left for later lets nothing leave. -/
lemma later (departs : Departs station e sent n n') (task : Task) :
    Departs station e sent n (n'.later task) :=
  ⟨departs.endpoint?_eq, departs.callerCount_eq, departs.deliveries_eq, departs.visited⟩

/-- An endpoint that is replaced may be changed before. -/
lemma of_modifyEndpoint {f : Endpoint Sender → Endpoint Sender}
    (departs : Departs station e sent (n.modifyEndpoint station f) n') :
    Departs station e sent n n' := by
  refine ⟨fun other => ?_, departs.callerCount_eq, departs.deliveries_eq, departs.visited⟩
  rw [departs.endpoint?_eq]
  split
  · rfl
  · rename_i apart
    exact endpoint?_modifyEndpoint_of_ne _ (Ne.symm apart) _

/-- An endpoint is changed and nothing has left. -/
lemma modifyEndpoint (there : n.endpoint? station = some e)
    (f : Endpoint Sender → Endpoint Sender) :
    Departs station (f e) [] n (n.modifyEndpoint station f) := by
  refine ⟨fun other => ?_, rfl, fun other => ?_, .refl n⟩
  · split
    · rename_i here
      rw [here, endpoint?_modifyEndpoint, there, Option.map_some]
    · rename_i apart
      exact endpoint?_modifyEndpoint_of_ne _ (Ne.symm apart) _
  · split <;> exact (List.append_nil _).symm

/-- Replacing the endpoint lets nothing leave. -/
lemma setEndpoint (there : n.endpoint? station = some e) (e' : Endpoint Sender) :
    Departs station e' [] n (n.setEndpoint station e') := modifyEndpoint there fun _ => e'

/-- A submission changes the endpoint and lets nothing leave. -/
lemma submit (there : n.endpoint? station = some e) (data : Bytes) (sender : Sender) :
    Departs station (e.submit ⟨data, sender⟩).1 [] n (n.submit station data sender) := by
  obtain ⟨s, get, rfl⟩ := Option.map_eq_some_iff.mp there
  have placed := setEndpoint there (s.endpoint.submit ⟨data, sender⟩).1
  simp only [Network.submit, get]
  split
  · exact placed.later _
  · exact placed
  · exact placed.later _

/-- A delivery lets its submission leave, or the drop rule keeps it from the peer. -/
lemma deliver (get : n.stations[station]? = some s) (submission : Submission Sender) :
    ∃ drop sent, sent.Sublist [submission] ∧
      Departs station { s.endpoint with drop } sent n (n.deliver station submission).1 := by
  obtain ⟨visits, only, still⟩ := still_deliver get submission
  obtain ⟨drop, asked⟩ := s.endpoint.exists_askDrop submission.data
  have replaced := setEndpoint (endpoint?_of_get get) (s.endpoint.askDrop submission.data).2
  rw [asked] at still replaced
  have visited : Visited (n.setEndpoint station { s.endpoint with drop })
    (n.deliver station submission).1 := ⟨visits, still.passages_eq⟩
  refine ⟨drop, (visits.flatMap (·.passages)).filterMap (Passage.delivered? station), ?_,
    fun other => ?_, still.callerCount_eq, fun other => ?_, visited⟩
  · obtain rfl | ⟨takers, rfl⟩ := only
    · exact List.nil_sublist _
    · simp [Visit.passages, Passage.delivered?]
  · rw [still.endpoint_eq, replaced.endpoint?_eq]
  · have seen : (n.deliver station submission).1.deliveries other = n.deliveries other ++
        (visits.flatMap (·.passages)).filterMap (Passage.delivered? other) := by
      rw [Network.deliveries_eq, still.passages_eq, List.filterMap_append, n.deliveries_eq]
      rfl
    refine seen.trans (congrArg _ ?_)
    obtain rfl | ⟨takers, rfl⟩ := only
    · split <;> rfl
    · split <;> rename_i here
      · rw [here]
      · simp [Visit.passages, Passage.delivered?, Ne.symm here]

/-- The oldest submission leaves a queue, by which the endpoint has become `e`. -/
lemma deliver_from (get : n.stations[station]? = some s) (e : Endpoint Sender)
    (submission : Submission Sender) :
    ∃ drop sent, sent.Sublist [submission] ∧ Departs station { e with drop } sent n
      ((n.setEndpoint station e).deliver station submission).1 := by
  have get' : (n.setEndpoint station e).stations[station]? = some { s with endpoint := e } := by
    simp [Network.setEndpoint, Network.modifyEndpoint, modifyStation, get]
  obtain ⟨drop, sent, sublist, departs⟩ := deliver get' submission
  exact ⟨drop, sent, sublist, departs.of_modifyEndpoint⟩

/-- The oldest submission that is held leaves its endpoint. -/
lemma release (get : n.stations[station]? = some s) {oldest : Submission Sender}
    {rest : List (Submission Sender)} (held : s.endpoint.held = oldest :: rest)
    (error : Option String) :
    (n.release station error).2 ≠ .ok false ∧ ∃ drop sent, sent.Sublist [oldest] ∧
      Departs station { s.endpoint with held := rest, drop } sent n
        (n.release station error).1 := by
  let e : Endpoint Sender := { s.endpoint with held := rest }
  have takeHeld : s.endpoint.takeHeld = some (oldest, e) := by
    simp only [Endpoint.takeHeld, held, e]
  simp only [Network.release, get, Option.bind_some, takeHeld]
  cases error with
  | some message =>
    refine ⟨by simp [Network.releaseOne], s.endpoint.drop, [], List.nil_sublist _, ?_⟩
    exact (setEndpoint (endpoint?_of_get get) e).later _
  | none =>
    obtain ⟨drop, sent, sublist, departs⟩ := deliver_from get e oldest
    simp only [Network.releaseOne]
    cases result : (n.setEndpoint station e).deliver station oldest with
    | mk delivered fault =>
      rw [result] at departs
      cases fault with
      | none => exact ⟨by simp, drop, sent, sublist, departs.later _⟩
      | some fault => exact ⟨by simp, drop, sent, sublist, departs⟩

/-- Those that are held leave in their order, and all of them unless a handler fails. -/
lemma releaseAll (there : n.endpoint? station = some e) {count : Nat}
    (enough : e.held.length ≤ count) :
    ∃ gone left drop sent, e.held = gone ++ left ∧ sent.Sublist gone ∧
      (left = [] ∨ (releaseAll station count n).2.isSome = true) ∧
      Departs station { e with held := left, drop } sent n (releaseAll station count n).1 := by
  induction count generalizing n e with
  | zero =>
    have empty := List.length_eq_zero_iff.mp (Nat.le_zero.mp enough)
    exact ⟨[], [], e.drop, [], empty, .refl _, .inl rfl, of_empty there empty⟩
  | succ count ih =>
    obtain ⟨s, get, rfl⟩ := Option.map_eq_some_iff.mp there
    rw [Network.releaseAll]
    cases held : s.endpoint.held with
    | nil =>
      have nobody : n.release station none = (n, .ok false) := by
        simp [Network.release, get, Endpoint.takeHeld, held]
      rw [nobody]
      exact ⟨[], [], s.endpoint.drop, [], rfl, .refl _, .inl rfl, of_empty there held⟩
    | cons oldest rest =>
      obtain ⟨released, drop, sent, sublist, departs⟩ := release get held none
      cases result : n.release station none with
      | mk n' answer =>
        rw [result] at released departs
        cases answer with
        | error fault =>
          exact ⟨[oldest], rest, drop, sent, rfl, sublist, .inr rfl, departs⟩
        | ok any =>
          cases any with
          | false => exact absurd rfl released
          | true =>
            have there' : n'.endpoint? station = some { s.endpoint with held := rest, drop } := by
              rw [departs.endpoint?_eq, if_pos rfl]
            have enough' : rest.length ≤ count := by
              rw [held] at enough
              exact Nat.le_of_succ_le_succ enough
            obtain ⟨gone, left, drop', sent', split, sublist', all, departs'⟩ :=
              ih there' enough'
            exact ⟨oldest :: gone, left, drop', sent ++ sent', congrArg (oldest :: ·) split,
              sublist.append sublist', all, departs.trans departs'⟩

/-- For the other stations nothing is changed. -/
lemma traffic_eq (departs : Departs station e sent n n') (other : Nat) :
    n'.traffic other =
      if other = station then
        { e.queues with
          delivered := n.delivered station ++ sent.filterMap (·.sender.ordinal?)
          next := n.callerCount }
      else n.traffic other := by
  have delivered : n'.delivered other = n.delivered other ++
      (if other = station then sent else []).filterMap (·.sender.ordinal?) := by
    rw [Network.delivered, departs.deliveries_eq, List.filterMap_append, Network.delivered]
  simp only [traffic, delivered, departs.callerCount_eq, queues, departs.endpoint?_eq]
  split
  · rename_i here
    rw [here]
    rfl
  · rw [List.filterMap_nil, List.append_nil]

end Departs

/-! ## Every operation -/

namespace Conveys

/-- What leaves a station moves its traffic along, and that of no other one. -/
lemma of_departs (departs : Departs station e' sent n n')
    (here : Traffic.Step (failed station) (n.traffic station)
      { e'.queues with
        delivered := n.delivered station ++ sent.filterMap (·.sender.ordinal?)
        next := n.callerCount }) :
    Conveys failed n n' := by
  refine ⟨fun other => ?_, departs.visited⟩
  rw [departs.traffic_eq]
  split
  · rename_i same
    rw [same]
    exact here
  · exact .stay _

/-- Submissions that were held leave. -/
lemma of_release (there : n.endpoint? station = some e) {gone left : List (Submission Sender)}
    (split : e.held = gone ++ left) (sublist : sent.Sublist gone) {holding : Bool}
    {drop : Option DropRule} (stops : holding = e.holding ∨ left = [] ∨ failed station)
    (departs : Departs station { e with holding, held := left, drop } sent n n') :
    Conveys failed n n' := by
  refine of_departs departs ?_
  rw [traffic_of_endpoint? there]
  have queue : e.held.filterMap (·.sender.ordinal?) =
      gone.filterMap (·.sender.ordinal?) ++ left.filterMap (·.sender.ordinal?) := by
    rw [split, List.filterMap_append]
  have stops : holding = e.holding ∨ left.filterMap (·.sender.ordinal?) = [] ∨ failed station :=
    stops.imp_right (.imp_left fun none => by rw [none, List.filterMap_nil])
  exact .release queue (sublist.filterMap _) stops

/-- Submissions leave that awaited their turn. -/
lemma of_turn (there : n.endpoint? station = some e) {gone left : List (Submission Sender)}
    (split : e.awaiting = gone ++ left) (sublist : sent.Sublist gone) {drop : Option DropRule}
    (departs : Departs station { e with awaiting := left, drop } sent n n') :
    Conveys failed n n' := by
  refine of_departs departs ?_
  rw [traffic_of_endpoint? there]
  have queue : e.awaiting.filterMap (·.sender.ordinal?) =
      gone.filterMap (·.sender.ordinal?) ++ left.filterMap (·.sender.ordinal?) := by
    rw [split, List.filterMap_append]
  exact .turn queue (sublist.filterMap _)

variable (n : Network) (station : Nat)

/-- Beginning to hold moves nothing. -/
lemma hold : Conveys failed n (n.modifyEndpoint station (·.hold)) := by
  cases there : n.endpoint? station with
  | none =>
    exact (Spares.modifyEndpoint n station fun e mem => by cases there.symm.trans mem).conveys
  | some e =>
    refine of_departs (Departs.modifyEndpoint there (·.hold)) ?_
    rw [traffic_of_endpoint? there, List.filterMap_nil, List.append_nil]
    exact .hold _

/-- A caller submits a packet. -/
lemma submitAsCaller (data : Bytes) : Conveys failed n (n.submitAsCaller station data).1 := by
  let counted : Network := { n with callerCount := n.callerCount + 1 }
  -- for every other endpoint a number is used up
  have refused (other : Nat) : Traffic.Step (failed other) (n.traffic other)
      (counted.traffic other) := .refuse _
  cases there : counted.endpoint? station with
  | none =>
    have nowhere : (n.submitAsCaller station data).1 = counted := by
      have get : n.stations[station]? = none := Option.map_eq_none_iff.mp there
      simp [Network.submitAsCaller, Network.submit, get, counted]
    rw [nowhere]
    exact ⟨refused, .refl n⟩
  | some e =>
    have departs := Departs.submit there data (.caller station n.callerCount)
    refine ⟨fun other => ?_, departs.visited⟩
    have after := departs.traffic_eq other
    rw [List.filterMap_nil, List.append_nil] at after
    refine after ▸ ?_
    split
    · rename_i here
      subst here
      have there' : n.endpoint? other = some e := there
      rw [traffic_of_endpoint? there']
      obtain same | ⟨holding, same⟩ | ⟨holding, same⟩ :=
        e.queues_submit ⟨data, .caller other n.callerCount⟩
      · rw [same]
        exact .refuse _
      · rw [same]
        exact .keep holding
      · rw [same]
        exact .accept holding
    · exact refused other

/-- The oldest submission that is held is released. -/
lemma release (error : Option String) : Conveys failed n (n.release station error).1 := by
  cases get : n.stations[station]? with
  | none =>
    have nobody : n.release station error = (n, .ok false) := by simp [Network.release, get]
    rw [nobody]
    exact (Spares.refl n).conveys
  | some s =>
    cases held : s.endpoint.held with
    | nil =>
      have nobody : n.release station error = (n, .ok false) := by
        simp [Network.release, get, Endpoint.takeHeld, held]
      rw [nobody]
      exact (Spares.refl n).conveys
    | cons oldest rest =>
      obtain ⟨_, drop, sent, sublist, departs⟩ := Departs.release get held error
      exact of_release (endpoint?_of_get get) held sublist (.inl rfl) departs

/-- The endpoint stops holding. -/
lemma resume (fails : (n.resume station).2.isSome = true → failed station) :
    Conveys failed n (n.resume station).1 := by
  cases get : n.stations[station]? with
  | none =>
    have nobody : n.resume station = (n.modifyEndpoint station (·.stopHolding), none) := by
      simp [Network.resume, Network.modifyEndpoint, modifyStation, get]
    have nowhere : n.endpoint? station = none := by rw [endpoint?, get, Option.map_none]
    rw [nobody]
    exact (Spares.modifyEndpoint n station fun e mem => by cases nowhere.symm.trans mem).conveys
  | some s =>
    let stopped := n.modifyEndpoint station (·.stopHolding)
    have get' : stopped.stations[station]? =
        some { s with endpoint := s.endpoint.stopHolding } := by
      simp [stopped, Network.modifyEndpoint, modifyStation, get]
    have resumed : n.resume station = releaseAll station s.endpoint.held.length stopped := by
      rw [Network.resume, get']
      rfl
    obtain ⟨gone, left, drop, sent, split, sublist, all, departs⟩ :=
      Departs.releaseAll (endpoint?_of_get get') (Nat.le_refl _)
    rw [resumed] at fails ⊢
    exact of_release (endpoint?_of_get get) split sublist (.inr (all.imp_right fails))
      departs.of_modifyEndpoint

/-- The oldest submission that awaits its turn leaves. -/
lemma carryOut_deliver : Conveys failed n (n.carryOut (.deliver station)) := by
  cases get : n.stations[station]? with
  | none =>
    simp only [carryOut, get, Option.bind_none]
    exact (Spares.refl n).conveys
  | some s =>
    cases awaiting : s.endpoint.awaiting with
    | nil =>
      simp only [carryOut, get, Option.bind_some, Endpoint.takeAwaiting, awaiting]
      exact (Spares.refl n).conveys
    | cons oldest rest =>
      let e : Endpoint Sender := { s.endpoint with awaiting := rest }
      obtain ⟨drop, sent, sublist, departs⟩ := Departs.deliver_from get e oldest
      have takeAwaiting : s.endpoint.takeAwaiting = some (oldest, e) := by
        simp only [Endpoint.takeAwaiting, awaiting, e]
      simp only [carryOut, get, Option.bind_some, takeAwaiting]
      cases result : (n.setEndpoint station e).deliver station oldest with
      | mk delivered fault =>
        rw [result] at departs
        cases fault with
        | none => exact of_turn (endpoint?_of_get get) awaiting sublist (departs.later _)
        | some fault => exact of_turn (endpoint?_of_get get) awaiting sublist (departs.later _)

/-- A turn of the loop moves the oldest submission along, if it is its turn. -/
lemma turn : Conveys failed n (n.turn.getD n) := by
  unfold Network.turn
  cases waits : n.tasks with
  | nil => exact (Spares.refl n).conveys
  | cons task tasks =>
    let begun : Network := { n with tasks }
    -- taking the task has to do with nobody
    suffices Conveys failed begun (begun.carryOut task) from ⟨this.step, this.visited⟩
    cases task with
    | deliver station => exact carryOut_deliver begun station
    | release sender outcome => exact (Spares.later begun _).conveys
    | conclude sender outcome => exact (Spares.conclude begun outcome sender).conveys
    | emit node event listeners =>
      have told : Spares begun
          ((begun.observe (.emitted node event)).tellAll node event listeners).1 :=
        (Spares.observe begun rfl).trans (.tellAll ..)
      unfold carryOut
      dsimp only
      split
      · exact (told.trans (.observe _ rfl)).conveys
      · exact told.conveys
    | resolve owner result => exact (Spares.observe begun rfl).conveys
    | await node waiter event => exact (Spares.observe begun rfl).conveys

/-- A connection is given bytes. -/
lemma receive (node : Nat) (data : Bytes) : Conveys failed n (n.receive node data).1 := by
  unfold Network.receive
  split
  · rename_i x _
    have still := still_take n data node x.connection
    refine ⟨fun other => ?_, [.direct node data], still.passages_eq⟩
    have same : ((n.observe (.taken node data)).settleTurn node
        (x.connection.receive data).1).traffic other = n.traffic other := by
      simp only [traffic, Network.delivered, deliveries_eq, queues, still.endpoint_eq,
        still.callerCount_eq, still.passages_eq, List.filterMap_append]
      simp [Passage.delivered?]
    exact same ▸ .stay _
  · exact (Spares.refl n).conveys

end Conveys

end Network

end PacketLink
