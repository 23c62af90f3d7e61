import PacketLink.Proofs.Network.Ledger

/-!
# What becomes of the packets on a link

`Custody` says that the parcels account for a link, also in the middle of an operation, when a task
has been taken or a packet is about to be seen. Submissions, releases and turns keep it, and so does
everything else that can be done at the two ends. Main statement: `Ledger.run_exact`.
-/

namespace PacketLink

namespace Network

/-- The parcels account for a link that is used by callers, with `hand` the tasks that were taken or
are about to be left, and `ahead` what is still to be seen of the packet that is delivered. -/
structure Custody (plans : Side → List String) (hand : List Task) (ahead : List Passage)
    (n : Network) (parcels : List Parcel) : Prop where
  cabled : n.Cabled
  ordinals : parcels.map (·.ordinal) = List.range n.callerCount
  fated : ∀ p ∈ parcels, p.Fated
  agrees : ∀ side : Side, ∃ e, n.endpoint? side.place = some e ∧
    e.Agrees (plans side) parcels side.place
  due : ∀ side : Side, ((n.tasks ++ hand).filterMap Task.station?).count side.place =
    (parcels.filter (·.waits side.place .awaiting)).length
  verdicts : (n.lookBack Observation.verdict? ++ (n.tasks ++ hand).filterMap Task.verdict?).Perm
    (parcels.filterMap (·.verdict?))
  passages : ∃ order : List Parcel, order.Perm (parcels.filter (·.isDelivered)) ∧
    n.lookBack Observation.passage? ++ ahead = order.flatMap (·.passages)

variable {plans plans' : Side → List String} {hand : List Task} {ahead : List Passage}
  {n n' : Network} {parcels : List Parcel} {side : Side} {s : Station} {e : Endpoint Sender}
  {task : Task}

/-- An endpoint that stops holding releases what is held, one submission after the other. -/
lemma Cabled.resume_eq (cabled : n.Cabled) (side : Side) :
    n.resume side.place = Network.releaseAll side.place (n.held side.place).length
      (n.modifyEndpoint side.place (·.stopHolding)) := by
  obtain ⟨s, get, _⟩ := cabled.station side
  have get' : (n.modifyEndpoint side.place (·.stopHolding)).stations[side.place]? =
      some { s with endpoint := s.endpoint.stopHolding } := by
    simp [Network.modifyEndpoint, Network.modifyStation, get]
  have held : n.held side.place = s.endpoint.stopHolding.held := held_of_get get
  simp only [Network.resume, get', held]

/-- What holds of both endpoints, after one of them has changed. -/
lemma endpoints_modify {holds holds' : Side → Endpoint Sender → Prop}
    (both : ∀ side : Side, ∃ e, n.endpoint? side.place = some e ∧ holds side e) (actor : Side)
    (f : Endpoint Sender → Endpoint Sender) (here : ∀ e, holds actor e → holds' actor (f e))
    (others : ∀ side e, actor ≠ side → holds side e → holds' side e) (side : Side) :
    ∃ e, (n.modifyEndpoint actor.place f).endpoint? side.place = some e ∧ holds' side e := by
  obtain ⟨e, get, before⟩ := both side
  by_cases same : actor = side
  · subst same
    exact ⟨f e, by rw [endpoint?_modifyEndpoint, get, Option.map_some], here e before⟩
  · refine ⟨e, ?_, others side e same before⟩
    rw [endpoint?_modifyEndpoint_of_ne _ (by simp [same]), get]

namespace Custody

/-! ## Steps that no parcel notices -/

/-- The station at an end, with its peer and what the parcels say of its endpoint. -/
lemma station_get (custody : Custody plans hand ahead n parcels) (side : Side) :
    ∃ s, n.stations[side.place]? = some s ∧ s.peer = some side.other.place ∧
      n.endpoint? side.place = some s.endpoint ∧
      s.endpoint.Agrees (plans side) parcels side.place := by
  obtain ⟨s, get, peer⟩ := custody.cabled.station side
  have endpoint : n.endpoint? side.place = some s.endpoint := by
    rw [endpoint?, get, Option.map_some]
  obtain ⟨e, there, agrees⟩ := custody.agrees side
  obtain rfl := Option.some.inj (endpoint.symm.trans there)
  exact ⟨s, get, peer, endpoint, agrees⟩

/-- What is seen of packets was ahead. -/
lemma still (custody : Custody plans hand ahead n parcels) (still : Still ahead n n')
    (cabled : n'.Cabled) : Custody plans hand [] n' parcels := by
  obtain ⟨emissions, tasks, emit⟩ := still.tasks
  have none {α : Type} {f : Task → Option α}
      (silent : ∀ task, task.isEmission = true → f task = none) :
      (n'.tasks ++ hand).filterMap f = (n.tasks ++ hand).filterMap f := by
    have nothing : emissions.filterMap f = [] :=
      List.filterMap_eq_nil_iff.mpr fun task mem => silent task (emit task mem)
    rw [tasks, List.filterMap_append, List.filterMap_append, nothing, List.append_nil,
      List.filterMap_append]
  refine ⟨cabled, still.callerCount_eq ▸ custody.ordinals, custody.fated, fun side => ?_,
    fun side => ?_, ?_, ?_⟩
  · rw [still.endpoint_eq]
    exact custody.agrees side
  · rw [none fun task emission => by cases task <;> first | rfl | cases emission]
    exact custody.due side
  · rw [still.verdicts_eq, none fun task emission => by cases task <;> first | rfl | cases emission]
    exact custody.verdicts
  · rw [still.passages_eq, List.append_nil]
    exact custody.passages

/-- An endpoint changes in a way that the parcels account for. -/
lemma modifyEndpoint (custody : Custody plans hand ahead n parcels)
    {f : Endpoint Sender → Endpoint Sender}
    (agrees : ∀ e, e.Agrees (plans side) parcels side.place →
      (f e).Agrees (plans' side) parcels side.place)
    (others : ∀ other, side ≠ other → plans' other = plans other) :
    Custody plans' hand ahead (n.modifyEndpoint side.place f) parcels := by
  refine ⟨custody.cabled.modifyEndpoint .., custody.ordinals, custody.fated, ?_, custody.due,
    custody.verdicts, custody.passages⟩
  refine endpoints_modify custody.agrees side f agrees fun other e apart agree => ?_
  rw [others other apart]
  exact agree

/-- To hold nothing any more is nothing that a parcel notices. -/
lemma stopHolding (custody : Custody plans hand ahead n parcels) :
    Custody plans hand ahead (n.modifyEndpoint side.place (·.stopHolding)) parcels :=
  custody.modifyEndpoint (fun _ agrees => agrees.of_same rfl rfl rfl rfl) fun _ _ => rfl

/-! ## Tasks -/

/-- The oldest task is taken. -/
lemma dequeue (custody : Custody plans [] [] n parcels) {tasks : List Task}
    (waits : n.tasks = task :: tasks) : Custody plans [task] [] { n with tasks } parcels := by
  have perm : (tasks ++ [task]).Perm (n.tasks ++ []) := by
    rw [waits, List.append_nil]
    exact List.perm_append_singleton ..
  refine ⟨custody.cabled.dequeue waits, custody.ordinals, custody.fated, custody.agrees,
    fun side => ?_, ?_, custody.passages⟩
  · rw [← custody.due side]
    exact (perm.filterMap _).count_eq _
  · exact ((perm.filterMap _).append_left _).trans custody.verdicts

/-- The task in hand is left for a later turn. -/
lemma later (custody : Custody plans (task :: hand) ahead n parcels) (plain : task.isPlain = true) :
    Custody plans hand ahead (n.later task) parcels := by
  have same : (n.later task).tasks ++ hand = n.tasks ++ task :: hand := by
    rw [Network.later, List.append_assoc]
    rfl
  refine ⟨custody.cabled.later plain, custody.ordinals, custody.fated, custody.agrees,
    fun side => ?_, ?_, custody.passages⟩
  · rw [same]
    exact custody.due side
  · rw [same]
    exact custody.verdicts

/-- One task is as good as another one that delivers from the same station, to the same end. -/
lemma replace (custody : Custody plans [task] ahead n parcels) (hand : List Task)
    (stations : hand.filterMap Task.station? = task.station?.toList)
    (verdicts : hand.filterMap Task.verdict? = task.verdict?.toList) :
    Custody plans hand ahead n parcels := by
  refine ⟨custody.cabled, custody.ordinals, custody.fated, custody.agrees, fun side => ?_, ?_,
    custody.passages⟩
  · rw [← custody.due side, List.filterMap_append, stations, List.filterMap_append]
    cases station : task.station? <;> simp [station]
  · have custody := custody.verdicts
    rw [List.filterMap_append] at custody ⊢
    rw [verdicts]
    cases verdict : task.verdict? <;> simpa [verdict] using custody

/-- A caller hears the outcome of a submission. -/
lemma conclude {station ordinal : Nat} {outcome : Outcome}
    (custody : Custody plans [.conclude (.caller station ordinal) outcome] ahead n parcels) :
    Custody plans [] ahead (n.observe (.concluded station ordinal outcome)) parcels := by
  refine ⟨custody.cabled.observe _, custody.ordinals, custody.fated, custody.agrees,
    fun side => ?_, ?_, ?_⟩
  · rw [← custody.due side, List.filterMap_append, List.filterMap_append]
    rfl
  · refine List.Perm.trans ?_ custody.verdicts
    rw [lookBack_observe, List.append_assoc]
    refine List.Perm.append_left _ ?_
    rw [List.append_nil, List.filterMap_append]
    exact (List.perm_append_singleton ..).symm
  · have seen : (n.observe (.concluded station ordinal outcome)).lookBack Observation.passage? =
        n.lookBack Observation.passage? := lookBack_unseen _ rfl
    rw [seen]
    exact custody.passages

/-! ## Submissions -/

/-- A submission is one more parcel, with `hand` what is to be done about it later. -/
lemma post (custody : Custody plans [] [] n parcels) {p : Parcel}
    (ordinal : p.ordinal = n.callerCount) (fated : p.Fated) (kept : p.isDelivered = false)
    (agrees : e.Agrees (plans p.side) (parcels ++ [p]) p.side.place)
    (stations : hand.filterMap Task.station? = if p.fate = .awaiting then [p.side.place] else [])
    (verdicts : hand.filterMap Task.verdict? = p.verdict?.toList) :
    Custody plans hand [] ({ n with callerCount := n.callerCount + 1 }.setEndpoint p.side.place e)
      (parcels ++ [p]) := by
  let counted : Network := { n with callerCount := n.callerCount + 1 }
  have cabled : counted.Cabled := { custody.cabled with }
  refine ⟨cabled.modifyEndpoint .., ?_, ?_, ?_, fun side => ?_, ?_, ?_⟩
  · rw [List.map_append, custody.ordinals, List.map_singleton, ordinal]
    exact List.range_succ.symm
  · exact List.forall_mem_append.mpr ⟨custody.fated, List.forall_mem_singleton.mpr fated⟩
  · have before : ∀ side : Side, ∃ e, counted.endpoint? side.place = some e ∧
        e.Agrees (plans side) parcels side.place := custody.agrees
    exact endpoints_modify before p.side _ (fun _ _ => agrees) fun side old apart agree =>
      agree.append_other (by simpa using apart)
  · have due := custody.due side
    rw [List.append_nil] at due
    have tasks : (n.tasks ++ hand).filterMap Task.station? =
        n.tasks.filterMap Task.station? ++ if p.fate = .awaiting then [p.side.place] else [] := by
      rw [List.filterMap_append, stations]
    refine (congrArg (List.count side.place) tasks).trans ?_
    rw [List.count_append, due, List.filter_append, List.length_append]
    by_cases fate : p.fate = .awaiting <;> by_cases here : p.side = side <;>
      simp [Parcel.waits, fate, here]
  · have before := custody.verdicts
    rw [List.append_nil] at before
    have one : [p].filterMap (·.verdict?) = p.verdict?.toList := by
      cases verdict : p.verdict? <;> simp [verdict]
    rw [List.filterMap_append, verdicts, ← List.append_assoc]
    refine (before.append_right _).trans ?_
    rw [List.filterMap_append, one]
  · obtain ⟨order, perm, seen⟩ := custody.passages
    refine ⟨order, ?_, seen⟩
    rw [List.filter_append, List.filter_cons_of_neg (by simp [kept]), List.filter_nil,
      List.append_nil]
    exact perm

/-- An endpoint takes a parcel or refuses it. -/
lemma takes (custody : Custody plans [] [] n parcels) {p : Parcel}
    (ordinal : p.ordinal = n.callerCount) (fated : p.Fated) {old : Endpoint Sender}
    (agrees : old.Agrees (plans p.side) parcels p.side.place) {disposition : Disposition}
    (took : old.Takes p e disposition) {posted : Network}
    (same : posted = { n with callerCount := n.callerCount + 1 }.setEndpoint p.side.place e) :
    Custody plans [] []
      (match disposition with
        | .refused fault => posted.later (.conclude p.submission.sender (.rejected fault))
        | .held => posted
        | .accepted => posted.later (.deliver p.side.place))
      (parcels ++ [p]) := by
  have posted {hand : List Task}
      (stations : hand.filterMap Task.station? = if p.fate = .awaiting then [p.side.place] else [])
      (verdicts : hand.filterMap Task.verdict? = p.verdict?.toList) :=
    custody.post ordinal fated took.isDelivered_eq (agrees.takes took) stations verdicts
  rw [same]
  cases took with
  | oversize _ fate =>
    refine (posted (by simp [fate, Task.station?]) ?_).later rfl
    simp [Parcel.verdict?, Parcel.outcome?, fate, Task.verdict?, Parcel.submission]
  | failed _ _ _ fate =>
    refine (posted (by simp [fate, Task.station?]) ?_).later rfl
    simp [Parcel.verdict?, Parcel.outcome?, fate, Task.verdict?, Parcel.submission]
  | held _ _ fate =>
    exact posted (by simp [fate]) (by simp [Parcel.verdict?, Parcel.outcome?, fate])
  | accepted _ _ fate =>
    refine (posted (by simp [fate, Task.station?]) ?_).later (decide_eq_true p.side.place_lt)
    simp [Parcel.verdict?, Parcel.outcome?, fate, Task.verdict?]

/-- A submission is accounted for by its parcel. -/
lemma submit (custody : Custody plans [] [] n parcels) (side : Side) (data : Bytes) :
    Custody plans [] [] (n.submitAsCaller side.place data).1
      (Parcel.apply n parcels (.submit side data)) := by
  obtain ⟨s, get, _, endpoint, agrees⟩ := custody.station_get side
  obtain ⟨e, disposition, result, took⟩ := s.endpoint.takes_submit side data n.callerCount
  have submitted : s.endpoint.submit ⟨data, .caller side.place n.callerCount⟩ = (e, disposition) :=
    result
  rw [Parcel.apply_submit endpoint]
  simp only [submitAsCaller, Network.submit, get, submitted]
  have fated := Parcel.fated_fate (s.endpoint.posting side data) n.callerCount s.endpoint.holding
  exact custody.takes rfl fated agrees took rfl

/-! ## Packets that leave -/

/-- The oldest parcel that waits somewhere leaves its endpoint and gets its final fate. -/
lemma take {before after : List Parcel} {p : Parcel} {fate : Fate}
    (custody : Custody plans hand [] n (before ++ p :: after))
    (earlier : ∀ q ∈ before, ¬q.waits p.side.place p.fate = true)
    (waits : p.fate.isWaiting = true) (final : fate.isFinal = true)
    (nodup : ∀ handlers, fate = .delivered handlers → handlers.Nodup)
    (agrees : e.Agrees (plans p.side) (before ++ { p with fate } :: after) p.side.place)
    {hand' : List Task} (silent : hand.filterMap Task.verdict? = [])
    (verdicts : hand'.filterMap Task.verdict? = ({ p with fate } : Parcel).verdict?.toList)
    (stations : hand.filterMap Task.station? =
      (if p.fate = .awaiting then [p.side.place] else []) ++ hand'.filterMap Task.station?) :
    Custody plans hand' ({ p with fate } : Parcel).passages (n.setEndpoint p.side.place e)
      (before ++ { p with fate } :: after) := by
  refine ⟨custody.cabled.modifyEndpoint .., ?_, ?_, ?_, fun side => ?_, ?_, ?_⟩
  · exact Eq.trans (by simp) custody.ordinals
  · intro q mem
    have old := custody.fated
    rw [List.forall_mem_append, List.forall_mem_cons] at old
    obtain mem | mem := List.mem_append.mp mem
    · exact old.1 q mem
    · obtain rfl | mem := List.mem_cons.mp mem
      · exact old.2.1.final waits final nodup
      · exact old.2.2 q mem
  · refine endpoints_modify custody.agrees p.side _ (fun _ _ => agrees)
      fun side old apart agree => ?_
    exact agree.settled earlier final rfl rfl (by simp [Parcel.waits, apart])
      (by simp [Parcel.waits, apart])
  · have due := custody.due side
    rw [List.filterMap_append, stations, Parcel.filter_waits_settled earlier final rfl,
      List.length_append, List.count_append, List.count_append] at due
    have tasks : ((n.setEndpoint p.side.place e).tasks ++ hand').filterMap Task.station? =
        n.tasks.filterMap Task.station? ++ hand'.filterMap Task.station? := List.filterMap_append
    rw [tasks, List.count_append]
    by_cases fate : p.fate = .awaiting <;> by_cases here : p.side = side <;>
      simp [Parcel.waits, fate, here] at due ⊢ <;> omega
  · have before := custody.verdicts
    rw [List.filterMap_append, silent, List.append_nil] at before
    rw [List.filterMap_append, verdicts, ← List.append_assoc]
    exact (before.append_right _).trans (Parcel.verdicts_settled waits)
  · obtain ⟨order, perm, seen⟩ := custody.passages
    obtain ⟨order', perm', passages⟩ := Parcel.passages_settled fate waits perm
    rw [List.append_nil] at seen
    exact ⟨order', perm', by rw [passages, ← seen]; rfl⟩

/-- The endpoint loses the oldest parcel that waits, which gets the fate that is found for it. Its
outcome is what the next task is about. -/
lemma leave (custody : Custody plans hand [] n parcels) (get : n.stations[side.place]? = some s)
    (waiting : Fate) (waits : waiting.isWaiting = true) {oldest : Submission Sender}
    {rest : List (Submission Sender)}
    (queue : oldest :: rest = (parcels.filter (·.waits side.place waiting)).map (·.submission))
    {find : Bytes → Fate} (final : ∀ data, (find data).isFinal = true)
    (nodup : ∀ {data handlers}, find data = .delivered handlers → handlers.Nodup)
    (submitted : e.submitted = s.endpoint.submitted) (failures : e.failures = s.endpoint.failures)
    (held : s.endpoint.held = (if waiting = .held then [oldest] else []) ++ e.held)
    (awaiting :
      s.endpoint.awaiting = (if waiting = .awaiting then [oldest] else []) ++ e.awaiting)
    (silent : hand.filterMap Task.verdict? = []) :
    ∃ p : Parcel, p.submission = oldest ∧ p.side = side ∧ p.fate = find p.data ∧
      ∀ task : Task, task.verdict? = p.verdict? →
        hand.filterMap Task.station? =
          (if waiting = .awaiting then [side.place] else []) ++ task.station?.toList →
        Custody plans [task] p.passages (n.setEndpoint side.place e)
          (Parcel.settle side.place waiting find parcels) := by
  obtain ⟨before, p, after, rfl, here, rfl, earlier⟩ := Parcel.exists_split queue
  obtain ⟨rfl, rfl⟩ : p.side = side ∧ p.fate = waiting := by simpa [Parcel.waits] using here
  obtain ⟨s', get', _, _, agrees⟩ := custody.station_get p.side
  obtain rfl := Option.some.inj (get'.symm.trans get)
  have agrees' : e.Agrees (plans p.side) (before ++ { p with fate := find p.data } :: after)
      p.side.place :=
    agrees.settled earlier (final p.data) submitted failures (by simpa [Parcel.waits] using held)
      (by simpa [Parcel.waits] using awaiting)
  refine ⟨{ p with fate := find p.data }, rfl, rfl, rfl, fun task verdict station => ?_⟩
  rw [Parcel.settle_eq here earlier]
  refine custody.take earlier waits (final p.data) (fun _ => nodup) agrees' silent ?_ ?_
  · rw [← verdict]
    cases heard : task.verdict? <;> simp [heard]
  · rw [station]
    cases due : task.station? <;> simp [due]

/-- The packet of the parcel that has left is delivered or dropped. -/
lemma deliver {p : Parcel} (custody : Custody plans hand p.passages n parcels)
    (leaves : p.fate = n.departure p.side.place p.data) :
    ∃ n', n.deliver p.side.place p.submission = (n', none) ∧ Custody plans hand [] n' parcels := by
  obtain ⟨s, get, peer, _, agrees⟩ := custody.station_get p.side
  obtain ⟨n', delivered, aside⟩ := custody.cabled.deliver_eq get p.submission
  have asked : Custody plans hand p.passages
      (n.setEndpoint p.side.place (s.endpoint.askDrop p.data).2) parcels :=
    custody.modifyEndpoint (fun _ _ => agrees.askDrop p.data) fun _ _ => rfl
  have seen : p.passages = if (s.endpoint.askDrop p.data).1 then [] else
      .delivered p.side.place p.submission ::
        (n.takers p.side.other.place).map (.given · p.data) := by
    rw [departure_of_get get peer] at leaves
    unfold Parcel.passages
    split at leaves <;> simp [*]
  refine ⟨n', delivered, ?_⟩
  rw [seen] at asked
  exact asked.still aside.toStill (asked.cabled.aside aside)

/-- A parcel that was held is delivered, dropped or given back. -/
lemma releaseOne {p : Parcel} {error : Option String} {outcome : Outcome}
    (custody : Custody plans [.release p.submission.sender outcome] p.passages n parcels)
    (leaves : p.fate = n.releaseFate p.side.place error p.data)
    (heard : p.outcome? = some outcome) :
    ∃ n', n.releaseOne p.side.place p.submission error = (n', none) ∧
      Custody plans [] [] n' parcels := by
  cases error with
  | some message =>
    have fate : p.fate = .returned message := leaves
    obtain rfl : .rejected (.error message) = outcome := by
      simpa [Parcel.outcome?, fate] using heard
    have unseen : p.passages = [] := by simp [Parcel.passages, fate]
    rw [unseen] at custody
    exact ⟨_, rfl, custody.later rfl⟩
  | none =>
    obtain rfl : .accepted = outcome :=
      Option.some.inj ((outcome?_of_departure leaves).symm.trans heard)
    obtain ⟨n', delivered, custody⟩ := custody.deliver leaves
    refine ⟨n'.later (.release p.submission.sender .accepted), ?_, custody.later rfl⟩
    simp only [Network.releaseOne, delivered]

/-- Nobody is settled while nothing is held. -/
lemma settle_held (custody : Custody plans hand ahead n parcels)
    (none : (n.held side.place).isEmpty = true) (find : Bytes → Fate) :
    Parcel.settle side.place .held find parcels = parcels := by
  obtain ⟨s, get, _, _, agrees⟩ := custody.station_get side
  rw [held_of_get get, List.isEmpty_iff, agrees.held, List.map_eq_nil_iff] at none
  exact Parcel.settle_of_none none

/-- The oldest parcel that is held is released. -/
lemma release (custody : Custody plans [] [] n parcels) (side : Side) (error : Option String) :
    ∃ n', n.release side.place error = (n', .ok !(n.held side.place).isEmpty) ∧
      Custody plans [] [] n'
        (Parcel.settle side.place .held (n.releaseFate side.place error) parcels) := by
  obtain ⟨s, get, peer, _, agrees⟩ := custody.station_get side
  have held_eq : n.held side.place = s.endpoint.held := held_of_get get
  cases held : s.endpoint.held with
  | nil =>
    have none : (n.held side.place).isEmpty = true := by rw [held_eq, held, List.isEmpty_nil]
    refine ⟨n, ?_, by rwa [custody.settle_held none]⟩
    simp [Network.release, get, Endpoint.takeHeld, held, none]
  | cons oldest rest =>
    let e : Endpoint Sender := { s.endpoint with held := rest }
    obtain ⟨p, rfl, rfl, fate, custody⟩ := custody.leave get (e := e) .held rfl
      (held.symm.trans agrees.held) (isFinal_releaseFate n side.place error)
      (fun leaves => custody.cabled.nodup_releaseFate leaves) rfl rfl held rfl rfl
    have leaves : p.fate = (n.setEndpoint p.side.place e).releaseFate p.side.place error p.data :=
      fate.trans (releaseFate_setEndpoint (e := e) get peer rfl ..).symm
    have final : p.fate.isFinal = true := fate ▸ isFinal_releaseFate ..
    obtain ⟨outcome, heard⟩ := Parcel.exists_outcome final
    have verdict : p.verdict? = some (p.side.place, p.ordinal, outcome) := by
      rw [Parcel.verdict?, heard, Option.map_some]
    obtain ⟨n', released, custody⟩ :=
      (custody (.release p.submission.sender outcome) verdict.symm rfl).releaseOne leaves heard
    have takeHeld : s.endpoint.takeHeld = some (p.submission, e) := by
      simp only [Endpoint.takeHeld, held, e]
    refine ⟨n', ?_, custody⟩
    simp only [Network.release, get, Option.bind_some, takeHeld, released, held_eq, held,
      List.isEmpty_cons, Bool.not_false]

/-- Releases one after the other are accounted for. -/
lemma releaseAll (custody : Custody plans [] [] n parcels) (side : Side) (count : Nat) :
    Custody plans [] [] (Network.releaseAll side.place count n).1
      (Parcel.releaseAll side.place count n parcels) := by
  induction count generalizing n parcels with
  | zero => exact custody
  | succ count ih =>
    obtain ⟨n', released, custody'⟩ := custody.release side none
    rw [Network.releaseAll, Parcel.releaseAll, released]
    cases none : (n.held side.place).isEmpty with
    | true => exact custody.settle_held none _ ▸ custody'
    | false => exact ih custody'

/-- Releasing everything that is held is accounted for. -/
lemma resume (custody : Custody plans [] [] n parcels) (side : Side) :
    Custody plans [] [] (n.resume side.place).1 (Parcel.apply n parcels (.resume side)) := by
  rw [custody.cabled.resume_eq side]
  exact custody.stopHolding.releaseAll side _

/-! ## Turns -/

/-- When a station is to deliver, something awaits delivery there. -/
lemma exists_awaiting {tasks : List Task} (custody : Custody plans [] [] n parcels)
    (waits : n.tasks = .deliver side.place :: tasks) (get : n.stations[side.place]? = some s) :
    ∃ oldest rest, s.endpoint.awaiting = oldest :: rest := by
  have due := custody.due side
  obtain ⟨s', get', _, _, agrees⟩ := custody.station_get side
  obtain rfl := Option.some.inj (get'.symm.trans get)
  refine List.exists_cons_of_ne_nil fun none => ?_
  have empty := List.map_eq_nil_iff.mp (agrees.awaiting.symm.trans none)
  rw [empty, waits] at due
  simp [Task.station?] at due

/-- The oldest parcel that awaits delivery has its turn. -/
lemma carryOut_deliver {tasks : List Task} (custody : Custody plans [] [] n parcels)
    (waits : n.tasks = .deliver side.place :: tasks) :
    Custody plans [] [] ({ n with tasks }.carryOut (.deliver side.place))
      (Parcel.settle side.place .awaiting (n.departure side.place) parcels) := by
  have taken := custody.dequeue waits
  obtain ⟨s, get, peer, _, agrees⟩ := taken.station_get side
  obtain ⟨oldest, rest, awaiting⟩ := custody.exists_awaiting waits get
  let e : Endpoint Sender := { s.endpoint with awaiting := rest }
  obtain ⟨p, rfl, rfl, fate, custody⟩ := taken.leave get (e := e) .awaiting rfl
    (awaiting.symm.trans agrees.awaiting) (isFinal_departure n side.place)
    (fun leaves => custody.cabled.nodup_departure leaves) rfl rfl rfl awaiting rfl
  have leaves : p.fate =
      ({ n with tasks }.setEndpoint p.side.place e).departure p.side.place p.data :=
    fate.trans (departure_setEndpoint (n := { n with tasks }) (e := e) get peer rfl _).symm
  have verdict : p.verdict? = some (p.side.place, p.ordinal, .accepted) := by
    rw [Parcel.verdict?, outcome?_of_departure leaves, Option.map_some]
  obtain ⟨n', delivered, custody⟩ :=
    (custody (.conclude p.submission.sender .accepted) verdict.symm rfl).deliver leaves
  have takeAwaiting : s.endpoint.takeAwaiting = some (p.submission, e) := by
    simp only [Endpoint.takeAwaiting, awaiting, e]
  simp only [carryOut, get, Option.bind_some, takeAwaiting, delivered]
  exact custody.later rfl

/-- An event is told to nobody. -/
lemma carryOut_emit {node : Nat} {event : Event} {listeners : List Listener} {tasks : List Task}
    (custody : Custody plans [] [] n parcels)
    (waits : n.tasks = .emit node event listeners :: tasks) :
    Custody plans [] [] ({ n with tasks }.carryOut (.emit node event listeners)) parcels := by
  have taken := (custody.dequeue waits).replace [] rfl rfl
  have seen : Aside [] { n with tasks } ({ n with tasks }.observe (.emitted node event)) :=
    .observe _ rfl rfl
  have cabled := taken.cabled.aside seen
  simp only [carryOut, cabled.tellAll_eq]
  exact taken.still seen.toStill cabled

/-- A turn of the loop is accounted for, whichever task it takes. -/
lemma turn (custody : Custody plans [] [] n parcels) :
    Custody plans [] [] (n.turn.getD n) (Parcel.apply n parcels .turn) := by
  rw [Parcel.apply]
  cases waits : n.tasks with
  | nil => simpa [Network.turn, waits] using custody
  | cons task tasks =>
    have taken := custody.dequeue waits
    have plain := custody.cabled.plain task (waits ▸ List.mem_cons_self ..)
    simp only [Network.turn, waits, Option.getD_some, List.head?_cons]
    cases task with
    | deliver station =>
      obtain ⟨side, rfl⟩ := Side.exists_place (of_decide_eq_true plain)
      exact custody.carryOut_deliver waits
    | release sender outcome =>
      cases sender with
      | caller station ordinal =>
        have heard := taken.replace [.conclude (.caller station ordinal) outcome] rfl rfl
        exact heard.later rfl
      | _ => cases plain
    | conclude sender outcome =>
      cases sender with
      | caller station ordinal => exact taken.conclude
      | _ => cases plain
    | emit node event listeners => exact custody.carryOut_emit waits
    | _ => cases plain

/-! ## Runs -/

/-- Nothing has been submitted on a new link. -/
lemma start (maxPacketSize : Number) :
    Custody (fun _ => []) [] [] (Network.empty.addLink maxPacketSize) [] := by
  have stations : (Network.empty.addLink maxPacketSize).stations =
      [⟨.new maxPacketSize, some 1, .empty⟩, ⟨.new maxPacketSize, some 0, .empty⟩] := rfl
  refine ⟨⟨fun side => ?_, ?_, List.forall_mem_nil _, List.forall_mem_nil _, List.forall_mem_nil _⟩,
    rfl, List.forall_mem_nil _, fun side => ?_, fun _ => rfl, .refl _, [], .refl _, rfl⟩
  · cases side <;> exact ⟨_, rfl, rfl⟩
  · rw [stations]
    have nobody : (Roster.empty : Roster Handler).members = [] := rfl
    simp [Roster.lawful_empty, nobody]
  · cases side <;> exact ⟨.new maxPacketSize, rfl, rfl, rfl, rfl, rfl⟩

/-- A control that plans no failure keeps the account of the parcels. -/
lemma apply_unplanned (custody : Custody plans [] [] n parcels) {control : LinkControl}
    (unplanned : ∀ side, control.plan? side = none) :
    Custody plans [] [] (control.apply n) (Parcel.apply n parcels control) := by
  cases control with
  | submit side data => exact custody.submit side data
  | failNext side message => simpa [LinkControl.plan?] using unplanned side
  | setMaxPacketSize side size =>
    exact custody.modifyEndpoint (f := (·.setMaxPacketSize size))
      (fun _ agrees => agrees.of_same rfl rfl rfl rfl) fun _ _ => rfl
  | setDrop side rule =>
    exact custody.modifyEndpoint (f := (·.setDrop rule))
      (fun _ agrees => agrees.of_same rfl rfl rfl rfl) fun _ _ => rfl
  | hold side =>
    exact custody.modifyEndpoint (f := (·.hold))
      (fun _ agrees => agrees.of_same rfl rfl rfl rfl) fun _ _ => rfl
  | release side error =>
    obtain ⟨n', released, custody⟩ := custody.release side error
    rw [LinkControl.apply, released]
    exact custody
  | resume side => exact custody.resume side
  | handle side handler =>
    obtain ⟨cabled, still⟩ := custody.cabled.handle side.place handler
    exact custody.still still cabled
  | unhandle handler =>
    obtain ⟨cabled, still⟩ := custody.cabled.unhandle handler
    exact custody.still still cabled
  | connect side layout limits =>
    have empty : (limits.connection layout).queue = [] := rfl
    obtain ⟨cabled, still⟩ := custody.cabled.addNode side.place empty rfl []
    exact custody.still still cabled
  | start node =>
    obtain ⟨cabled, still⟩ := custody.cabled.startNode node
    exact custody.still still cabled
  | close node =>
    obtain ⟨cabled, still⟩ := custody.cabled.closeNode node
    exact custody.still still cabled
  | turn => exact custody.turn

/-- Every control keeps the account of the parcels. -/
lemma apply (custody : Custody plans [] [] n parcels) (control : LinkControl) :
    Custody (fun side => plans side ++ (control.plan? side).toList) [] [] (control.apply n)
      (Parcel.apply n parcels control) := by
  by_cases unplanned : ∀ side, control.plan? side = none
  · have same : (fun side => plans side ++ (control.plan? side).toList) = plans := by
      funext side
      rw [unplanned, Option.toList_none, List.append_nil]
    rw [same]
    exact custody.apply_unplanned unplanned
  · cases control with
    | failNext side message =>
      refine custody.modifyEndpoint (f := (·.failNext message)) (fun e agrees => ?_)
        fun other apart => ?_
      · simpa [LinkControl.plan?] using agrees.failNext message
      · simp [LinkControl.plan?, apart]
    | _ => exact absurd (fun _ => rfl) unplanned

end Custody

end Network

namespace Ledger

variable (maxPacketSize : Number) (controls : List LinkControl)

/-- After any controls of a new link the parcels account for it. -/
lemma custody_run :
    Network.Custody (fun side => controls.filterMap (·.plan? side)) [] []
      (run maxPacketSize controls).network (run maxPacketSize controls).parcels := by
  induction controls using List.reverseRecOn with
  | nil => exact .start maxPacketSize
  | append_singleton controls control ih =>
    have plans : (fun side => (controls ++ [control]).filterMap (·.plan? side)) =
        fun side => controls.filterMap (·.plan? side) ++ (control.plan? side).toList := by
      funext side
      rw [List.filterMap_append]
      cases planned : control.plan? side <;> simp [planned]
    rw [run_concat, plans]
    exact ih.apply control

/-- However the two ends of a link are used, the parcels account for every packet: what was
recorded, what still waits, the outcomes and what the handlers took. -/
theorem run_exact : (run maxPacketSize controls).Exact maxPacketSize controls := by
  have custody := custody_run maxPacketSize controls
  have callers : (run maxPacketSize controls).parcels.length =
      (run maxPacketSize controls).network.callerCount := by
    simpa using congrArg List.length custody.ordinals
  refine ⟨network_run .., postings_run .., ?_, custody.fated,
    fun earlier later split i p get done => ?_, custody.agrees, fun side => ?_, ?_, ?_⟩
  · rw [callers]
    exact custody.ordinals
  · rw [split, run, List.foldl_append]
    exact getElem?_foldl get done later
  · obtain ⟨s, get, _, _, agrees⟩ := custody.station_get side
    rw [Network.held_of_get get, agrees.held, List.length_map, List.countP_eq_length_filter]
  · simpa using custody.verdicts
  · simpa using custody.passages

example : (run (.ofNat 2) [.failNext .near "no", .submit .near [0, 1, 2], .submit .near [3],
    .submit .near [4], .hold .near, .submit .near [5], .submit .near [6], .handle .far "h",
    .release .near (some "lost"), .turn, .turn, .turn]).parcels.map (·.fate) =
    [.oversize, .failed "no", .delivered [.named "h"], .returned "lost", .held] := by
  decide

end Ledger

end PacketLink
