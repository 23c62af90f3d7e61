import PacketLink.Proofs.Network.Schedule

/-!
# Links that keep the order

Without holds a link delivers in the order of submission. `Ordered` says so: what was delivered and
then what awaits delivery are among the submissions, in their order, whatever a drop rule discards.
Every step but a hold keeps it (`Ordered.run`).
-/

namespace PacketLink

open Connection (Call calls)

/-- The submission that a call of the transport leads to. -/
def Connection.Call.submission (node : Nat) (call : Call) : Submission Sender :=
  ⟨call.packet, .request node call.request call.index⟩

/-- What an effect makes of the endpoint of the connection at `node`. -/
def Connection.Effect.act (node : Nat) (effect : Connection.Effect) (e : Endpoint Sender) :
    Endpoint Sender :=
  effect.call?.elim e fun call => (e.submit (call.submission node)).1

namespace Network

/-- What the connection at `node` has submitted, in order. -/
def submissions (n : Network) (node : Nat) : List (Submission Sender) :=
  (calls (n.asked node)).map (·.submission node)

/-- The packets of the connection at `node` that were delivered from `station`. -/
def deliveredPackets (n : Network) (station node : Nat) : List (Nat × Nat) :=
  (n.deliveries station).filterMap fun submission => submission.sender.packet? node

/-- The endpoint at `station`. -/
def endpoint? (n : Network) (station : Nat) : Option (Endpoint Sender) :=
  n.stations[station]?.map (·.endpoint)

/-- The drop rule at `station`. -/
def dropRule (n : Network) (station : Nat) : Option DropRule :=
  (n.endpoint? station).bind (·.drop)

section Projections

variable {n : Network} {node station : Nat} {x : Node}

/-- What awaits delivery at a station awaits it at its endpoint. -/
lemma awaiting_eq (n : Network) (station : Nat) :
    n.awaiting station = ((n.endpoint? station).map (·.awaiting)).getD [] := by
  rw [awaiting, endpoint?, Option.map_map]
  rfl

/-- The endpoint that is changed is the one of its station. -/
lemma endpoint?_modifyEndpoint (n : Network) (station : Nat)
    (f : Endpoint Sender → Endpoint Sender) :
    (n.modifyEndpoint station f).endpoint? station = (n.endpoint? station).map f := by
  cases get : n.stations[station]? <;>
    simp [endpoint?, modifyEndpoint, modifyStation, get]

/-- The endpoints of the other stations stay. -/
lemma endpoint?_modifyEndpoint_of_ne (n : Network) {station other : Nat} (apart : station ≠ other)
    (f : Endpoint Sender → Endpoint Sender) :
    (n.modifyEndpoint station f).endpoint? other = n.endpoint? other := by
  simp [endpoint?, modifyEndpoint, modifyStation, apart]

/-- A submission comes to the endpoint of its station. -/
lemma endpoint?_submit (n : Network) (station : Nat) (data : Bytes) (sender : Sender) :
    (n.submit station data sender).endpoint? station =
      (n.endpoint? station).map fun e => (e.submit ⟨data, sender⟩).1 := by
  unfold submit
  cases get : n.stations[station]? with
  | none => simp [endpoint?, get]
  | some s =>
    dsimp only
    cases result : s.endpoint.submit ⟨data, sender⟩ with
    | mk endpoint disposition =>
      have set := endpoint?_modifyEndpoint n station fun _ => endpoint
      have same : (n.endpoint? station).map (fun _ => endpoint) =
          (n.endpoint? station).map fun e => (e.submit ⟨data, sender⟩).1 := by
        simp [endpoint?, get, result]
      cases disposition with
      | refused fault => exact set.trans same
      | held => exact set.trans same
      | accepted => exact set.trans same

/-- Whoever takes packets at a station, its endpoint is the same. -/
lemma endpoint?_handlers (n : Network) (station : Nat) (f : Roster Handler → Roster Handler) :
    (n.modifyStation station fun s => { s with handlers := f s.handlers }).endpoint? station =
      n.endpoint? station := by
  cases get : n.stations[station]? <;> simp [endpoint?, modifyStation, get]

/-- Only a submission changes an endpoint. -/
lemma endpoint?_perform (get : n.nodes[node]? = some x) (effect : Connection.Effect) :
    (perform node n effect).endpoint? x.station =
      (n.endpoint? x.station).map (effect.act node) := by
  have same : n.endpoint? x.station = (n.endpoint? x.station).map fun e => e := by simp
  simp only [perform, get]
  cases effect with
  | subscribe =>
    exact (endpoint?_handlers (n.observe (.asked node .subscribe)) _ (·.add _)).trans same
  | unsubscribe =>
    exact (endpoint?_handlers (n.observe (.asked node .unsubscribe)) _ (·.remove _)).trans same
  | submit k index packet =>
    exact endpoint?_submit (n.observe (.asked node (.submit k index packet))) ..
  | writeLog k entry =>
    refine Eq.trans ?_ same
    rw [endpoint?, stations_logWrite]
    rfl
  | log entry => exact same
  | resolve k result => exact same
  | emit event => exact same

/-- Reports leave the stations alone. -/
lemma stations_perform {effect : Connection.Effect} (report : effect.isReport = true) :
    (perform node n effect).stations = n.stations := by
  unfold perform
  split
  · rfl
  · cases effect with
    | log entry => rfl
    | emit event => rfl
    | _ => cases report

/-- A turn in which a connection only reports changes no station. -/
lemma stations_settleTurn {turn : Connection.Turn}
    (reports : ∀ effect ∈ turn.effects, effect.isReport = true) :
    (n.settleTurn node turn).stations = n.stations :=
  settleTurn_induction n node turn (motive := fun _ n' => n'.stations = n.stations) rfl
    fun mem same => (stations_perform (reports _ mem)).trans same

/-- A turn of a connection delivers nothing. -/
lemma deliveries_settleTurn (get : n.nodes[node]? = some x) (turn : Connection.Turn)
    (station : Nat) : (n.settleTurn node turn).deliveries station = n.deliveries station := by
  rw [deliveries, lookBack_settleTurn (fun _ _ => rfl) get]
  simp [Observation.delivered?, deliveries]

/-- What a connection has submitted ends with what it has just asked to submit. -/
lemma submissions_observe (n : Network) (node : Nat) (o : Observation) :
    (n.observe o).submissions node =
      n.submissions node ++ (calls (o.asked? node).toList).map (·.submission node) := by
  rw [submissions, asked_observe, Connection.calls_append, List.map_append]
  rfl

/-- An effect submits a packet for its own connection, if it submits one. -/
lemma submissions_perform (get : n.nodes[node]? = some x) (effect : Connection.Effect)
    (other : Nat) :
    (perform node n effect).submissions other = n.submissions other ++
      if node = other then (effect.call?.map (·.submission node)).toList else [] := by
  rw [submissions, asked_perform get, Connection.calls_append, List.map_append, submissions]
  split
  · rename_i same
    subst same
    cases effect <;> rfl
  · rfl

/-- Carrying out an effect delivers nothing. -/
lemma deliveries_perform (get : n.nodes[node]? = some x) (effect : Connection.Effect)
    (station : Nat) : (perform node n effect).deliveries station = n.deliveries station :=
  (lookBack_perform (fun _ _ => rfl) get effect).trans (List.append_nil _)

end Projections

/-- What was delivered, what is on the way in the current operation, and what awaits delivery are
among the submissions of the sender, in their order. -/
structure Ordered (hand : List (Submission Sender)) (n : Network) : Prop where
  opened : ∀ {e : Endpoint Sender}, n.endpoint? 0 = some e → e.holding = false ∧ e.held = []
  sublist : (n.deliveries 0 ++ hand ++ n.awaiting 0).Sublist (n.submissions 0)

namespace Ordered

variable {n n' : Network} {hand : List (Submission Sender)}

/-- The order depends on the near endpoint, the deliveries and the submissions. -/
lemma of_same (ordered : Ordered hand n) (endpoint : n'.endpoint? 0 = n.endpoint? 0)
    (deliveries : n'.deliveries 0 = n.deliveries 0)
    (submissions : n'.submissions 0 = n.submissions 0) : Ordered hand n' := by
  refine ⟨fun get => ordered.opened (endpoint ▸ get), ?_⟩
  rw [deliveries, awaiting_eq, endpoint, ← awaiting_eq, submissions]
  exact ordered.sublist

/-- What is noticed of something else does not concern the order. -/
lemma observe (ordered : Ordered hand n) {o : Observation} (asked : o.asked? 0 = none)
    (delivered : o.delivered? 0 = none) : Ordered hand (n.observe o) := by
  refine ordered.of_same rfl (lookBack_unseen _ delivered) ?_
  rw [submissions_observe, asked]
  exact List.append_nil _

/-- A submission that is accepted awaits delivery behind the others. -/
lemma perform (ordered : Ordered hand n) (linked : Linked n) (effect : Connection.Effect) :
    Ordered hand (perform 0 n effect) := by
  obtain ⟨sender, get, station⟩ := linked.sender_get
  have endpoint := endpoint?_perform get effect
  have submissions := submissions_perform get effect 0
  have deliveries := deliveries_perform get effect 0
  rw [station] at endpoint
  rw [if_pos rfl] at submissions
  cases call : effect.call? with
  | none =>
    refine ordered.of_same ?_ deliveries ?_
    · rw [endpoint]
      cases n.endpoint? 0 <;> simp [Connection.Effect.act, call]
    · rw [submissions, call]
      exact List.append_nil _
  | some call' =>
    obtain ⟨near, stationed, _⟩ := linked.near_get
    let submission := call'.submission 0
    have before : n.endpoint? 0 = some near.endpoint := by simp [endpoint?, stationed]
    have after : (Network.perform 0 n effect).endpoint? 0 =
        some (near.endpoint.submit submission).1 := by
      rw [endpoint, before]
      simp [Connection.Effect.act, call, submission]
    obtain ⟨notHolding, empty⟩ := ordered.opened before
    obtain ⟨held, awaiting⟩ := near.endpoint.submit_of_not_holding submission notHolding
    refine ⟨fun get' => ?_, ?_⟩
    · cases after.symm.trans get'
      exact ⟨by rw [Endpoint.holding_submit, notHolding], held.trans empty⟩
    · have sublist := ordered.sublist
      rw [awaiting_eq, before, Option.map_some, Option.getD_some] at sublist
      rw [deliveries, submissions, call, awaiting_eq, after]
      -- a submission that was refused is missing in what is delivered, and in nothing else
      obtain refused | accepted := awaiting
      · rw [Option.map_some, Option.getD_some, refused]
        exact sublist.trans (List.sublist_append_left ..)
      · rw [Option.map_some, Option.getD_some, accepted, ← List.append_assoc]
        exact sublist.append_right _

/-- What the sender submits awaits delivery behind everything else, or is refused. -/
lemma settleTurn_sender (ordered : Ordered hand n) (linked : Linked n) (turn : Connection.Turn) :
    Ordered hand (n.settleTurn 0 turn) := by
  have both := settleTurn_induction n 0 turn (motive := fun _ n' => Linked n' ∧ Ordered hand n')
    ⟨linked.setConnection .., ordered.of_same rfl rfl rfl⟩
    fun _ ⟨linked, ordered⟩ => ⟨linked.perform_sender _, ordered.perform linked _⟩
  exact both.2

/-- Reports of the receiver do not concern the order. -/
lemma settleTurn_receiver (ordered : Ordered hand n) (linked : Linked n) {turn : Connection.Turn}
    (reports : ∀ effect ∈ turn.effects, effect.isReport = true) :
    Ordered hand (n.settleTurn 1 turn) := by
  obtain ⟨receiver, get⟩ := linked.receiver_get
  refine ordered.of_same ?_ (deliveries_settleTurn get ..) ?_
  · rw [endpoint?, stations_settleTurn reports]
    rfl
  · rw [submissions, asked_settleTurn get, if_neg (by decide), List.append_nil]
    rfl

/-- The packet on the way is delivered. -/
lemma takeDelivery {submission : Submission Sender} (ordered : Ordered (submission :: hand) n)
    (linked : Linked n) (x : Node) : Ordered hand (n.takeDelivery x submission) := by
  let seen := n.observe (.delivered 0 submission)
  have deliveries : seen.deliveries 0 = n.deliveries 0 ++ [submission] := lookBack_observe ..
  have observed : Ordered hand seen := by
    refine ⟨ordered.opened, ?_⟩
    rw [deliveries, submissions_observe, List.append_assoc (n.deliveries 0)]
    exact ordered.sublist.trans (List.sublist_append_left ..)
  have linked' : Linked seen := linked.observe rfl rfl
  exact (observed.observe rfl rfl).settleTurn_receiver (linked'.observe rfl rfl)
    (x.connection.report_receive submission.data)

/-- The packet on the way is delivered or discarded. -/
lemma deliver {submission : Submission Sender} (ordered : Ordered (submission :: hand) n)
    (linked : Linked n) : Ordered hand (n.deliver 0 submission).1 := by
  obtain ⟨near, placed, peer⟩ := linked.near_get
  obtain ⟨x, get⟩ := linked.receiver_get
  let asked := n.setEndpoint 0 (near.endpoint.askDrop submission.data).2
  have endpoint : asked.endpoint? 0 = some (near.endpoint.askDrop submission.data).2 := by
    rw [show asked = n.modifyEndpoint 0 _ from rfl, endpoint?_modifyEndpoint]
    simp [endpoint?, placed]
  have before : n.endpoint? 0 = some near.endpoint := by simp [endpoint?, placed]
  have ordered' : Ordered (submission :: hand) asked := by
    refine ⟨fun get' => ?_, ?_⟩
    · cases endpoint.symm.trans get'
      simpa using ordered.opened before
    · have sublist := ordered.sublist
      rw [awaiting_eq, before] at sublist
      rw [awaiting_eq, endpoint, Option.map_some, Endpoint.awaiting_askDrop]
      exact sublist
  rw [linked.deliver_eq placed peer get]
  dsimp only
  split
  · exact ⟨ordered'.opened,
      (((List.sublist_cons_self ..).append_left _).append_right _).trans ordered'.sublist⟩
  · exact ordered'.takeDelivery (linked.setEndpoint placed (Endpoint.awaiting_askDrop ..)) x

/-- The oldest submission that awaits delivery is on the way. -/
lemma takeAwaiting (ordered : Ordered [] n) {near : Station} {oldest : Submission Sender}
    {rest : List (Submission Sender)} (tasks : List Task) (get : n.stations[0]? = some near)
    (awaiting : near.endpoint.awaiting = oldest :: rest) :
    Ordered [oldest] ({ n with tasks }.setEndpoint 0 { near.endpoint with awaiting := rest }) := by
  have before : n.endpoint? 0 = some near.endpoint := by simp [endpoint?, get]
  have before' : { n with tasks }.endpoint? 0 = some near.endpoint := before
  have after : ({ n with tasks }.setEndpoint 0
      { near.endpoint with awaiting := rest }).endpoint? 0 =
        some { near.endpoint with awaiting := rest } := by
    have set := endpoint?_modifyEndpoint { n with tasks } 0 fun _ =>
      { near.endpoint with awaiting := rest }
    rwa [before'] at set
  refine ⟨fun get' => ?_, ?_⟩
  · cases Option.some.inj (after.symm.trans get')
    exact (ordered.opened before :)
  · have sublist := ordered.sublist
    rw [awaiting_eq, before, Option.map_some, Option.getD_some, awaiting, List.append_nil]
      at sublist
    rw [awaiting_eq, after, List.append_assoc]
    exact sublist

/-- A turn of the loop delivers what has awaited delivery longest. -/
lemma turn (ordered : Ordered [] n) {s : Setting} (wired : Wired s n) (turned : Turned n n') :
    Ordered [] n' := by
  have dequeued (tasks : List Task) : Ordered [] { n with tasks } := ordered.of_same rfl rfl rfl
  cases turned with
  | @deliver near oldest rest tasks waits get awaiting =>
    have taken := ordered.takeAwaiting tasks get awaiting
    have linked := (wired.takeAwaiting waits get awaiting).toLinked
    exact (taken.deliver linked).of_same rfl rfl rfl
  | release => exact (dequeued _).of_same rfl rfl rfl
  | @answer x k index outcome tasks waits =>
    have told := (wired.dequeue waits rfl rfl).observe (o := .answered 0 k index outcome) rfl rfl
      rfl
    exact ((dequeued _).observe rfl rfl).settleTurn_sender told.toLinked _
  | emit => exact (dequeued _).observe rfl rfl
  | pass _ _ _ _ note =>
    obtain ⟨asked, _, _, delivered⟩ := Observation.of_note note
    exact (dequeued _).observe (asked 0) (delivered 0)
  | drop => exact dequeued _

/-- The bookkeeping of the sender's operations keeps the order. -/
lemma kept : Kept (Ordered []) where
  books := fun ordered _ _ _ => ordered.of_same rfl rfl rfl
  sent := fun ordered _ => ordered.observe rfl rfl
  turn := fun linked ordered turn _ => ordered.settleTurn_sender linked turn

/-- The near endpoint may change, if it goes on not to hold and the same packets await delivery. -/
lemma modifyEndpoint (ordered : Ordered hand n) {f : Endpoint Sender → Endpoint Sender}
    (holding : ∀ {e}, e.holding = false → (f e).holding = false) (held : ∀ e, (f e).held = e.held)
    (awaiting : ∀ e, (f e).awaiting = e.awaiting) : Ordered hand (n.modifyEndpoint 0 f) := by
  have endpoint := endpoint?_modifyEndpoint n 0 f
  refine ⟨fun get => ?_, ?_⟩
  · rw [endpoint] at get
    obtain ⟨e, before, rfl⟩ := Option.map_eq_some_iff.mp get
    obtain ⟨notHolding, none⟩ := ordered.opened before
    exact ⟨holding notHolding, (held e).trans none⟩
  · have same : (n.modifyEndpoint 0 f).awaiting 0 = n.awaiting 0 := by
      rw [awaiting_eq, awaiting_eq, endpoint]
      cases n.endpoint? 0 <;> simp [awaiting]
    rw [same]
    exact ordered.sublist

/-- There is nothing to release. -/
lemma release_eq (ordered : Ordered hand n) (error : Option String) :
    (n.release 0 error).1 = n := by
  cases get : n.stations[0]? with
  | none => simp [Network.release, get]
  | some near =>
    have empty := (ordered.opened (e := near.endpoint) (by simp [endpoint?, get])).2
    simp [Network.release, get, Endpoint.takeHeld, empty]

/-- Where nothing is held a release of everything only stops the holding. -/
lemma resume_eq (ordered : Ordered hand n) :
    (n.resume 0).1 = n.modifyEndpoint 0 (·.stopHolding) := by
  have stopped : Ordered hand (n.modifyEndpoint 0 (·.stopHolding)) :=
    ordered.modifyEndpoint (f := (·.stopHolding)) (fun _ => rfl) (fun _ => rfl) fun _ => rfl
  unfold Network.resume
  dsimp only
  split
  · rename_i s get
    rw [(stopped.opened (e := s.endpoint) (by rw [endpoint?, get]; rfl)).2]
    rfl
  · rfl

/-- Every step but a hold keeps the order. -/
lemma apply {s : Setting} (ordered : Ordered [] n) (joined : Joined s n) {step : LinkStep}
    (noHold : step ≠ .hold) : Ordered [] (step.apply n) := by
  refine kept.apply joined ordered (fun _ => ordered.settleTurn_sender joined.wired.toLinked)
    (fun change => ?_) (fun error => ?_) ?_ (ordered.turn joined.wired)
  · have keeps (e : Endpoint Sender) := LinkStep.change?_keeps change e
    exact ordered.modifyEndpoint (fun {e} => ((keeps e).2.2 noHold).trans)
      (fun e => (keeps e).2.1) fun e => (keeps e).1
  · rw [ordered.release_eq]
    exact ordered
  · rw [ordered.resume_eq]
    exact ordered.modifyEndpoint (f := (·.stopHolding)) (fun _ => rfl) (fun _ => rfl) fun _ => rfl

/-- Nothing was submitted before the run. -/
lemma network (s : Setting) : Ordered [] s.network := by
  refine ⟨fun get => ?_, .refl _⟩
  cases get
  exact ⟨rfl, rfl⟩

/-- A link on which nothing is held delivers in the order of submission. -/
theorem run (s : Setting) {steps : List LinkStep} (noHold : ∀ step ∈ steps, step ≠ .hold) :
    Ordered [] (s.run steps) :=
  (Joined.run_induction s (network s) (fun joined noHold ordered => ordered.apply joined noHold)
    noHold).2

/-- What was delivered is among the submissions, in their order. -/
lemma deliveries_sublist (ordered : Ordered [] n) :
    (n.deliveries 0).Sublist (n.submissions 0) := by
  have sublist := ordered.sublist
  rw [List.append_nil] at sublist
  exact (List.sublist_append_left ..).trans sublist

end Ordered

end Network

end PacketLink
