import Mathlib.Data.List.Perm.Subperm
import PacketLink.Proofs.Connection.Acceptance
import PacketLink.Proofs.Network.Order

/-!
# Delivery over a link that loses nothing

A link with neither holds nor a drop rule is `Faithful`: what was delivered is what the sender hears
was accepted, or will hear. When nothing is left to do, the receiver has delivered the messages of
the requests that were accepted as a whole, in the order of sending, and nothing else
(`receivedAt_eq_wholeMessages`).
-/

namespace PacketLink

open Connection (Call Path acceptances answers called calls isWhole wholeMessages)

/-- Whether a step leaves a link without holds and without a drop rule. -/
def LinkStep.isReliable : LinkStep → Bool
  | .hold => false
  | .setDrop rule => rule.isNone
  | _ => true

/-- A reliable step sets no drop rule. -/
lemma LinkStep.drop_of_isReliable {step : LinkStep} {f : Endpoint Sender → Endpoint Sender}
    (reliable : step.isReliable = true) (change : step.change? = some f) {e : Endpoint Sender}
    (keeps : e.drop = none) : (f e).drop = none := by
  cases step with
  | setDrop rule =>
    cases change
    exact Option.isNone_iff_eq_none.mp reliable
  | failNext | setMaxPacketSize | hold =>
    cases change
    exact keeps
  | _ => cases change

/-- Whoever is to hear of an acceptance that a task leads to. -/
def Task.accepted? : Task → Option Sender
  | .release sender .accepted => some sender
  | .conclude sender .accepted => some sender
  | _ => none

namespace Network

/-- The packets of the connection at `node` that it is still to hear the acceptance of. -/
def acceptedPackets (n : Network) (node : Nat) : List (Nat × Nat) :=
  n.tasks.filterMap fun task => task.accepted?.bind (Sender.packet? node)

section Projections

variable {n : Network} {node : Nat} {x : Node}

/-- Effects of a connection leave the drop rule of its station alone. -/
lemma dropRule_perform (get : n.nodes[node]? = some x) (effect : Connection.Effect) :
    (perform node n effect).dropRule x.station = n.dropRule x.station := by
  rw [dropRule, endpoint?_perform get, dropRule]
  cases n.endpoint? x.station with
  | none => rfl
  | some e => cases call : effect.call? <;> simp [Connection.Effect.act, call]

/-- A turn of a connection leaves the drop rule of its station alone. -/
lemma dropRule_settleTurn (get : n.nodes[node]? = some x) (turn : Connection.Turn) :
    (n.settleTurn node turn).dropRule x.station = n.dropRule x.station := by
  have both := settleTurn_induction n node turn
    (motive := fun _ n' => n'.nodes[node]? = some { x with connection := turn.connection } ∧
      n'.dropRule x.station = n.dropRule x.station)
    ⟨(getElem?_setConnection get ..).trans (if_pos rfl), rfl⟩
    fun _ ⟨get', same⟩ => ⟨by rwa [nodes_perform], (dropRule_perform get' _).trans same⟩
  exact both.2

/-- A task that is left for later may bring one more acceptance. -/
lemma acceptedPackets_later (n : Network) (task : Task) (node : Nat) :
    (n.later task).acceptedPackets node =
      n.acceptedPackets node ++ (task.accepted?.bind (Sender.packet? node)).toList := by
  cases h : task.accepted?.bind (Sender.packet? node) <;>
    simp [acceptedPackets, Network.later, h]

/-- A task that brings no acceptance leaves them as they are. -/
lemma acceptedPackets_of_idle (n : Network) {task : Task} (idle : task.accepted? = none)
    (node : Nat) : (n.later task).acceptedPackets node = n.acceptedPackets node := by
  rw [acceptedPackets_later, idle]
  exact List.append_nil _

/-- A submission is not accepted before it is delivered. -/
lemma acceptedPackets_submit (n : Network) (station : Nat) (data : Bytes) (sender : Sender)
    (node : Nat) :
    (n.submit station data sender).acceptedPackets node = n.acceptedPackets node := by
  unfold submit
  split
  · rfl
  · dsimp only
    split
    · exact acceptedPackets_of_idle _ rfl node
    · rfl
    · exact acceptedPackets_of_idle _ rfl node

/-- Nothing that a connection asks for is accepted at once. -/
lemma acceptedPackets_perform (n : Network) (node : Nat) (effect : Connection.Effect)
    (other : Nat) : (perform node n effect).acceptedPackets other = n.acceptedPackets other := by
  unfold perform
  split
  · rfl
  · cases effect with
    | writeLog k entry =>
      rw [acceptedPackets, tasks_logWrite]
      rfl
    | submit k index packet => exact acceptedPackets_submit ..
    | resolve k result => exact acceptedPackets_of_idle _ rfl other
    | emit event => exact acceptedPackets_of_idle _ rfl other
    | _ => rfl

/-- A turn of a connection brings no acceptance. -/
lemma acceptedPackets_settleTurn (n : Network) (node : Nat) (turn : Connection.Turn)
    (other : Nat) : (n.settleTurn node turn).acceptedPackets other = n.acceptedPackets other :=
  settleTurn_induction n node turn
    (motive := fun _ n' => n'.acceptedPackets other = n.acceptedPackets other) rfl
    fun _ same => (acceptedPackets_perform ..).trans same

end Projections

/-- Nothing is discarded, and what was delivered is what the sender has heard or is to hear was
accepted. -/
structure Faithful (n : Network) : Prop where
  keeps : n.dropRule 0 = none
  balanced : (n.deliveredPackets 0 0).Perm (acceptances (n.inputs 0) ++ n.acceptedPackets 0)

namespace Faithful

variable {s : Setting} {n n' : Network}

/-- What counts is the rule, the deliveries and who has heard or is to hear of an acceptance. -/
lemma of_same (faithful : Faithful n) (drop : n'.dropRule 0 = n.dropRule 0)
    (delivered : n'.deliveries 0 = n.deliveries 0)
    (heard : acceptances (n'.inputs 0) = acceptances (n.inputs 0))
    (accepted : n'.acceptedPackets 0 = n.acceptedPackets 0) : Faithful n' := by
  refine ⟨drop.trans faithful.keeps, ?_⟩
  rw [deliveredPackets, delivered, heard, accepted]
  exact faithful.balanced

/-- What is noticed of something else than a delivery or an acceptance does not count. -/
lemma observe (faithful : Faithful n) {o : Observation}
    (heard : (o.input? 0).bind Connection.Input.accepted? = none)
    (delivered : o.delivered? 0 = none) : Faithful (n.observe o) := by
  refine faithful.of_same rfl (lookBack_unseen _ delivered) ?_ rfl
  rw [inputs_observe, acceptances, List.filterMap_append]
  cases input : o.input? 0 with
  | none => simp [acceptances]
  | some input' =>
    rw [input] at heard
    have heard : input'.accepted? = none := heard
    simp [acceptances, heard]

/-- What the sender submits has not been delivered yet. -/
lemma settleTurn_sender (faithful : Faithful n) (linked : Linked n) (turn : Connection.Turn) :
    Faithful (n.settleTurn 0 turn) := by
  obtain ⟨sender, get, station⟩ := linked.sender_get
  have drop := dropRule_settleTurn get turn
  rw [station] at drop
  exact faithful.of_same drop (deliveries_settleTurn get ..) (by rw [inputs_settleTurn get])
    (acceptedPackets_settleTurn ..)

/-- The packet on the way is delivered, and its sender is left to hear that it was accepted. -/
lemma deliver (faithful : Faithful n) (linked : Linked n) (submission : Submission Sender) :
    Faithful ((n.deliver 0 submission).1.later (.conclude submission.sender .accepted)) := by
  obtain ⟨near, placed, peer⟩ := linked.near_get
  obtain ⟨x, get⟩ := linked.receiver_get
  have keeps : near.endpoint.drop = none := by
    have := faithful.keeps
    rwa [dropRule, endpoint?, placed] at this
  let seen := (n.setEndpoint 0 near.endpoint).observe (.delivered 0 submission)
  let taken := seen.observe (.taken 1 submission.data)
  let settled := (n.setEndpoint 0 near.endpoint).takeDelivery x submission
  have get' : taken.nodes[1]? = some x := get
  have drop : settled.dropRule 0 = none := by
    have stations : settled.stations = (n.setEndpoint 0 near.endpoint).stations :=
      stations_settleTurn (x.connection.report_receive _)
    rw [dropRule, endpoint?, stations]
    simp [setEndpoint, Network.modifyEndpoint, modifyStation, placed, keeps]
  have delivered : settled.deliveries 0 = n.deliveries 0 ++ [submission] :=
    calc settled.deliveries 0
      _ = taken.deliveries 0 := deliveries_settleTurn get' ..
      _ = seen.deliveries 0 := lookBack_unseen _ rfl
      _ = n.deliveries 0 ++ [submission] := lookBack_observe ..
  have heard : settled.inputs 0 = n.inputs 0 :=
    calc settled.inputs 0
      _ = taken.inputs 0 := inputs_settleTurn get' ..
      _ = seen.inputs 0 := lookBack_unseen _ rfl
      _ = n.inputs 0 := lookBack_unseen _ rfl
  have accepted : settled.acceptedPackets 0 = n.acceptedPackets 0 :=
    acceptedPackets_settleTurn ..
  have same : (n.deliver 0 submission).1 = settled := by
    rw [linked.deliver_eq placed peer get, Endpoint.askDrop_of_none _ keeps]
    rfl
  have balanced := faithful.balanced
  rw [same]
  refine ⟨drop, ?_⟩
  rw [acceptedPackets_later, accepted, inputs_later, heard, ← List.append_assoc,
    deliveredPackets, show (settled.later _).deliveries 0 = _ from delivered,
    List.filterMap_append]
  -- the packet is on both sides now: among those delivered, and among those to be heard of
  refine balanced.append (.of_eq ?_)
  cases h : submission.sender.packet? 0 <;> simp [Task.accepted?, h]

/-- A task that leads to no acceptance is taken from the queue. -/
lemma dequeue (faithful : Faithful n) {task : Task} {tasks : List Task}
    (waits : n.tasks = task :: tasks) (idle : task.accepted?.bind (Sender.packet? 0) = none) :
    Faithful { n with tasks } := by
  refine faithful.of_same rfl rfl rfl ?_
  rw [acceptedPackets, acceptedPackets, waits, List.filterMap_cons, idle]

/-- A turn of the loop delivers a packet, or the sender hears that one was accepted, or neither. -/
lemma turn (faithful : Faithful n) (wired : Wired s n) (turned : Turned n n') : Faithful n' := by
  have idle {task : Task} (foreign : task.sender?.bind (Sender.packet? 0) = none) :
      task.accepted?.bind (Sender.packet? 0) = none := by
    cases task with
    | release sender outcome => cases outcome <;> first | exact foreign | rfl
    | conclude sender outcome => cases outcome <;> first | exact foreign | rfl
    | _ => rfl
  cases turned with
  | @deliver near oldest rest tasks waits get awaiting =>
    have taken : Faithful ({ n with tasks }.setEndpoint 0
        { near.endpoint with awaiting := rest }) := by
      refine (faithful.dequeue waits rfl).of_same ?_ rfl rfl rfl
      have set := endpoint?_modifyEndpoint { n with tasks } 0 fun _ =>
        { near.endpoint with awaiting := rest }
      rw [dropRule, setEndpoint, set, dropRule, endpoint?, get]
      rfl
    exact taken.deliver (wired.takeAwaiting waits get awaiting).toLinked oldest
  | @release sender outcome tasks waits =>
    refine ⟨faithful.keeps, faithful.balanced.trans (List.Perm.append_left _ ?_)⟩
    rw [acceptedPackets_later, acceptedPackets, waits, List.filterMap_cons, acceptedPackets]
    cases outcome with
    | rejected fault => exact .of_eq (List.append_nil _).symm
    | accepted =>
      cases packet : sender.packet? 0 with
      | none => simp [Task.accepted?, packet]
      | some packet' => simpa [Task.accepted?, packet] using (List.perm_append_singleton ..).symm
  | @answer x k index outcome tasks waits get =>
    have told : Faithful ({ n with tasks }.observe (.answered 0 k index outcome)) := by
      cases outcome with
      | rejected fault => exact (faithful.dequeue waits rfl).observe rfl rfl
      | accepted =>
        refine ⟨faithful.keeps, ?_⟩
        have balanced := faithful.balanced
        have inputs : ({ n with tasks }.observe (.answered 0 k index .accepted)).inputs 0 =
            n.inputs 0 ++ [.outcome k index .accepted] := inputs_observe ..
        have delivered : ({ n with tasks }.observe
            (.answered 0 k index .accepted)).deliveredPackets 0 0 = n.deliveredPackets 0 0 :=
          congrArg (List.filterMap _) (lookBack_unseen _ rfl)
        rw [acceptedPackets, waits, List.filterMap_cons] at balanced
        rw [inputs, delivered, acceptances, List.filterMap_append, List.append_assoc]
        exact balanced
    have wired' := (wired.dequeue waits rfl rfl).observe (o := .answered 0 k index outcome)
      rfl rfl rfl
    exact told.settleTurn_sender wired'.toLinked _
  | emit waits => exact (faithful.dequeue waits rfl).observe rfl rfl
  | pass waits _ _ foreign note =>
    obtain ⟨_, input, _, delivered⟩ := Observation.of_note note
    exact (faithful.dequeue waits (idle foreign)).observe (by rw [input]; rfl) (delivered 0)
  | drop waits _ _ foreign => exact faithful.dequeue waits (idle foreign)

/-- The bookkeeping of the sender's operations delivers nothing. -/
lemma kept : Kept Faithful where
  books := fun faithful _ _ _ => faithful.of_same rfl rfl rfl rfl
  sent := fun faithful content => by
    refine faithful.observe ?_ rfl
    cases message : Connection.messageOf? content <;>
      simp [Observation.input?, message, Connection.Input.accepted?]
  turn := fun linked faithful turn _ => faithful.settleTurn_sender linked turn

/-- The near endpoint may change, as long as it gets no drop rule. -/
lemma modifyEndpoint (faithful : Faithful n) {f : Endpoint Sender → Endpoint Sender}
    (drop : ∀ {e}, e.drop = none → (f e).drop = none) : Faithful (n.modifyEndpoint 0 f) := by
  refine ⟨?_, faithful.balanced⟩
  have keeps := faithful.keeps
  rw [dropRule] at keeps
  rw [dropRule, endpoint?_modifyEndpoint]
  cases get : n.endpoint? 0 with
  | none => rfl
  | some e =>
    rw [get] at keeps
    exact drop keeps

/-- Reliable steps discard nothing. -/
lemma apply (faithful : Faithful n) (joined : Joined s n) (ordered : Ordered [] n)
    {step : LinkStep} (reliable : step.isReliable = true) : Faithful (step.apply n) := by
  refine kept.apply joined faithful (fun _ => faithful.settleTurn_sender joined.wired.toLinked)
    (fun change => ?_) (fun error => ?_) ?_ (faithful.turn joined.wired)
  · exact faithful.modifyEndpoint (LinkStep.drop_of_isReliable reliable change)
  · rw [ordered.release_eq]
    exact faithful
  · rw [ordered.resume_eq]
    exact faithful.modifyEndpoint (f := (·.stopHolding)) id

/-- Nothing was delivered before the run. -/
lemma network (s : Setting) : Faithful s.network := ⟨rfl, .nil⟩

/-- After reliable steps the two connections are joined, and nothing was overtaken or discarded. -/
lemma run (s : Setting) {steps : List LinkStep}
    (reliable : ∀ step ∈ steps, step.isReliable = true) :
    Joined s (s.run steps) ∧ Ordered [] (s.run steps) ∧ Faithful (s.run steps) :=
  Joined.run_induction s (motive := fun n => Ordered [] n ∧ Faithful n) ⟨.network s, network s⟩
    (fun joined reliable ⟨ordered, faithful⟩ =>
      have noHold := fun same => by
        subst same
        cases reliable
      ⟨ordered.apply joined noHold, faithful.apply joined ordered reliable⟩) reliable

end Faithful

end Network

/-! ## At the end of a run -/

open Network

section Rest

variable {s : Setting} {n : Network}

/-- When nothing is left to do, the sender has heard the outcome of every packet. -/
lemma Joined.settled (joined : Joined s n) (ordered : Ordered [] n) (rest : n.tasks = []) :
    n.awaiting 0 = [] ∧ (called (n.asked 0)).Perm (answers (n.inputs 0)) := by
  obtain ⟨near, far, stations, _, _, idle, empty⟩ := joined.wired.stations
  obtain ⟨x, _, nodes, _⟩ := joined.wired.nodes
  have awaiting : n.awaiting 0 = [] := by
    have delivers := joined.wired.delivers
    rw [rest] at delivers
    exact List.eq_nil_of_length_eq_zero (by simpa using (congrArg List.length delivers).symm)
  have near_awaiting : near.endpoint.awaiting = [] := by
    simpa [Network.awaiting, stations] using awaiting
  have near_held := (ordered.opened (e := near.endpoint) (by simp [endpoint?, stations])).2
  have senders : n.senders = [] := by
    simp [Network.senders, stations, Station.senders, rest, idle, empty, near_awaiting, near_held]
  refine ⟨awaiting, ?_⟩
  simpa [senders] using joined.sound.balanced (show 0 < n.nodes.length by simp [nodes])

/-- A sublist without duplicates is what is left of the list by its keys. -/
lemma eq_filter_of_sublist {α β : Type} [DecidableEq β] {l l' : List α} (key : α → β)
    (sublist : l.Sublist l') (nodup : (l'.map key).Nodup) :
    l = l'.filter fun a => key a ∈ l.map key := by
  have kept : l.filter (fun a => key a ∈ l.map key) = l :=
    List.filter_eq_self.mpr fun a mem => by simpa using ⟨a, mem, rfl⟩
  have among := sublist.filter fun a => key a ∈ l.map key
  rw [kept] at among
  refine among.eq_of_length_le ?_
  have once := nodup.sublist ((List.filter_sublist (p := fun a => key a ∈ l.map key)).map key)
  have subset : (l'.filter fun a => key a ∈ l.map key).map key ⊆ l.map key := fun b mem => by
    obtain ⟨a, mem', rfl⟩ := List.mem_map.mp mem
    simpa using (List.mem_filter.mp mem').2
  simpa using (List.subperm_of_subset once subset).length_le

/-- When nothing is left to do, the accepted packets were delivered, in the order of submission. -/
lemma Network.Faithful.data_deliveries (faithful : Faithful n) (ordered : Ordered [] n)
    (rest : n.tasks = []) (awaiting : n.awaiting 0 = []) (once : (called (n.asked 0)).Nodup) :
    (n.deliveries 0).map (·.data) =
      ((calls (n.asked 0)).filter fun call =>
        (call.request, call.index) ∈ acceptances (n.inputs 0)).map (·.packet) := by
  have sublist := ordered.sublist
  rw [awaiting, List.append_nil, List.append_nil, submissions] at sublist
  obtain ⟨delivered, sublist, same⟩ := List.sublist_map_iff.mp sublist
  have keys : delivered.map (fun call => (call.request, call.index)) = n.deliveredPackets 0 0 := by
    rw [deliveredPackets, same, List.filterMap_map, ← List.filterMap_eq_map]
    rfl
  have heard : (n.deliveredPackets 0 0).Perm (acceptances (n.inputs 0)) := by
    simpa [acceptedPackets, rest] using faithful.balanced
  -- the deliveries stand in the order of the calls, so they are the calls that were accepted
  have filtered := eq_filter_of_sublist (fun call : Call => (call.request, call.index)) sublist once
  simp only [keys, heard.mem_iff] at filtered
  rw [same, List.map_map, ← filtered]
  rfl

end Rest

/-- When nothing is left to do on a link that loses nothing, the receiver has delivered the messages
of exactly those requests of which every packet was handed over and none was rejected, in the order
of sending. Completed requests are among them, and neither failed ones nor those that were cancelled
before their start. -/
theorem Setting.receivedAt_eq_wholeMessages (s : Setting) {steps : List LinkStep}
    (reliable : ∀ step ∈ steps, step.isReliable = true) (rest : (s.run steps).tasks = [])
    (fits : ∀ message ∈ (s.run steps).sentAt 0,
      s.receiver.maxMessageSize.below (message.payload.length : Nat) = false) :
    let n := s.run steps
    (n.requestsAt 0).map (·.message) = n.sentAt 0 ∧
      n.receivedAt 1 = wholeMessages (n.asked 0) (n.inputs 0) (n.requestsAt 0) ∧
      ∀ {k : Nat} {r : WriteRequest}, (n.requestsAt 0)[k]? = some r →
        (r.phase = .completed → isWhole (n.asked 0) (n.inputs 0) k r = true) ∧
        (r.phase = .failed → isWhole (n.asked 0) (n.inputs 0) k r = false) ∧
        (r.phase = .cancelled → Connection.wasStarted (n.asked 0) k = false →
          isWhole (n.asked 0) (n.inputs 0) k r = false) := by
  obtain ⟨joined, ordered, faithful⟩ := Faithful.run s reliable
  intro n
  obtain ⟨awaiting, settled⟩ := joined.settled ordered rest
  obtain ⟨c, _, _, requests, path⟩ := joined.sender
  obtain ⟨start, shape⟩ := path.shape
  have answered := path.answered
  have layout : c.layout = s.layout := path.layout_eq
  have messages : c.requests.map (·.message) = n.sentAt 0 := path.messages_eq
  have valid {k : Nat} {r : WriteRequest} (get : c.requests[k]? = some r) : r.Valid s.layout := by
    have wf := path.wellFormed (Connection.wellFormed_new _ _ _)
    exact layout ▸ wf.valid get
  have room {k : Nat} {r : WriteRequest} (get : c.requests[k]? = some r) :
      s.receiver.maxMessageSize.below (totalLength r.fragments : Nat) = false := by
    have mem : r.message ∈ n.sentAt 0 :=
      messages ▸ List.mem_map_of_mem (List.mem_of_getElem? get)
    simpa [WriteRequest.message] using fits _ mem
  have accepting : Connection.Accepting s.receiver.maxMessageSize s.started :=
    ⟨fun kind => by cases kind <;> rfl, fun kind => by cases kind <;> rfl⟩
  have bound {k : Nat} {r : WriteRequest} (get : c.requests[k]? = some r) :
      Connection.acceptedCount (n.asked 0) (n.inputs 0) k r ≤ r.fragments.length :=
    (Connection.acceptedCount_le ..).trans (shape.handedOver_le get)
  have received := (Connection.received_blocks accepting valid room start bound c.requests.length).2
  rw [requests]
  refine ⟨messages, ?_, fun get => ⟨?_, ?_, fun _ => ?_⟩⟩
  · have all := joined.receivedAt_append
    rw [rest, List.filterMap_nil, List.filterMap_nil, List.append_nil] at all
    rw [all, faithful.data_deliveries ordered rest awaiting shape.nodup_called,
      shape.packets_accepted answered, layout]
    exact received.trans (Connection.flatMap_acceptedCount answered shape valid settled)
  · exact Connection.isWhole_of_completed answered shape (valid get) get settled
  · exact Connection.isWhole_of_failed answered get
  · exact Connection.isWhole_of_unstarted shape (valid get) get

/-- A reset between two packets of the first message, a rejected packet of the second, and a signal
that stops the fourth before its start: the third message alone is delivered. -/
theorem Setting.receivedAt_narrow :
    let steps : List LinkStep :=
      [.send "first" none (.inl ⟨.data, [1, 2, 3]⟩), .turn, .reset,
        .send "second" none (.inl ⟨.control, [4, 5]⟩), .failNext "lost",
        .send "third" none (.inl ⟨.data, [6, 7]⟩),
        .send "fourth" (some "stop") (.inl ⟨.control, [8]⟩), .abort "stop"] ++
      List.replicate 24 .turn
    let n := narrow.run steps
    (∀ step ∈ steps, step.isReliable = true) ∧ n.tasks = [] ∧
      (∀ message ∈ n.sentAt 0,
        narrow.receiver.maxMessageSize.below (message.payload.length : Nat) = false) ∧
      n.receivedAt 1 = wholeMessages (n.asked 0) (n.inputs 0) (n.requestsAt 0) ∧
      n.receivedAt 1 = [⟨.data, [6, 7]⟩] := by
  intro steps n
  have reliable : ∀ step ∈ steps, step.isReliable = true := by decide
  have rest : n.tasks = [] := List.eq_nil_of_length_eq_zero (by decide +kernel)
  have fits : ∀ message ∈ n.sentAt 0,
      narrow.receiver.maxMessageSize.below (message.payload.length : Nat) = false := by
    decide +kernel
  exact ⟨reliable, rest, fits, (receivedAt_eq_wholeMessages narrow reliable rest fits).2.1,
    by decide +kernel⟩

end PacketLink
