import PacketLink.Proofs.Network.Duplex

/-!
# Runs of a link that carries both ways

On a link that neither loses nor refuses anything every step carries both directions on: sends,
holds and releases, and every turn of the loop. `Carries.run` says so of a run, from the two started
connections on. A packet that an endpoint releases is the oldest one that waits there, because it is
the only one (`Carries.waiting_le`), so packets are delivered in the order of submission.
-/

namespace PacketLink

open Connection (Input answers packets)

namespace Network

variable {d : Duplex} {side actor : Side} {n n' : Network} {s : Station} {x : Node}

/-! ## Packets that go over the link -/

/-- A packet goes over the link: it is delivered from one end and taken at the other one. -/
def cross (n : Network) (side : Side) (submission : Submission Sender) : Network :=
  (n.observe (.delivered side.place submission)).observe (.taken side.other.place submission.data)

section Cross

variable (n) (side) (submission : Submission Sender)

/-- No connection asks for anything when a packet goes over the link. -/
lemma asked_cross (node : Nat) : (n.cross side submission).asked node = n.asked node :=
  (lookBack_unseen _ rfl).trans (lookBack_unseen _ rfl)

/-- No event is emitted when a packet goes over the link. -/
lemma emitted_cross (node : Nat) : (n.cross side submission).emitted node = n.emitted node :=
  (lookBack_unseen _ rfl).trans (lookBack_unseen _ rfl)

/-- The packet that goes over the link is the last that was delivered from its end. -/
lemma deliveries_cross : (n.cross side submission).deliveries side.place =
    n.deliveries side.place ++ [submission] := by
  refine (lookBack_unseen _ rfl).trans ((lookBack_observe ..).trans ?_)
  rw [Observation.delivered?, if_pos rfl]
  rfl

/-- The connection that has sent a packet is not told that it goes over the link. -/
lemma inputs_cross : (n.cross side submission).inputs side.place = n.inputs side.place :=
  (lookBack_unseen _ (if_neg (by simp))).trans (lookBack_unseen _ rfl)

/-- The other connection is told the packet. -/
lemma inputs_cross_other : (n.cross side submission).inputs side.other.place =
    n.inputs side.other.place ++ [.packet submission.data] := by
  have before : (n.observe (.delivered side.place submission)).inputs side.other.place =
      n.inputs side.other.place := lookBack_unseen _ rfl
  rw [cross, inputs_observe, before, Observation.input?, if_pos rfl]
  rfl

end Cross

namespace Lane

/-- The oldest packet that waits at the endpoint leaves it and goes over the link. -/
lemma cross (lane : Lane d side n) (submission : Submission Sender)
    (history : n'.history = n.history) (nodes : n'.nodes = n.nodes)
    (station : ∃ s, n'.stations[side.place]? = some s ∧ d.IsStation side s)
    (oldest : n.waiting side.place = submission :: n'.waiting side.place)
    (due : n'.due side.place = (n'.awaiting side.place).length)
    (upcoming : n'.upcoming side.place = n.upcoming side.place) :
    Lane d side (n'.cross side submission) := by
  have look {α : Type} (f : Observation → Option α) : n'.lookBack f = n.lookBack f := by
    rw [lookBack, history]
    rfl
  have told : (n'.cross side submission).asked side.place = n.asked side.place :=
    (asked_cross ..).trans (look _)
  have gone : (n'.cross side submission).deliveries side.place =
      n.deliveries side.place ++ [submission] :=
    (deliveries_cross ..).trans (congrArg (· ++ _) (look _))
  have taken : (n'.cross side submission).inputs side.other.place =
      n.inputs side.other.place ++ [.packet submission.data] :=
    (inputs_cross_other ..).trans (congrArg (· ++ _) (look _))
  have heard : (n'.cross side submission).inputs side.place = n.inputs side.place :=
    (inputs_cross ..).trans (look _)
  have seen : (n'.cross side submission).emitted side.place = n.emitted side.place :=
    (emitted_cross ..).trans (look _)
  refine ⟨station, nodes ▸ lane.node, ?_, due, ?_, ?_, ?_⟩
  · have flow := lane.flow
    rw [oldest] at flow
    rw [gone, submissions, told, List.append_assoc]
    exact flow
  · rw [seen, told, ← lane.emits]
    exact congrArg _ upcoming
  · rw [gone, taken, packets, List.filterMap_append, List.map_append, ← lane.taken]
    rfl
  · rw [heard, told]
    exact lane.unhindered

/-- A packet of the other direction goes over the link. -/
lemma cross_other (lane : Lane d side.other n) (submission : Submission Sender) :
    Lane d side.other (n.cross side submission) := by
  have left := lane.observe (o := .delivered side.place submission) rfl rfl
    (if_neg (by simp)) rfl fun _ mem => by cases mem
  refine left.observe rfl rfl rfl ?_ fun input mem => ?_
  · simp [Observation.input?]
  · rw [Observation.eq_packet_of_taken mem]
    rfl

end Lane

namespace Carries

/-! ## What connections are told -/

/-- A message is sent, or refused. -/
lemma send (carries : Carries d n) {layouts : Nat → Layout} (sound : Sound layouts [] n)
    (actor : Side) (name : String) (signal : Option String) (content : Message ⊕ ControlMessage) :
    Carries d (n.send actor.place name signal content).1 := by
  obtain ⟨x, get, isNode⟩ := (carries.lane actor).node
  obtain ⟨s, placed, isStation⟩ := (carries.lane actor).station
  have sound' := sound.send actor.place name signal content
  obtain same | ⟨requestCount, handles, turn, sent, same⟩ := send_cases get name signal content
  · rw [same]
    exact carries
  · rw [same] at sound' ⊢
    rw [sendAt, maxPacketSizeAt, isNode.station_eq, placed, carries.aborted_eq] at sent
    have booked : Carries d { n with requestCount, handles } :=
      { carries with lane := fun side => { carries.lane side with } }
    have told := booked.observe (o := .sent actor.place content) (fun _ => rfl) (fun _ => rfl)
      (fun _ => rfl) fun node input mem => by
        obtain ⟨_, rfl⟩ := Observation.eq_send_of_sent mem
        exact ⟨rfl, rfl⟩
    have unaborted : signal.any ([] : List String).contains = false := by cases signal <;> rfl
    rw [unaborted, Option.map_some, Option.getD_some, isStation.maxPacketSize_eq] at sent
    obtain ⟨message, _, sent⟩ := Connection.sendContent_ok sent
    refine told.settleTurn (x := x) get (.send isNode.sized sent) (fun kind => ?_) sound' ?_
    · have spares : turn.Spares x.connection := (Connection.Turn.Keeps.send sent).spares
      rw [spares]
    · have gone : ({ n with requestCount, handles }.observe
          (.sent actor.place content)).deliveries actor.place = n.deliveries actor.place :=
        lookBack_unseen _ rfl
      have heard := (Nat.le_add_right ..).trans (carries.answers_le sound.toBooked actor)
      rw [gone, answers_observe _ _ _ fun input mem => by
        obtain ⟨_, rfl⟩ := Observation.eq_send_of_sent mem
        rfl]
      exact heard

/-- A connection hears that a packet was accepted. -/
lemma answer (carries : Carries d n) {layouts : Nat → Layout} {loose : List Sender}
    {k index : Nat} (sound : Sound layouts (.request actor.place k index :: loose) n)
    (get : n.nodes[actor.place]? = some x) :
    Carries d ((n.observe (.answered actor.place k index .accepted)).settleTurn actor.place
      (x.connection.conclude k index .accepted)) := by
  obtain ⟨x', get', isNode⟩ := (carries.lane actor).node
  obtain rfl := Option.some.inj (get.symm.trans get')
  have told := carries.observe (o := .answered actor.place k index .accepted) (fun _ => rfl)
    (fun _ => rfl) (fun _ => rfl) fun node input mem => by
      rw [Observation.eq_outcome_of_answered mem]
      exact ⟨rfl, rfl⟩
  refine told.settleTurn get (.conclude isNode.sized k index .accepted) (fun kind => ?_)
    (sound.answer get .accepted) ?_
  · rw [(Connection.Turn.Keeps.conclude ..).spares]
  · -- the outcome was on its way, so the packet was among those delivered
    have heard := carries.answers_le sound.toBooked actor
    have gone : (n.observe (.answered actor.place k index .accepted)).deliveries actor.place =
        n.deliveries actor.place := lookBack_unseen _ rfl
    have one : answers ((n.observe (.answered actor.place k index .accepted)).inputs actor.place) =
        answers (n.inputs actor.place) ++ [(k, index)] := by
      rw [inputs_observe, Observation.input?, if_pos rfl, answers, List.filterMap_append]
      rfl
    rw [List.cons_append, List.filterMap_cons, Sender.packet?, if_pos rfl,
      List.length_cons] at heard
    rw [gone, one, List.length_append, List.length_singleton]
    omega

/-- A packet that goes over the link is taken. -/
lemma take {submission : Submission Sender} {layouts : Nat → Layout} {loose : List Sender}
    (crossed : Carries d (n.cross side submission)) (sound : Sound layouts loose n)
    (get : n.nodes[side.other.place]? = some x) :
    Carries d ((n.cross side submission).settleTurn side.other.place
      (x.connection.receive submission.data).1) := by
  obtain ⟨x', get', isNode⟩ := (crossed.lane side.other).node
  obtain rfl := Option.some.inj (get.symm.trans get')
  have left := sound.observe (o := .delivered side.place submission) (fun _ => rfl) fun _ => rfl
  have booked : Booked loose (n.cross side submission) :=
    left.toBooked.observe (fun _ => rfl) fun node input mem => by
      rw [Observation.eq_packet_of_taken mem]
      rfl
  exact crossed.settleTurn get (.receive isNode.sized submission.data)
    (Connection.Move.take submission.data).maxMessageSize_eq (left.take get submission.data)
    ((Nat.le_add_right ..).trans (crossed.answers_le booked side.other))

/-- A packet that leaves an endpoint is delivered. -/
lemma deliver {submission : Submission Sender} {layouts : Nat → Layout} {loose : List Sender}
    (crossed : Carries d (n.cross side submission)) (sound : Sound layouts loose n) :
    Carries d (n.deliver side.place submission).1 ∧ (n.deliver side.place submission).2 = none := by
  obtain ⟨s, placed, isStation⟩ := (crossed.lane side).station
  obtain ⟨x, get, _⟩ := (crossed.lane side.other).node
  have placed : n.stations[side.place]? = some s := placed
  have settled := crossed.take sound get
  have alone {n : Network} (carries : Carries d n) :
      n.stations[side.other.place]?.map (·.handlers.entries) =
        some [(0, .node side.other.place)] := by
    obtain ⟨s, get, isStation⟩ := (carries.lane side.other).station
    rw [get, Option.map_some, isStation.handlers_eq]
  let left := n.observe (.delivered side.place submission)
  have given : left.giveTo submission.data (.node side.other.place) =
      ((n.cross side submission).settleTurn side.other.place
        (x.connection.receive submission.data).1, none) := by
    have get : left.nodes[side.other.place]? = some x := get
    simp only [Network.giveTo, get]
    rfl
  have before : left.stations[side.other.place]?.map (·.handlers.entries) =
      some [(0, .node side.other.place)] := (alone crossed :)
  have visited := visit_alone given before (alone settled)
  have delivered : n.deliver side.place submission =
      ((n.cross side submission).settleTurn side.other.place
        (x.connection.receive submission.data).1, none) := by
    simp only [left] at visited
    simp only [Network.deliver, placed, Endpoint.askDrop_of_none _ isStation.drop_eq,
      setEndpoint_self placed, isStation.peer_eq, Bool.false_eq_true, if_false, visited]
  rw [delivered]
  exact ⟨settled, rfl⟩

/-- The oldest packet that waits at an endpoint goes over the link, with its task if it has one. -/
lemma pass (carries : Carries d n) (get : n.stations[side.place]? = some s)
    (submission : Submission Sender) (e : Endpoint Sender) (tasks : List Task)
    (isStation : d.IsStation side { s with endpoint := e })
    (oldest : n.waiting side.place = submission :: (e.awaiting ++ e.held))
    (kept : tasks ⊆ n.tasks) (upcoming : ∀ node, { n with tasks }.upcoming node = n.upcoming node)
    (due : { n with tasks }.due side.place = e.awaiting.length)
    (due_other : { n with tasks }.due side.other.place = n.due side.other.place) :
    Carries d (({ n with tasks }.setEndpoint side.place e).cross side submission) := by
  have get' : { n with tasks }.stations[side.place]? = some s := get
  have after : ({ n with tasks }.setEndpoint side.place e).stations[side.place]? =
      some { s with endpoint := e } := by rw [getElem?_setEndpoint get', if_pos rfl]
  refine ⟨fun actor => ?_, (List.length_modify ..).trans carries.length_stations,
    carries.length_nodes, carries.aborted_eq, fun task mem => carries.accepting task (kept mem)⟩
  have lane := carries.lane actor
  obtain rfl | rfl := side.eq_or_eq_other actor
  · refine lane.cross submission rfl rfl ⟨_, after, isStation⟩ ?_ ?_ (upcoming _)
    · rw [oldest, waiting, awaiting_of_get after, held_of_get after]
    · rw [awaiting_of_get after]
      exact due
  · have dequeued : Lane d side.other { n with tasks } := { lane with
      delivers := due_other.trans lane.delivers
      emits := by rw [upcoming]; exact lane.emits }
    exact (dequeued.setEndpoint_other (by simp) get' e).cross_other submission

/-! ## What endpoints hold -/

/-- At most one packet of a connection waits at its endpoint. -/
lemma waiting_le (carries : Carries d n) {layouts : Nat → Layout} {loose : List Sender}
    (sound : Sound layouts loose n) (side : Side) : (n.waiting side.place).length ≤ 1 := by
  have lane := carries.lane side
  obtain ⟨x, get, _⟩ := lane.node
  have one := (sound.steady get).calls_le lane.unhindered
  have heard := carries.answers_le sound.toBooked side
  have flow := congrArg List.length lane.flow
  rw [List.length_append, submissions, List.length_map] at flow
  omega

/-- A packet that is held is released, if there is one. -/
lemma release (carries : Carries d n) {layouts : Nat → Layout} (sound : Sound layouts [] n)
    (side : Side) : Carries d (n.release side.place none).1 := by
  obtain ⟨s, get, isStation⟩ := (carries.lane side).station
  have waiting : n.waiting side.place = s.endpoint.awaiting ++ s.endpoint.held := by
    rw [Network.waiting, awaiting_of_get get, held_of_get get]
  unfold Network.release
  rw [get]
  dsimp only [Option.bind_some, Endpoint.takeHeld]
  cases held : s.endpoint.held with
  | nil => exact carries
  | cons oldest rest =>
    -- nothing else waits, so the packet that is held is the oldest one
    have one := carries.waiting_le sound side
    rw [waiting, held, List.length_append, List.length_cons] at one
    have idle : s.endpoint.awaiting = [] := List.eq_nil_of_length_eq_zero (by omega)
    have delivers := (carries.lane side).delivers
    rw [awaiting_of_get get] at delivers
    let e : Endpoint Sender := { s.endpoint with held := rest }
    have passed := carries.pass get oldest e n.tasks { isStation with }
      (by simp [waiting, held, e, idle]) (List.Subset.refl _)
      (fun _ => rfl) delivers rfl
    have taken := sound.takeFrom get e oldest.sender
      (by simp [Station.senders, e, held, idle])
    have both : Carries d ((n.setEndpoint side.place e).deliver side.place oldest).1 ∧
        ((n.setEndpoint side.place e).deliver side.place oldest).2 = none := passed.deliver taken
    dsimp only [Network.releaseOne]
    cases result : (n.setEndpoint side.place e).deliver side.place oldest with
    | mk n' fault =>
      rw [result] at both
      obtain ⟨delivered, rfl⟩ := both
      exact delivered.later rfl (fun _ => rfl) rfl

/-- Releases one after the other keep both directions. -/
lemma releaseAll (carries : Carries d n) {layouts : Nat → Layout} (sound : Sound layouts [] n)
    (side : Side) (count : Nat) : Carries d (releaseAll side.place count n).1 := by
  induction count generalizing n with
  | zero => exact carries
  | succ count ih =>
    unfold Network.releaseAll
    have next := carries.release sound side
    obtain ⟨sound', released, fine⟩ := sound.release side.place none
    cases result : n.release side.place none with
    | mk n' answer =>
      rw [result] at next sound' fine
      cases fine
      cases released with
      | false => exact next
      | true => exact ih next sound'

/-- An endpoint begins or ceases to hold. -/
lemma modifyEndpoint (carries : Carries d n) (actor : Side)
    {f : Endpoint Sender → Endpoint Sender}
    (kept : ∀ e, ∃ holding, f e = { e with holding }) :
    Carries d (n.modifyEndpoint actor.place f) := by
  obtain ⟨s, get, isStation⟩ := (carries.lane actor).station
  obtain ⟨holding, same⟩ := kept s.endpoint
  have set : n.modifyEndpoint actor.place f =
      n.setEndpoint actor.place { s.endpoint with holding } := modifyEndpoint_congr get same
  rw [set]
  refine { carries with
    lane := fun side => ?_
    length_stations := (List.length_modify ..).trans carries.length_stations }
  by_cases here : side = actor
  · subst here
    exact (carries.lane side).setEndpoint get { isStation with } rfl rfl
  · exact (carries.lane side).setEndpoint_other here get _

/-- What is held is released, and nothing is held from now on. -/
lemma resume (carries : Carries d n) {layouts : Nat → Layout} (sound : Sound layouts [] n)
    (side : Side) : Carries d (n.resume side.place).1 := by
  have stopped : Carries d (n.modifyEndpoint side.place (·.stopHolding)) :=
    carries.modifyEndpoint side fun _ => ⟨false, rfl⟩
  have sound' : Sound layouts [] (n.modifyEndpoint side.place (·.stopHolding)) :=
    sound.modifyStation _ fun _ => rfl
  unfold Network.resume
  dsimp only
  split
  · exact stopped.releaseAll sound' side _
  · exact stopped

/-! ## Turns of the loop -/

/-- A task that neither delivers nor emits is taken from the queue. -/
lemma dequeue (carries : Carries d n) {task : Task} {tasks : List Task}
    (waits : n.tasks = task :: tasks) (station : ∀ side : Side, task.station? ≠ some side.place)
    (event : ∀ side : Side, task.event? side.place = none) : Carries d { n with tasks } := by
  refine { carries with
    lane := fun side => { carries.lane side with delivers := ?_, emits := ?_ }
    accepting := fun task mem => carries.accepting task (waits ▸ List.mem_cons_of_mem _ mem) }
  · have delivers := (carries.lane side).delivers
    rw [due_of_waits _ waits, if_neg (station side)] at delivers
    exact delivers
  · have emits := (carries.lane side).emits
    rw [upcoming_of_waits _ waits, event] at emits
    exact emits

/-- An event is emitted in a turn of its own. -/
lemma dequeue_emit (carries : Carries d n) {node : Nat} {event : Event}
    {listeners : List Listener} {tasks : List Task}
    (waits : n.tasks = .emit node event listeners :: tasks) :
    Carries d ({ n with tasks }.observe (.emitted node event)) := by
  let emitted := { n with tasks }.observe (.emitted node event)
  refine { carries with
    lane := fun side => ?_
    accepting := fun task mem => carries.accepting task (waits ▸ List.mem_cons_of_mem _ mem) }
  have lane := carries.lane side
  have told : emitted.asked side.place = n.asked side.place := lookBack_unseen _ rfl
  have gone : emitted.deliveries side.place = n.deliveries side.place := lookBack_unseen _ rfl
  have heard (node : Nat) : emitted.inputs node = n.inputs node := lookBack_unseen _ rfl
  refine ⟨lane.station, lane.node, ?_, ?_, ?_, ?_, ?_⟩
  · rw [gone, submissions, told]
    exact lane.flow
  · have delivers := lane.delivers
    rw [due_of_waits _ waits, if_neg (by simp [Task.station?])] at delivers
    exact delivers
  · have seen : emitted.emitted side.place =
        n.emitted side.place ++ ((Task.emit node event listeners).event? side.place).toList :=
      lookBack_observe ..
    rw [seen, told, ← lane.emits, upcoming_of_waits _ waits, List.append_assoc]
    rfl
  · rw [gone, heard]
    exact lane.taken
  · rw [heard, told]
    exact lane.unhindered

/-- The oldest packet that awaits delivery is delivered. -/
lemma deliverOldest (carries : Carries d n) {layouts : Nat → Layout} (sound : Sound layouts [] n)
    {station : Nat} {tasks : List Task} (waits : n.tasks = .deliver station :: tasks) :
    Carries d ({ n with tasks }.carryOut (.deliver station)) := by
  unfold Network.carryOut
  dsimp only
  cases placed : n.stations[station]? with
  | none =>
    refine carries.dequeue waits (fun side same => ?_) fun _ => rfl
    cases same
    have bound := side.place_lt
    rw [← carries.length_stations] at bound
    simp [List.getElem?_eq_getElem bound] at placed
  | some s =>
    obtain ⟨side, rfl⟩ := Side.exists_place
      (carries.length_stations ▸ (List.getElem?_eq_some_iff.mp placed).1)
    obtain ⟨s', get, isStation⟩ := (carries.lane side).station
    obtain rfl := Option.some.inj (placed.symm.trans get)
    have delivers := (carries.lane side).delivers
    rw [awaiting_of_get get, due_of_waits _ waits, if_pos (by rfl)] at delivers
    dsimp only [Option.bind_some, Endpoint.takeAwaiting]
    cases awaiting : s.endpoint.awaiting with
    | nil => simp [awaiting] at delivers
    | cons oldest rest =>
      let e : Endpoint Sender := { s.endpoint with awaiting := rest }
      rw [awaiting, List.length_cons, Nat.add_right_cancel_iff] at delivers
      have passed := carries.pass get oldest e tasks { isStation with }
        (by rw [waiting, awaiting_of_get get, held_of_get get, awaiting]; rfl)
        (waits ▸ List.subset_cons_self ..)
        (fun node => ((upcoming_of_waits node waits).trans rfl).symm) delivers
        (by rw [due_of_waits _ waits, if_neg (by simp [Task.station?])]; rfl)
      have begun := sound.dequeue waits
      have taken := begun.takeFrom get e oldest.sender (by simp [Station.senders, e, awaiting])
      have both : Carries d (({ n with tasks }.setEndpoint side.place e).deliver side.place
          oldest).1 ∧ (({ n with tasks }.setEndpoint side.place e).deliver side.place
          oldest).2 = none := passed.deliver taken
      dsimp only
      cases result : ({ n with tasks }.setEndpoint side.place
          { s.endpoint with awaiting := rest }).deliver side.place oldest with
      | mk n' fault =>
        rw [result] at both
        obtain ⟨delivered, rfl⟩ := both
        exact delivered.later rfl (fun _ => rfl) rfl

/-- Every turn of the loop. -/
lemma turn (carries : Carries d n) {layouts : Nat → Layout} (sound : Sound layouts [] n)
    (turned : n.turn = some n') : Carries d n' := by
  unfold Network.turn at turned
  split at turned
  · cases turned
  rename_i task tasks waits
  cases turned
  have accepted := carries.accepting task (waits ▸ List.mem_cons_self ..)
  have note {o : Observation} (quiet : Carries d { n with tasks }) (isNote : o.isNote = true) :
      Carries d ({ n with tasks }.observe o) := by
    obtain ⟨asked, input, emitted, delivered⟩ := Observation.of_note isNote
    exact quiet.observe asked emitted delivered fun node _ mem => by
      rw [input] at mem
      cases mem
  cases task with
  | deliver station => exact carries.deliverOldest sound waits
  | release sender outcome =>
    cases outcome with
    | rejected => cases accepted
    | accepted =>
      have quiet := carries.dequeue waits (by simp [Task.station?]) fun _ => rfl
      exact quiet.later rfl (fun _ => rfl) rfl
  | conclude sender outcome =>
    cases outcome with
    | rejected => cases accepted
    | accepted =>
      have quiet := carries.dequeue waits (by simp [Task.station?]) fun _ => rfl
      have begun := sound.dequeue waits
      unfold Network.carryOut
      cases sender with
      | caller station ordinal => exact note quiet rfl
      | hand owner index =>
        have nobody : { n with tasks }.hand? owner = none := by simp [hand?, sound.hands_eq]
        simp only [Network.conclude, nobody]
        exact quiet
      | request node k index =>
        cases get : n.nodes[node]? with
        | none =>
          simp only [Network.conclude, get]
          exact quiet
        | some x =>
          obtain ⟨actor, rfl⟩ := Side.exists_place
            (carries.length_nodes ▸ (List.getElem?_eq_some_iff.mp get).1)
          simp only [Network.conclude, get]
          exact quiet.answer begun get
  | emit node event listeners =>
    have emitted := carries.dequeue_emit waits
    unfold Network.carryOut
    dsimp only
    rw [tellAll_of_deaf fun x get => ?_]
    · exact emitted
    · have get : n.nodes[node]? = some x := get
      obtain ⟨side, rfl⟩ := Side.exists_place
        (carries.length_nodes ▸ (List.getElem?_eq_some_iff.mp get).1)
      obtain ⟨x', get', isNode⟩ := (carries.lane side).node
      obtain rfl := Option.some.inj (get.symm.trans get')
      exact isNode.listeners_eq
  | resolve owner result =>
    exact note (carries.dequeue waits (by simp [Task.station?]) fun _ => rfl) rfl
  | await node waiter event =>
    exact note (carries.dequeue waits (by simp [Task.station?]) fun _ => rfl) rfl

/-! ## Runs -/

/-- Both connections have started, and nothing was sent before the run. -/
lemma network (d : Duplex) : Carries d d.network := by
  have history : d.network.history.toList = [.asked 1 .subscribe, .asked 1 (.log .started),
      .logged [] ConnectionLog.started.record, .asked 0 .subscribe, .asked 0 (.log .started),
      .logged [] ConnectionLog.started.record] := rfl
  have look {α : Type} (f : Observation → Option α) :
      d.network.lookBack f = List.filterMap f _ := congrArg (List.filterMap f) history
  have asked (side : Side) : d.network.asked side.place = [.subscribe, .log .started] := by
    rw [asked, look]
    cases side <;> rfl
  have inputs (node : Nat) : d.network.inputs node = [] := look _
  have gone (side : Side) : d.network.deliveries side.place = [] := look _
  have emitted (side : Side) : d.network.emitted side.place = [] := look _
  have tasks : d.network.tasks = [] := rfl
  have station (side : Side) : ∃ s, d.network.stations[side.place]? = some s ∧
      d.IsStation side s ∧ s.endpoint.awaiting = [] ∧ s.endpoint.held = [] := by
    cases side <;> exact ⟨_, rfl, ⟨rfl, rfl, rfl, rfl, rfl⟩, rfl, rfl⟩
  have node (side : Side) : ∃ x, d.network.nodes[side.place]? = some x ∧ d.IsNode side x := by
    cases side <;>
      exact ⟨_, rfl, rfl, rfl, fun _ mem => (by cases mem), fun kind => by cases kind <;> rfl⟩
  refine ⟨fun side => ?_, rfl, rfl, rfl, by simp [tasks]⟩
  obtain ⟨s, get, isStation, awaiting, held⟩ := station side
  refine ⟨⟨s, get, isStation⟩, node side, ?_, ?_, ?_, ?_, ?_⟩
  · rw [gone, waiting, awaiting_of_get get, held_of_get get, awaiting, held, submissions, asked]
    rfl
  · rw [awaiting_of_get get, awaiting, due, tasks]
    rfl
  · rw [emitted, upcoming, tasks, asked]
    rfl
  · rw [inputs, gone]
    rfl
  · rw [inputs, asked]
    exact ⟨fun _ mem => (by cases mem), by simp [Connection.Effect.isPlain]⟩

/-- Every step keeps both directions, and all connections on their paths. -/
lemma apply (carries : Carries d n) {layouts : Nat → Layout} (sound : Sound layouts [] n)
    (step : DuplexStep) : Carries d (step.apply n) ∧ Sound layouts [] (step.apply n) := by
  cases step with
  | send side name signal content =>
    exact ⟨carries.send sound side name signal content, sound.send side.place name signal content⟩
  | hold side =>
    exact ⟨carries.modifyEndpoint side fun _ => ⟨true, rfl⟩, sound.modifyStation _ fun _ => rfl⟩
  | release side => exact ⟨carries.release sound side, (sound.release side.place none).1⟩
  | resume side => exact ⟨carries.resume sound side, sound.resume side.place⟩
  | turn =>
    cases turned : n.turn with
    | none => simpa [DuplexStep.apply, turned] using ⟨carries, sound⟩
    | some n' =>
      simpa [DuplexStep.apply, turned] using ⟨carries.turn sound turned, sound.turn turned⟩

/-- Every run carries both directions. -/
lemma run (d : Duplex) (steps : List DuplexStep) :
    Carries d (d.run steps) ∧ Sound (fun _ => d.layout) [] (d.run steps) := by
  have fold {n : Network} (carries : Carries d n) (sound : Sound (fun _ => d.layout) [] n) :
      Carries d (steps.foldl DuplexStep.apply n) ∧
        Sound (fun _ => d.layout) [] (steps.foldl DuplexStep.apply n) := by
    induction steps generalizing n with
    | nil => exact ⟨carries, sound⟩
    | cons step steps ih =>
      obtain ⟨carries, sound⟩ := carries.apply sound step
      exact ih carries sound
  exact fold (network d) ((Joined.network d.setting).sound.startNode 0)

end Carries

end Network

end PacketLink
