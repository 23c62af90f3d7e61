import PacketLink.Proofs.Connection.Stream
import PacketLink.Proofs.Network.Sound

/-!
# Two connections on one link

A sending connection at one end of a link and a started receiving connection at the other, with
everything that can happen on the sending side and every turn of the loop. `Linked` holds in the
middle of an operation, too: the wiring stays, there is a turn for each packet that awaits delivery,
and every event of the receiver was emitted or has its turn. `Joined` holds between two operations:
the receiver is what it was at its start after taking the packets that were delivered.
-/

namespace PacketLink

open Connection (called events received)

/-- The limits of a connection. -/
structure Limits where
  maxPacketCount : Number
  maxMessageSize : Number

/-- A sending and a receiving connection on a link. -/
structure Setting where
  layout : Layout
  /-- Largest packet that the link takes at first. -/
  maxPacketSize : Number
  sender : Limits
  receiver : Limits

/-- A new connection within the limits. -/
def Limits.connection (limits : Limits) (layout : Layout) : Connection :=
  .new layout limits.maxPacketCount limits.maxMessageSize

/-- What can happen on the side of the sender. -/
inductive LinkStep where
  | send (name : String) (signal : Option String) (content : Message ⊕ ControlMessage)
  /-- Cancel the request in this place of the order of sending. -/
  | cancel (request : Nat)
  | abort (signal : String)
  | start
  | close
  | reset
  | failNext (message : String)
  | setMaxPacketSize (size : Number)
  | setDrop (rule : Option DropRule)
  | hold
  | release (error : Option String)
  | resume
  /-- One turn of the event loop. -/
  | turn

/-- The network in which the sender is node 0 at station 0 and the receiver node 1 at station 1. -/
def Setting.network (s : Setting) : Network :=
  let linked := Network.empty.addLink s.maxPacketSize
  let joined := (linked.addNode 0 (s.sender.connection s.layout) []).addNode 1
    (s.receiver.connection s.layout) []
  (joined.startNode 1).1

/-- What a step does to the network. -/
def LinkStep.apply (n : Network) : LinkStep → Network
  | .send name signal content => (n.send 0 name signal content).1
  | .cancel k => (n.cancelRequest (.node 0 k)).1
  | .abort signal => n.abort signal
  | .start => (n.startNode 0).1
  | .close => n.closeNode 0
  | .reset => n.resetNode 0
  | .failNext message => n.modifyEndpoint 0 (·.failNext message)
  | .setMaxPacketSize size => n.modifyEndpoint 0 (·.setMaxPacketSize size)
  | .setDrop rule => n.modifyEndpoint 0 (·.setDrop rule)
  | .hold => n.modifyEndpoint 0 (·.hold)
  | .release error => (n.release 0 error).1
  | .resume => (n.resume 0).1
  | .turn => n.turn.getD n

/-- The network after some steps. -/
def Setting.run (s : Setting) (steps : List LinkStep) : Network :=
  steps.foldl LinkStep.apply s.network

/-! ## Looking back at the link -/

namespace Observation

/-- The submission that went from `station` to its peer. -/
def delivered? (station : Nat) : Observation → Option (Submission Sender)
  | .delivered other submission => if other = station then some submission else none
  | _ => none

/-- The event of the connection at `node` that was emitted. -/
def emitted? (node : Nat) : Observation → Option Event
  | .emitted other event => if other = node then some event else none
  | _ => none

end Observation

/-- The station that a task delivers from. -/
def Task.station? : Task → Option Nat
  | .deliver station => some station
  | _ => none

/-- The event of the connection at `node` that a task emits. -/
def Task.event? (node : Nat) : Task → Option Event
  | .emit other event _ => if other = node then some event else none
  | _ => none

namespace Network

/-- The submissions that went from `station` to its peer, in order. -/
def deliveries (n : Network) (station : Nat) : List (Submission Sender) :=
  n.lookBack (Observation.delivered? station)

/-- The events of the connection at `node`, in order. -/
def emitted (n : Network) (node : Nat) : List Event := n.lookBack (Observation.emitted? node)

/-- The messages that the connection at `node` has delivered, in order. -/
def receivedAt (n : Network) (node : Nat) : List Message :=
  (n.emitted node).filterMap Event.received?

/-- The messages that were sent on the connection at `node`, in order. -/
def sentAt (n : Network) (node : Nat) : List Message := Connection.sends (n.inputs node)

/-- The requests of the connection at `node`, in the order of sending. -/
def requestsAt (n : Network) (node : Nat) : List WriteRequest :=
  (n.nodes[node]?.map (·.connection.requests)).getD []

/-- The submissions that await delivery from `station`, oldest first. -/
def awaiting (n : Network) (station : Nat) : List (Submission Sender) :=
  (n.stations[station]?.map (·.endpoint.awaiting)).getD []

/-- A packet is taken by the one connection that is registered at a station. -/
lemma visit_alone {n taken : Network} {station node : Nat} {data : Bytes}
    (given : n.giveTo data (.node node) = (taken, none))
    (before : n.stations[station]?.map (·.handlers.entries) = some [(0, .node node)])
    (after : taken.stations[station]?.map (·.handlers.entries) = some [(0, .node node)]) :
    visit station data n.visitLimit 0 n = (taken, none) := by
  have limit : n.visitLimit = (4 * n.handlers.length + 2 * n.nodes.length) + 1 + 1 := rfl
  have member {number : Nat} {n : Network}
      (entries : n.stations[station]?.map (·.handlers.entries) = some [(0, .node node)]) :
      n.stations[station]?.bind (·.handlers.memberFrom number) =
        if number ≤ 0 then some (0, .node node) else none := by
    obtain ⟨s, get, alone⟩ := Option.map_eq_some_iff.mp entries
    rw [get, Option.bind_some, Roster.memberFrom, alone, List.find?_cons, List.find?_nil]
    split <;> simp_all
  -- the connection is visited first, and no handler is behind it
  rw [limit, visit, member before, if_pos (Nat.le_refl 0)]
  dsimp only
  rw [given]
  dsimp only
  rw [visit, member after, if_neg (by decide)]

/-- An event of a connection that nobody listens to is told to nobody. -/
lemma tellAll_of_deaf {n : Network} {node : Nat}
    (deaf : ∀ x ∈ n.nodes[node]?, x.listeners.entries = []) (event : Event)
    (listeners : List Listener) : n.tellAll node event listeners = (n, none) := by
  have tell (listener : Listener) : n.tell node event listener = (n, none) := by
    unfold Network.tell
    cases get : n.nodes[node]? with
    | none => rfl
    | some x => simp [Roster.contains, Roster.members, deaf x get]
  unfold Network.tellAll
  induction listeners with
  | nil => rfl
  | cons listener listeners ih => simpa [tell] using ih

/-- What becomes of the network when the receiver `x` takes a packet that is delivered to it. -/
def takeDelivery (n : Network) (x : Node) (submission : Submission Sender) : Network :=
  ((n.observe (.delivered 0 submission)).observe (.taken 1 submission.data)).settleTurn 1
    (x.connection.receive submission.data).1

/-- The wiring of the two connections, and the tasks that are due for them. -/
structure Linked (n : Network) : Prop where
  stations : ∃ near far : Station, n.stations = [near, far] ∧ near.peer = some 1 ∧
    far.handlers.entries = [(0, .node 1)] ∧ far.endpoint.awaiting = [] ∧ far.endpoint.held = []
  nodes : ∃ sender receiver : Node, n.nodes = [sender, receiver] ∧ sender.station = 0 ∧
    receiver.station = 1 ∧ sender.listeners.entries = [] ∧ receiver.listeners.entries = []
  delivers : n.tasks.filterMap Task.station? = List.replicate (n.awaiting 0).length 0
  emits : n.emitted 1 ++ n.tasks.filterMap (Task.event? 1) = events (n.asked 1)

namespace Linked

variable {n n' : Network}

/-- The near station, which delivers to the far one. -/
lemma near_get (linked : Linked n) : ∃ near, n.stations[0]? = some near ∧ near.peer = some 1 := by
  obtain ⟨near, far, stations, peer, _⟩ := linked.stations
  exact ⟨near, by rw [stations]; rfl, peer⟩

/-- The sender, which is at the near station. -/
lemma sender_get (linked : Linked n) : ∃ x, n.nodes[0]? = some x ∧ x.station = 0 := by
  obtain ⟨sender, receiver, nodes, station, _⟩ := linked.nodes
  exact ⟨sender, by rw [nodes]; rfl, station⟩

/-- The receiver. -/
lemma receiver_get (linked : Linked n) : ∃ x, n.nodes[1]? = some x := by
  obtain ⟨sender, receiver, nodes, _⟩ := linked.nodes
  exact ⟨receiver, by rw [nodes]; rfl⟩

/-- What the receiver has no part in may be noticed. -/
lemma observe (linked : Linked n) {o : Observation} (asked : o.asked? 1 = none)
    (emitted : o.emitted? 1 = none) : Linked (n.observe o) := by
  refine ⟨linked.stations, linked.nodes, linked.delivers, ?_⟩
  have told : (n.observe o).asked 1 = n.asked 1 := lookBack_unseen _ asked
  have same : (n.observe o).emitted 1 = n.emitted 1 := lookBack_unseen _ emitted
  rw [told, same]
  exact linked.emits

/-- A task that delivers nothing may be left for later, if it is none of the receiver's events. -/
lemma later (linked : Linked n) {task : Task} (station : task.station? = none)
    (event : task.event? 1 = none) : Linked (n.later task) := by
  have same {α : Type} {f : Task → Option α} (nothing : f task = none) :
      (n.later task).tasks.filterMap f = n.tasks.filterMap f := by
    simp [Network.later, nothing]
  exact ⟨linked.stations, linked.nodes, (same station).trans linked.delivers,
    (congrArg (n.emitted 1 ++ ·) (same event)).trans linked.emits⟩

/-- A connection may be put in the place of another one. -/
lemma setConnection (linked : Linked n) (node : Nat) (connection : Connection) :
    Linked (n.setConnection node connection) := by
  obtain ⟨sender, receiver, nodes, first, second, quiet, deaf⟩ := linked.nodes
  refine ⟨linked.stations, ?_, linked.delivers, linked.emits⟩
  rcases node with _ | _ | node <;>
    simp [Network.setConnection, Network.modifyNode, nodes, first, second, quiet, deaf]

/-- The near station may change in everything but its peer and what awaits delivery. -/
lemma modifyNear (linked : Linked n) {f : Station → Station}
    (same : ∀ {s}, n.stations[0]? = some s →
      (f s).peer = s.peer ∧ (f s).endpoint.awaiting = s.endpoint.awaiting) :
    Linked (n.modifyStation 0 f) := by
  obtain ⟨near, far, stations, peer, rest⟩ := linked.stations
  have same := same (s := near) (by rw [stations]; rfl)
  have unchanged : (n.modifyStation 0 f).awaiting 0 = n.awaiting 0 := by
    simp [Network.awaiting, modifyStation, stations, same]
  refine ⟨⟨f near, far, by simp [modifyStation, stations], same.1.trans peer, rest⟩,
    linked.nodes, ?_, linked.emits⟩
  rw [unchanged]
  exact linked.delivers

/-- The near endpoint may change, if the same packets await delivery. -/
lemma setEndpoint (linked : Linked n) {near : Station} (get : n.stations[0]? = some near)
    {endpoint : Endpoint Sender} (awaiting : endpoint.awaiting = near.endpoint.awaiting) :
    Linked (n.setEndpoint 0 endpoint) :=
  linked.modifyNear fun get' => ⟨rfl, by cases get.symm.trans get'; exact awaiting⟩

/-- A submission at the near station gets a turn of its own when it is accepted. -/
lemma submit (linked : Linked n) (data : Bytes) (sender : Sender) :
    Linked (n.submit 0 data sender) := by
  obtain ⟨near, far, stations, peer, rest⟩ := linked.stations
  have get : n.stations[0]? = some near := by rw [stations]; rfl
  obtain ⟨e, fault, submitted, awaiting, _⟩ | ⟨_, e, submitted, awaiting, _⟩ |
      ⟨_, e, submitted, awaiting, _⟩ := near.endpoint.submit_cases ⟨data, sender⟩ <;>
    simp only [Network.submit, get, submitted]
  · exact (linked.setEndpoint get awaiting).later rfl rfl
  · exact linked.setEndpoint get awaiting
  · have stations' : (n.setEndpoint 0 e).stations = [{ near with endpoint := e }, far] := by
      simp [Network.setEndpoint, modifyEndpoint, modifyStation, stations]
    have grown : ((n.setEndpoint 0 e).later (.deliver 0)).awaiting 0 =
        n.awaiting 0 ++ [⟨data, sender⟩] := by
      simp [Network.awaiting, Network.later, stations', stations, awaiting]
    refine ⟨⟨{ near with endpoint := e }, far, stations', peer, rest⟩, linked.nodes, ?_, ?_⟩
    · rw [grown, List.length_append, List.length_singleton, List.replicate_succ',
        ← linked.delivers]
      simp [Network.later, Network.setEndpoint, modifyEndpoint, modifyStation, Task.station?]
    · have silent : (n.tasks ++ [Task.deliver 0]).filterMap (Task.event? 1) =
          n.tasks.filterMap (Task.event? 1) := by simp [Task.event?]
      exact (congrArg (n.emitted 1 ++ ·) silent).trans linked.emits

/-- Records of a request leave the link as it is. -/
lemma logWrite (linked : Linked n) (owner : Owner) (entry : WriteLog) :
    Linked (n.logWrite owner entry) := by
  unfold Network.logWrite
  split
  · exact linked.observe rfl rfl
  · exact linked

/-- The sender's effects keep the wiring. -/
lemma perform_sender (linked : Linked n) (effect : Connection.Effect) :
    Linked (perform 0 n effect) := by
  obtain ⟨sender, get, station⟩ := linked.sender_get
  have asked : Linked (n.observe (.asked 0 effect)) := linked.observe rfl rfl
  simp only [Network.perform, get, station]
  cases effect with
  | subscribe => exact asked.modifyNear fun _ => ⟨rfl, rfl⟩
  | unsubscribe => exact asked.modifyNear fun _ => ⟨rfl, rfl⟩
  | log => exact asked.observe rfl rfl
  | writeLog => exact asked.logWrite ..
  | submit => exact asked.submit ..
  | resolve => exact asked.later rfl rfl
  | emit => exact asked.later rfl rfl

/-- What the receiver asks for while it takes packets is recorded or emitted. -/
lemma perform_receiver (linked : Linked n) {effect : Connection.Effect}
    (report : effect.isReport = true) : Linked (perform 1 n effect) := by
  obtain ⟨receiver, get⟩ := linked.receiver_get
  have kept : (n.observe (.asked 1 effect)).emitted 1 = n.emitted 1 :=
    lookBack_unseen _ rfl
  have told : events ((n.observe (.asked 1 effect)).asked 1) =
      events (n.asked 1) ++ effect.event?.toList := by
    rw [asked_observe, Connection.events_append]
    cases effect <;> rfl
  simp only [Network.perform, get]
  cases effect with
  | log entry =>
    have recorded : Linked (n.observe (.asked 1 (.log entry))) := by
      refine ⟨linked.stations, linked.nodes, linked.delivers, ?_⟩
      rw [kept, told]
      exact linked.emits.trans (List.append_nil _).symm
    exact recorded.observe rfl rfl
  | emit event =>
    refine ⟨linked.stations, linked.nodes, ?_, ?_⟩
    · have silent (listeners : List Listener) :
          (n.tasks ++ [Task.emit 1 event listeners]).filterMap Task.station? =
            n.tasks.filterMap Task.station? := by simp [Task.station?]
      exact (silent _).trans linked.delivers
    · have due (listeners : List Listener) :
          (n.tasks ++ [Task.emit 1 event listeners]).filterMap (Task.event? 1) =
            n.tasks.filterMap (Task.event? 1) ++ [event] := by simp [Task.event?]
      refine (congrArg₂ (· ++ ·) kept (due _)).trans ?_
      refine Eq.trans ?_ told.symm
      rw [← linked.emits, ← List.append_assoc]
      rfl
  | _ => cases report

/-- A turn of the sender keeps the wiring. -/
lemma settleTurn_sender (linked : Linked n) (turn : Connection.Turn) :
    Linked (n.settleTurn 0 turn) :=
  settleTurn_induction n 0 turn (motive := fun _ n' => Linked n') (linked.setConnection ..)
    fun _ linked => linked.perform_sender _

/-- A turn in which the receiver only reports leaves the link as it is. -/
lemma settleTurn_receiver (linked : Linked n) {turn : Connection.Turn}
    (reports : ∀ effect ∈ turn.effects, effect.isReport = true) :
    Linked (n.settleTurn 1 turn) :=
  settleTurn_induction n 1 turn (motive := fun _ n' => Linked n') (linked.setConnection ..)
    fun mem linked => linked.perform_receiver (reports _ mem)

/-- The receiver takes a packet that was delivered. -/
lemma takeDelivery (linked : Linked n) (x : Node) (submission : Submission Sender) :
    Linked (n.takeDelivery x submission) := by
  have seen : Linked (n.observe (.delivered 0 submission)) := linked.observe rfl rfl
  exact (seen.observe rfl rfl).settleTurn_receiver (x.connection.report_receive submission.data)

/-- A packet that is delivered is taken by the receiver, and by nobody else. -/
lemma visit_eq (linked : Linked n) {x : Node} (get : n.nodes[1]? = some x)
    (submission : Submission Sender) :
    let seen := n.observe (.delivered 0 submission)
    visit 1 submission.data seen.visitLimit 0 seen = (n.takeDelivery x submission, none) := by
  intro seen
  have linked' : Linked (n.takeDelivery x submission) := linked.takeDelivery x submission
  have given : seen.giveTo submission.data (.node 1) = (n.takeDelivery x submission, none) := by
    have get : seen.nodes[1]? = some x := get
    simp only [Network.giveTo, get, Network.takeDelivery, seen]
  have alone {n : Network} (linked : Linked n) :
      n.stations[1]?.map (·.handlers.entries) = some [(0, .node 1)] := by
    obtain ⟨near, far, stations, _, handlers, _⟩ := linked.stations
    simp [stations, handlers]
  exact visit_alone given (alone (linked.observe rfl rfl)) (alone linked')

/-- The drop rule is asked, and then the packet is discarded or taken by the receiver. -/
lemma deliver_eq (linked : Linked n) {near : Station} {x : Node}
    (placed : n.stations[0]? = some near) (peer : near.peer = some 1)
    (get : n.nodes[1]? = some x) (submission : Submission Sender) :
    let asked := n.setEndpoint 0 (near.endpoint.askDrop submission.data).2
    n.deliver 0 submission =
      (if (near.endpoint.askDrop submission.data).1 then asked
        else asked.takeDelivery x submission, none) := by
  intro asked
  have linked' : Linked asked := linked.setEndpoint placed (near.endpoint.awaiting_askDrop _)
  simp only [Network.deliver, placed, peer]
  split
  · rfl
  · exact linked'.visit_eq get submission

end Linked

end Network

/-! ## Turns of the loop -/

/-- Whether an observation is about something else than connections, their events and packets. -/
def Observation.isNote : Observation → Bool
  | .concluded .. => true
  | .resolved .. => true
  | .awaited .. => true
  | _ => false

/-- What is only noted concerns neither a connection nor a packet. -/
lemma Observation.of_note {o : Observation} (note : o.isNote = true) :
    (∀ node, o.asked? node = none) ∧ (∀ node, o.input? node = none) ∧
      (∀ node, o.emitted? node = none) ∧ ∀ station, o.delivered? station = none := by
  cases o with
  | concluded => exact ⟨fun _ => rfl, fun _ => rfl, fun _ => rfl, fun _ => rfl⟩
  | resolved => exact ⟨fun _ => rfl, fun _ => rfl, fun _ => rfl, fun _ => rfl⟩
  | awaited => exact ⟨fun _ => rfl, fun _ => rfl, fun _ => rfl, fun _ => rfl⟩
  | _ => cases note

/-- What a turn of the loop can be on a link. -/
inductive Network.Turned (n : Network) : Network → Prop
  /-- The oldest submission at the near station is delivered or discarded. -/
  | deliver {near : Station} {oldest : Submission Sender} {rest : List (Submission Sender)}
    {tasks : List Task} (waits : n.tasks = .deliver 0 :: tasks)
    (get : n.stations[0]? = some near) (awaiting : near.endpoint.awaiting = oldest :: rest) :
    Turned n ((({ n with tasks }.setEndpoint 0 { near.endpoint with awaiting := rest }).deliver 0
      oldest).1.later (.conclude oldest.sender .accepted))
  | release {sender : Sender} {outcome : Outcome} {tasks : List Task}
    (waits : n.tasks = .release sender outcome :: tasks) :
    Turned n ({ n with tasks }.later (.conclude sender outcome))
  /-- The sender hears an outcome. -/
  | answer {x : Node} {k index : Nat} {outcome : Outcome} {tasks : List Task}
    (waits : n.tasks = .conclude (.request 0 k index) outcome :: tasks)
    (get : n.nodes[0]? = some x) :
    Turned n (({ n with tasks }.observe (.answered 0 k index outcome)).settleTurn 0
      (x.connection.conclude k index outcome))
  | emit {node : Nat} {event : Event} {listeners : List Listener} {tasks : List Task}
    (waits : n.tasks = .emit node event listeners :: tasks) :
    Turned n ({ n with tasks }.observe (.emitted node event))
  | pass {task : Task} {tasks : List Task} {o : Observation} (waits : n.tasks = task :: tasks)
    (station : task.station? = none) (event : task.event? 1 = none)
    (foreign : task.sender?.bind (Sender.packet? 0) = none) (note : o.isNote = true) :
    Turned n ({ n with tasks }.observe o)
  | drop {task : Task} {tasks : List Task} (waits : n.tasks = task :: tasks)
    (station : task.station? = none) (event : task.event? 1 = none)
    (foreign : task.sender?.bind (Sender.packet? 0) = none) : Turned n { n with tasks }

/-! ## Between two operations -/

/-- The receiver as it was started. -/
def Setting.started (s : Setting) : Connection :=
  { s.receiver.connection s.layout with listening := true }

/-- The receiver after taking some packets since its start, and all that it has asked for. -/
def Setting.receiverAfter (s : Setting) (deliveries : List (Submission Sender)) :
    Connection × List Connection.Effect :=
  let taken := s.started.takeAll (deliveries.map (·.data))
  (taken.1, [.subscribe, .log .started] ++ taken.2)

/-- The receiver has taken the last packet after all others. -/
lemma Setting.receiverAfter_snoc (s : Setting) (deliveries : List (Submission Sender))
    (submission : Submission Sender) :
    s.receiverAfter (deliveries ++ [submission]) =
      (((s.receiverAfter deliveries).1.receive submission.data).1.connection,
        (s.receiverAfter deliveries).2 ++
          ((s.receiverAfter deliveries).1.receive submission.data).1.effects) := by
  simp [receiverAfter, Connection.takeAll_snoc]

namespace Network

/-- The receiver has taken what was delivered, and nothing else has happened to it. -/
structure Wired (s : Setting) (n : Network) : Prop extends Linked n where
  receiver : ∃ x : Node, n.nodes[1]? = some x ∧
    (x.connection, n.asked 1) = s.receiverAfter (n.deliveries 0)
  benches_eq : n.benches = []

namespace Wired

variable {s : Setting} {n n' : Network}

/-- What the receiver has seen stays the same with it and with the deliveries. -/
lemma of_linked (wired : Wired s n) (linked : Linked n') (benches : n'.benches = n.benches)
    (node : n'.nodes[1]? = n.nodes[1]?) (asked : n'.asked 1 = n.asked 1)
    (deliveries : n'.deliveries 0 = n.deliveries 0) : Wired s n' := by
  refine ⟨linked, ?_, benches.trans wired.benches_eq⟩
  rw [node, asked, deliveries]
  exact wired.receiver

/-- What concerns neither the receiver nor a delivery may be noticed. -/
lemma observe (wired : Wired s n) {o : Observation} (asked : o.asked? 1 = none)
    (emitted : o.emitted? 1 = none) (delivered : o.delivered? 0 = none) :
    Wired s (n.observe o) :=
  wired.of_linked (wired.toLinked.observe asked emitted) rfl rfl (lookBack_unseen _ asked)
    (lookBack_unseen _ delivered)

/-- A task that delivers nothing may be left for later, if it is none of the receiver's events. -/
lemma later (wired : Wired s n) {task : Task} (station : task.station? = none)
    (event : task.event? 1 = none) : Wired s (n.later task) :=
  wired.of_linked (wired.toLinked.later station event) rfl rfl rfl rfl

/-- The near station may change, if it keeps its peer and what awaits delivery. -/
lemma modifyNear (wired : Wired s n) {f : Station → Station}
    (same : ∀ {s}, n.stations[0]? = some s →
      (f s).peer = s.peer ∧ (f s).endpoint.awaiting = s.endpoint.awaiting) :
    Wired s (n.modifyStation 0 f) :=
  wired.of_linked (wired.toLinked.modifyNear same) rfl rfl rfl rfl

/-- A turn of the sender concerns the receiver only through packets. -/
lemma settleTurn_sender (wired : Wired s n) (turn : Connection.Turn) :
    Wired s (n.settleTurn 0 turn) := by
  obtain ⟨sender, get, _⟩ := wired.sender_get
  refine wired.of_linked (wired.toLinked.settleTurn_sender turn) (Frame.settleTurn ..).benches_eq
    ?_ ?_ ?_
  · rw [nodes_settleTurn, getElem?_setConnection get, if_neg (by decide)]
  · rw [asked_settleTurn get, if_neg (by decide), List.append_nil]
  · rw [Network.deliveries, lookBack_settleTurn (fun _ _ => rfl) get]
    simp [Observation.delivered?, Network.deliveries]

/-- Only the sender has requests. -/
lemma request_eq_none (wired : Wired s n) {node : Nat} (other : node ≠ 0) (k : Nat) :
    n.request? (.node node k) = none := by
  obtain ⟨sender, receiver, nodes, _⟩ := wired.nodes
  obtain ⟨x, get, same⟩ := wired.receiver
  have connection : x.connection = (s.receiverAfter (n.deliveries 0)).1 := congrArg Prod.fst same
  rcases node with _ | _ | node
  · exact absurd rfl other
  · have empty : x.connection.requests = [] := by
      rw [connection]
      exact Connection.requests_takeAll ..
    simp [request?, get, empty]
  · simp [request?, nodes]

/-- The near endpoint may change, if the same packets await delivery. -/
lemma setEndpoint (wired : Wired s n) {near : Station} (get : n.stations[0]? = some near)
    {endpoint : Endpoint Sender} (awaiting : endpoint.awaiting = near.endpoint.awaiting) :
    Wired s (n.setEndpoint 0 endpoint) :=
  wired.of_linked (wired.toLinked.setEndpoint get awaiting) rfl rfl rfl rfl

/-! ### Deliveries -/

/-- The receiver is what the deliveries have made of it, with one more of them. -/
lemma takeDelivery (wired : Wired s n) {x : Node} (get : n.nodes[1]? = some x)
    (submission : Submission Sender) : Wired s (n.takeDelivery x submission) := by
  obtain ⟨x', get', same⟩ := wired.receiver
  obtain rfl := Option.some.inj (get.symm.trans get')
  let taken := (n.observe (.delivered 0 submission)).observe (.taken 1 submission.data)
  have get' : taken.nodes[1]? = some x := get
  refine ⟨wired.toLinked.takeDelivery x submission,
    ⟨{ x with connection := (x.connection.receive submission.data).1.connection }, ?_, ?_⟩,
    (Frame.settleTurn ..).benches_eq.trans wired.benches_eq⟩
  · rw [Network.takeDelivery, nodes_settleTurn, getElem?_setConnection get', if_pos rfl]
  · have connection : x.connection = (s.receiverAfter (n.deliveries 0)).1 := congrArg Prod.fst same
    have trace : n.asked 1 = (s.receiverAfter (n.deliveries 0)).2 := congrArg Prod.snd same
    rw [Network.takeDelivery, asked_settleTurn get', if_pos rfl, asked_observe, asked_observe,
      Network.deliveries, lookBack_settleTurn (fun _ _ => rfl) get', lookBack_observe,
      lookBack_observe]
    have later := s.receiverAfter_snoc (n.deliveries 0) submission
    rw [← connection, ← trace] at later
    simpa [Observation.asked?, Observation.delivered?, Network.deliveries] using later.symm

/-- A delivery comes to the receiver, unless it is dropped, and does not fail. -/
lemma deliver (wired : Wired s n) (submission : Submission Sender) :
    Wired s (n.deliver 0 submission).1 ∧ (n.deliver 0 submission).2 = none := by
  obtain ⟨near, placed, peer⟩ := wired.near_get
  obtain ⟨x, get⟩ := wired.receiver_get
  have asked := wired.setEndpoint placed (near.endpoint.awaiting_askDrop submission.data)
  rw [wired.toLinked.deliver_eq placed peer get]
  refine ⟨?_, rfl⟩
  dsimp only
  split
  · exact asked
  · exact asked.takeDelivery get submission

/-! ### Turns of the loop -/

/-- The receiver has handed nothing over, so nobody waits for an outcome on its behalf. -/
lemma packet?_eq_none (wired : Wired s n) {layouts : Nat → Layout} {sender : Sender}
    {loose : List Sender} (sound : Sound layouts (sender :: loose) n) :
    sender.packet? 1 = none := by
  obtain ⟨_, receiver, nodes, _⟩ := wired.nodes
  obtain ⟨x, get, same⟩ := wired.receiver
  have silent : called (n.asked 1) = [] := by
    rw [show n.asked 1 = _ from congrArg Prod.snd same, Setting.receiverAfter,
      Connection.called_append, (Connection.quiet_takeAll _ _).called_eq]
    rfl
  -- the senders of its packets balance what it has handed over
  have balanced := sound.balanced (List.getElem?_eq_some_iff.mp get).1
  rw [silent] at balanced
  have none := List.append_eq_nil_iff.mp balanced.nil_eq.symm
  cases h : sender.packet? 1 with
  | none => rfl
  | some packet => simp [h] at none

/-- Nobody listens to the connections. -/
lemma tellAll_eq (wired : Wired s n) (node : Nat) (event : Event) (listeners : List Listener) :
    n.tellAll node event listeners = (n, none) := by
  refine tellAll_of_deaf (fun x get => ?_) event listeners
  obtain ⟨sender, receiver, nodes, _, _, quiet, deaf⟩ := wired.nodes
  rw [nodes] at get
  rcases node with _ | _ | node <;> cases get
  · exact quiet
  · exact deaf

/-- A task that neither delivers nor emits is taken from the queue. -/
lemma dequeue (wired : Wired s n) {task : Task} {tasks : List Task}
    (waits : n.tasks = task :: tasks)
    (station : task.station? = none) (event : task.event? 1 = none) : Wired s { n with tasks } := by
  refine ⟨⟨wired.stations, wired.nodes, ?_, ?_⟩, wired.receiver, wired.benches_eq⟩
  · have delivers := wired.delivers
    rw [waits, List.filterMap_cons, station] at delivers
    exact delivers
  · have emits := wired.emits
    rw [waits, List.filterMap_cons, event] at emits
    exact emits

/-- An event is emitted in a turn of its own. -/
lemma dequeue_emit (wired : Wired s n) {node : Nat} {event : Event} {listeners : List Listener}
    {tasks : List Task} (waits : n.tasks = .emit node event listeners :: tasks) :
    Wired s ({ n with tasks }.observe (.emitted node event)) := by
  have emitted : ({ n with tasks }.observe (.emitted node event)).emitted 1 =
      n.emitted 1 ++ ((Task.emit node event listeners).event? 1).toList :=
    lookBack_observe ..
  have asked : ({ n with tasks }.observe (.emitted node event)).asked 1 = n.asked 1 :=
    lookBack_unseen _ rfl
  have deliveries : ({ n with tasks }.observe (.emitted node event)).deliveries 0 =
      n.deliveries 0 := lookBack_unseen _ rfl
  refine ⟨⟨wired.stations, wired.nodes, ?_, ?_⟩, ?_, wired.benches_eq⟩
  · have delivers := wired.delivers
    rw [waits] at delivers
    exact delivers
  · rw [emitted, asked, ← wired.emits, waits, List.append_assoc, List.filterMap_cons]
    cases (Task.emit node event listeners).event? 1 <;> rfl
  · rw [asked, deliveries]
    exact wired.receiver

/-- The oldest submission that awaits delivery leaves the endpoint. -/
lemma takeAwaiting (wired : Wired s n) {near : Station} {oldest : Submission Sender}
    {rest : List (Submission Sender)} {tasks : List Task} (waits : n.tasks = .deliver 0 :: tasks)
    (get : n.stations[0]? = some near) (awaiting : near.endpoint.awaiting = oldest :: rest) :
    Wired s ({ n with tasks }.setEndpoint 0 { near.endpoint with awaiting := rest }) := by
  obtain ⟨near', far, stations, peer, handlers⟩ := wired.stations
  have same : near' = near := by simpa [stations] using get
  subst same
  refine ⟨⟨?_, wired.nodes, ?_, ?_⟩, wired.receiver, wired.benches_eq⟩
  · exact ⟨{ near' with endpoint := { near'.endpoint with awaiting := rest } }, far, by
      simp [Network.setEndpoint, modifyEndpoint, modifyStation, stations], peer, handlers⟩
  · have delivers := wired.delivers
    have before : n.awaiting 0 = oldest :: rest := by simp [Network.awaiting, get, awaiting]
    have left : ({ n with tasks }.setEndpoint 0
        { near'.endpoint with awaiting := rest }).awaiting 0 = rest := by
      simp [Network.awaiting, Network.setEndpoint, modifyEndpoint, modifyStation, stations]
    rw [waits, before, List.filterMap_cons, List.length_cons, List.replicate_succ] at delivers
    rw [left]
    exact (List.cons_eq_cons.mp delivers).2
  · have emits := wired.emits
    rw [waits, List.filterMap_cons] at emits
    exact emits

/-- On a link a turn is one of a few things. -/
lemma turned (wired : Wired s n) {layouts : Nat → Layout} (sound : Sound layouts [] n)
    (turned : n.turn = some n') : Turned n n' := by
  unfold Network.turn at turned
  split at turned
  · cases turned
  rename_i task tasks waits
  cases turned
  unfold Network.carryOut
  cases task with
  | deliver station =>
    obtain ⟨near, get, _⟩ := wired.near_get
    have waiting : n.awaiting 0 = near.endpoint.awaiting := by simp [Network.awaiting, get]
    have delivers := wired.delivers
    rw [waits, waiting, List.filterMap_cons] at delivers
    -- there is a task for each submission that awaits delivery, so there is one
    cases awaiting : near.endpoint.awaiting with
    | nil =>
      rw [awaiting] at delivers
      cases delivers
    | cons oldest rest =>
      rw [awaiting, List.length_cons, List.replicate_succ] at delivers
      obtain ⟨rfl, _⟩ := List.cons_eq_cons.mp delivers
      obtain ⟨_, fine⟩ := (wired.takeAwaiting waits get awaiting).deliver oldest
      have get' : { n with tasks }.stations[0]? = some near := get
      have next := Turned.deliver waits get awaiting
      simp only [get', Option.bind_some, Endpoint.takeAwaiting, awaiting]
      cases result : ({ n with tasks }.setEndpoint 0
          { near.endpoint with awaiting := rest }).deliver 0 oldest with
      | mk n' fault =>
        rw [result] at fine next
        cases fine
        exact next
  | release sender outcome => exact .release waits
  | conclude sender outcome =>
    have begun := sound.dequeue waits
    have foreign := (wired.dequeue waits rfl rfl).packet?_eq_none begun
    obtain ⟨first, receiver, nodes, _⟩ := wired.nodes
    cases sender with
    | caller station ordinal => exact .pass waits rfl rfl rfl rfl
    | hand owner index =>
      have nobody : { n with tasks }.hand? owner = none := by simp [hand?, sound.hands_eq]
      simp only [Network.conclude, nobody]
      exact .drop waits rfl rfl rfl
    | request node k index =>
      rcases node with _ | _ | node
      · have get : { n with tasks }.nodes[0]? = some first := by simp [nodes]
        simp only [Network.conclude, get]
        exact .answer waits get
      · cases foreign
      · have missing : { n with tasks }.nodes[node + 1 + 1]? = none := by simp [nodes]
        simp only [Network.conclude, missing]
        exact .drop waits rfl rfl rfl
  | emit node event listeners =>
    have nobody := (wired.dequeue_emit waits).tellAll_eq node event listeners
    dsimp only
    rw [nobody]
    exact .emit waits
  | resolve owner result => exact .pass waits rfl rfl rfl rfl
  | await node waiter event => exact .pass waits rfl rfl rfl rfl

/-- Every turn of the loop keeps what the receiver is. -/
lemma turn (wired : Wired s n) (turned : Turned n n') : Wired s n' := by
  cases turned with
  | deliver waits get awaiting =>
    exact ((wired.takeAwaiting waits get awaiting).deliver _).1.later rfl rfl
  | release waits => exact (wired.dequeue waits rfl rfl).later rfl rfl
  | answer waits get =>
    exact ((wired.dequeue waits rfl rfl).observe rfl rfl rfl).settleTurn_sender _
  | emit waits => exact wired.dequeue_emit waits
  | pass waits station event _ note =>
    obtain ⟨asked, _, emitted, delivered⟩ := Observation.of_note note
    exact (wired.dequeue waits station event).observe (asked 1) (emitted 1) (delivered 0)
  | drop waits station event _ => exact wired.dequeue waits station event

end Wired

end Network

end PacketLink
