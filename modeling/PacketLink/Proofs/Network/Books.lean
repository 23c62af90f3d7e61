import PacketLink.Network.Operations
import PacketLink.Proofs.Connection.Operations
import PacketLink.Proofs.Connection.Outcome
import PacketLink.Proofs.Link.Endpoint

/-!
# The books of a network

The history says what each connection asked for and what it was told. `Booked` says that the two
agree with what the network still holds: every packet that a connection has handed over was answered
already, or its sender waits with a submission or with a task. `Booked.settleTurn` keeps the books
while a connection's effects are carried out. The networks are those in which nothing but
connections and endpoints acts.
-/

namespace PacketLink

open Connection (Input calls called answers)

/-! ## Looking back -/

namespace Observation

/-- What the connection at `node` asked for. -/
def asked? (node : Nat) : Observation → Option Connection.Effect
  | .asked other effect => if other = node then some effect else none
  | _ => none

/-- What the connection at `node` was told. -/
def input? (node : Nat) : Observation → Option Input
  | .sent other content =>
    if other = node then (Connection.messageOf? content).map .send else none
  | .answered other k index outcome =>
    if other = node then some (.outcome k index outcome) else none
  | .taken other data => if other = node then some (.packet data) else none
  | _ => none

section Input

variable {node other : Nat} {input : Input}

/-- What is sent on a connection is a message that it is told to send. -/
lemma eq_send_of_sent {content : Message ⊕ ControlMessage}
    (mem : input ∈ (sent other content).input? node) : ∃ message, input = .send message := by
  simp only [input?, Option.mem_def] at mem
  split at mem
  · obtain ⟨message, _, rfl⟩ := Option.map_eq_some_iff.mp mem
    exact ⟨message, rfl⟩
  · cases mem

/-- What is answered is an outcome that a connection is told. -/
lemma eq_outcome_of_answered {k index : Nat} {outcome : Outcome}
    (mem : input ∈ (answered other k index outcome).input? node) :
    input = .outcome k index outcome := by
  simp only [input?, Option.mem_def] at mem
  split at mem <;> cases mem
  rfl

/-- What is taken is a packet that a connection is told. -/
lemma eq_packet_of_taken {data : Bytes} (mem : input ∈ (taken other data).input? node) :
    input = .packet data := by
  simp only [input?, Option.mem_def] at mem
  split at mem <;> cases mem
  rfl

end Input

end Observation

/-- The packet of the connection at `node` whose outcome a sender waits for. -/
def Sender.packet? (node : Nat) : Sender → Option (Nat × Nat)
  | .request other k index => if other = node then some (k, index) else none
  | _ => none

/-- Whoever waits for the outcome that a task leads to. -/
def Task.sender? : Task → Option Sender
  | .release sender _ => some sender
  | .conclude sender _ => some sender
  | _ => none

/-- Whoever waits with a submission at a station. -/
def Station.senders (s : Station) : List Sender :=
  (s.endpoint.awaiting ++ s.endpoint.held).map (·.sender)

namespace Network

/-- What `f` makes of everything that could be noticed. -/
def lookBack {α : Type} (n : Network) (f : Observation → Option α) : List α :=
  n.history.toList.filterMap f

/-- Everything that the connection at `node` asked for. -/
def asked (n : Network) (node : Nat) : List Connection.Effect :=
  n.lookBack (Observation.asked? node)

/-- Everything that the connection at `node` was told. -/
def inputs (n : Network) (node : Nat) : List Input := n.lookBack (Observation.input? node)

/-- Everybody who waits for the outcome of a submission. -/
def senders (n : Network) : List Sender :=
  n.stations.flatMap Station.senders ++ n.tasks.filterMap Task.sender?

section Projections

variable (n : Network) (node : Nat) (o : Observation) (task : Task)

/-- What was just noticed is the last of what was. -/
@[simp] lemma lookBack_observe {α : Type} (f : Observation → Option α) :
    (n.observe o).lookBack f = n.lookBack f ++ (f o).toList := by
  cases h : f o <;> simp [lookBack, observe, h]

/-- What `f` makes nothing of is not noticed. -/
lemma lookBack_unseen {α : Type} {f : Observation → Option α} {o : Observation}
    (unseen : f o = none) : (n.observe o).lookBack f = n.lookBack f := by
  rw [lookBack_observe, unseen, Option.toList_none, List.append_nil]

/-- What a connection asked for ends with what it has just asked for. -/
@[simp] lemma asked_observe : (n.observe o).asked node = n.asked node ++ (o.asked? node).toList :=
  lookBack_observe ..

/-- What a connection was told ends with what it has just been told. -/
@[simp] lemma inputs_observe :
    (n.observe o).inputs node = n.inputs node ++ (o.input? node).toList :=
  lookBack_observe ..

/-- What brings no outcome leaves the answers as they are. -/
lemma answers_observe (none : ∀ input ∈ o.input? node, input.answer? = none) :
    answers ((n.observe o).inputs node) = answers (n.inputs node) := by
  rw [inputs_observe, answers, List.filterMap_append, answers]
  cases input : o.input? node with
  | none => exact List.append_nil _
  | some input' => simp [none input' input]

/-- Nobody waits for a record. -/
@[simp] lemma senders_observe : (n.observe o).senders = n.senders := rfl

/-- A task that is left for later has not been noticed yet. -/
@[simp] lemma lookBack_later {α : Type} (f : Observation → Option α) :
    (n.later task).lookBack f = n.lookBack f := rfl

/-- A task that is left for later asks for nothing yet. -/
@[simp] lemma asked_later : (n.later task).asked node = n.asked node := rfl

/-- A task that is left for later tells a connection nothing yet. -/
@[simp] lemma inputs_later : (n.later task).inputs node = n.inputs node := rfl

/-- Whoever a task that is left for later is about waits for it. -/
@[simp] lemma senders_later : (n.later task).senders = n.senders ++ task.sender?.toList := by
  cases h : task.sender? <;> simp [senders, later, h]

end Projections

section Stations

variable {n : Network} {i : Nat} {s : Station}

/-- What changes for the senders at one station changes for the network. -/
lemma senders_modifyStation (get : n.stations[i]? = some s) {f : Station → Station}
    (gone come : List Sender) (change : (gone ++ (f s).senders).Perm (come ++ s.senders)) :
    (gone ++ (n.modifyStation i f).senders).Perm (come ++ n.senders) := by
  have stations : (gone ++ (n.stations.modify i f).flatMap Station.senders).Perm
      (come ++ n.stations.flatMap Station.senders) := by
    -- on the stations in front of the one that changes
    generalize n.stations = stations at *
    induction stations generalizing i with
    | nil => cases get
    | cons s' stations ih =>
      cases i with
      | zero =>
        cases get
        simpa [List.modify_cons] using change.append_right (stations.flatMap Station.senders)
      | succ i =>
        simp only [List.modify_succ_cons, List.flatMap_cons]
        have later := (ih get).append_left s'.senders
        exact ((List.perm_append_comm_assoc ..).trans later).trans (List.perm_append_comm_assoc ..)
  have all := stations.append_right (n.tasks.filterMap Task.sender?)
  simpa only [senders, modifyStation, List.append_assoc] using all

/-- A submission makes its sender wait, whatever becomes of it. -/
lemma senders_submit (get : n.stations[i]? = some s) (data : Bytes) (sender : Sender) :
    (n.submit i data sender).senders.Perm (sender :: n.senders) := by
  have same {e : Endpoint Sender} (awaiting : e.awaiting = s.endpoint.awaiting)
      (held : e.held = s.endpoint.held) : (n.setEndpoint i e).senders.Perm n.senders :=
    senders_modifyStation get [] [] (by simp [Station.senders, awaiting, held])
  obtain ⟨e, fault, submitted, awaiting, held⟩ | ⟨_, e, submitted, awaiting, held⟩ |
      ⟨_, e, submitted, awaiting, held⟩ := s.endpoint.submit_cases ⟨data, sender⟩ <;>
    simp only [submit, get, submitted]
  · rw [senders_later]
    exact (List.perm_append_singleton ..).trans ((same awaiting held).cons sender)
  · refine senders_modifyStation get [] [sender] ?_
    simp [Station.senders, awaiting, held, ← List.append_assoc, List.perm_append_singleton]
  · rw [senders_later]
    refine (List.append_nil _).symm ▸ senders_modifyStation get [] [sender] ?_
    simp [Station.senders, awaiting, held]

end Stations

/-! ## Effects -/

/-- Two networks with the same stations and nodes, up to what these hold, in which nobody else
changed. -/
structure Frame (n n' : Network) : Prop where
  hands_eq : n'.hands = n.hands
  benches_eq : n'.benches = n.benches
  handlers_eq : n'.handlers = n.handlers
  listeners_eq : n'.listeners = n.listeners
  nodes_eq : n'.nodes.map (·.station) = n.nodes.map (·.station)
  stations_eq : n'.stations.length = n.stations.length

namespace Frame

/-- A network frames itself. -/
lemma refl (n : Network) : Frame n n := ⟨rfl, rfl, rfl, rfl, rfl, rfl⟩

/-- Frames of two steps make a frame of both. -/
lemma trans {n n' n'' : Network} (first : Frame n n') (second : Frame n' n'') : Frame n n'' :=
  ⟨second.hands_eq.trans first.hands_eq, second.benches_eq.trans first.benches_eq,
    second.handlers_eq.trans first.handlers_eq, second.listeners_eq.trans first.listeners_eq,
    second.nodes_eq.trans first.nodes_eq, second.stations_eq.trans first.stations_eq⟩

variable (n : Network)

/-- A record is outside the frame. -/
lemma observe (o : Observation) : Frame n (n.observe o) := ⟨rfl, rfl, rfl, rfl, rfl, rfl⟩

/-- A task is outside the frame. -/
lemma later (task : Task) : Frame n (n.later task) := ⟨rfl, rfl, rfl, rfl, rfl, rfl⟩

/-- A station may change within the frame. -/
lemma modifyStation (i : Nat) (f : Station → Station) : Frame n (n.modifyStation i f) :=
  ⟨rfl, rfl, rfl, rfl, rfl, List.length_modify ..⟩

/-- A node may change within the frame, if it stays at its station. -/
lemma modifyNode (node : Nat) {f : Node → Node} (stays : ∀ x, (f x).station = x.station) :
    Frame n (n.modifyNode node f) := by
  refine ⟨rfl, rfl, rfl, rfl, ?_, rfl⟩
  apply List.ext_getElem?
  intro i
  simp only [Network.modifyNode, List.getElem?_map, List.getElem?_modify]
  cases n.nodes[i]? with
  | none => rfl
  | some x =>
    simp only [Option.map_some]
    split <;> simp [stays]

/-- A submission keeps to the frame. -/
lemma submit (i : Nat) (data : Bytes) (sender : Sender) : Frame n (n.submit i data sender) := by
  unfold Network.submit
  split
  · exact refl n
  · dsimp only
    split
    · exact (modifyStation ..).trans (later ..)
    · exact modifyStation ..
    · exact (modifyStation ..).trans (later ..)

/-- Records of a request keep to the frame. -/
lemma logWrite (owner : Owner) (entry : WriteLog) : Frame n (n.logWrite owner entry) := by
  unfold Network.logWrite
  split
  · exact observe ..
  · exact refl n

/-- Effects of a connection keep to the frame. -/
lemma perform (node : Nat) (effect : Connection.Effect) : Frame n (perform node n effect) := by
  unfold Network.perform
  split
  · exact refl n
  · refine (observe n (.asked node effect)).trans ?_
    cases effect with
    | subscribe => exact modifyStation ..
    | unsubscribe => exact modifyStation ..
    | log => exact observe ..
    | writeLog => exact logWrite ..
    | submit => exact submit ..
    | resolve => exact later ..
    | emit => exact later ..

end Frame

section Perform

variable (n : Network) (node : Nat)

/-- Nothing is noticed of a submission before it has an outcome. -/
@[simp] lemma history_submit (i : Nat) (data : Bytes) (sender : Sender) :
    (n.submit i data sender).history = n.history := by
  unfold submit
  split
  · rfl
  · dsimp only
    split <;> rfl

/-- A submission changes no connection. -/
@[simp] lemma nodes_submit (i : Nat) (data : Bytes) (sender : Sender) :
    (n.submit i data sender).nodes = n.nodes := by
  unfold submit
  split
  · rfl
  · dsimp only
    split <;> rfl

/-- Looking back, a submission is not to be seen. -/
@[simp] lemma lookBack_submit {α : Type} (f : Observation → Option α) (i : Nat) (data : Bytes)
    (sender : Sender) : (n.submit i data sender).lookBack f = n.lookBack f := by
  rw [lookBack, history_submit, lookBack]

variable (owner : Owner) (entry : WriteLog)

/-- Records of a request tell nothing but what was logged. -/
lemma lookBack_logWrite {α : Type} {f : Observation → Option α}
    (unlogged : ∀ path record, f (.logged path record) = none) :
    (n.logWrite owner entry).lookBack f = n.lookBack f := by
  unfold logWrite
  split
  · simp [unlogged]
  · rfl

/-- Records of a request change no connection. -/
@[simp] lemma nodes_logWrite : (n.logWrite owner entry).nodes = n.nodes := by
  unfold logWrite
  split <;> rfl

/-- Records of a request change no endpoint. -/
@[simp] lemma stations_logWrite : (n.logWrite owner entry).stations = n.stations := by
  unfold logWrite
  split <;> rfl

/-- Records of a request leave nothing for later. -/
@[simp] lemma tasks_logWrite : (n.logWrite owner entry).tasks = n.tasks := by
  unfold logWrite
  split <;> rfl

variable {n node} {x : Node}

/-- Carrying out an effect is noticed as the effect, with at most some records. -/
lemma lookBack_perform {α : Type} {f : Observation → Option α}
    (unlogged : ∀ path record, f (.logged path record) = none) (get : n.nodes[node]? = some x)
    (effect : Connection.Effect) :
    (perform node n effect).lookBack f = n.lookBack f ++ (f (.asked node effect)).toList := by
  rw [← lookBack_observe]
  simp only [perform, get]
  cases effect with
  | log entry =>
    exact lookBack_unseen _ (unlogged _ _)
  | writeLog k entry => exact lookBack_logWrite _ _ _ unlogged
  | submit k index packet => exact lookBack_submit ..
  | _ => rfl

/-- An effect that is carried out is the last that its connection has asked for. -/
lemma asked_perform (get : n.nodes[node]? = some x) (effect : Connection.Effect) (other : Nat) :
    (perform node n effect).asked other =
      n.asked other ++ if node = other then [effect] else [] := by
  rw [asked, lookBack_perform (fun _ _ => rfl) get, Observation.asked?]
  split <;> rfl

/-- Carrying out an effect tells a connection nothing. -/
lemma inputs_perform (get : n.nodes[node]? = some x) (effect : Connection.Effect) (other : Nat) :
    (perform node n effect).inputs other = n.inputs other := by
  rw [inputs, lookBack_perform (fun _ _ => rfl) get]
  exact List.append_nil _

/-- Carrying out an effect changes no connection. -/
lemma nodes_perform (effect : Connection.Effect) : (perform node n effect).nodes = n.nodes := by
  unfold perform
  split
  · rfl
  · cases effect with
    | writeLog k entry => exact nodes_logWrite ..
    | submit k index packet => exact nodes_submit ..
    | _ => rfl

/-- Submissions alone make somebody wait. -/
lemma senders_perform (get : n.nodes[node]? = some x) {s : Station}
    (placed : n.stations[x.station]? = some s) (effect : Connection.Effect) :
    (perform node n effect).senders.Perm
      ((effect.call?.map fun call => .request node call.request call.index).toList ++
        n.senders) := by
  simp only [perform, get]
  cases effect with
  | subscribe => exact senders_modifyStation placed [] [] (List.Perm.refl _)
  | unsubscribe => exact senders_modifyStation placed [] [] (List.Perm.refl _)
  | writeLog k entry => simp [senders, observe, Connection.Effect.call?]
  | submit k index packet =>
    exact senders_submit (n := n.observe (.asked node (.submit k index packet))) placed packet _
  | log entry => exact List.Perm.refl _
  | resolve k result =>
    rw [senders_later]
    simp [Task.sender?, Connection.Effect.call?]
  | emit event =>
    rw [senders_later]
    simp [Task.sender?, Connection.Effect.call?]

end Perform

/-- Every packet that a connection handed over was answered, or its sender waits: with the network
or among `loose`, whom the current operation is about. -/
structure Booked (loose : List Sender) (n : Network) : Prop where
  hands_eq : n.hands = []
  benches_eq : n.benches = []
  handlers_eq : n.handlers = []
  listeners_eq : n.listeners = []
  stationed : ∀ {node : Nat} {x : Node}, n.nodes[node]? = some x → x.station < n.stations.length
  balanced : ∀ {node : Nat}, node < n.nodes.length → (called (n.asked node)).Perm
    (answers (n.inputs node) ++ (loose ++ n.senders).filterMap (Sender.packet? node))

namespace Frame

variable {n n' : Network}

/-- There are as many connections as before. -/
lemma length_nodes (frame : Frame n n') : n'.nodes.length = n.nodes.length := by
  simpa using congrArg List.length frame.nodes_eq

end Frame

namespace Booked

variable {loose loose' : List Sender} {n n' : Network} {node : Nat} {x : Node}

/-- The books stay balanced in a frame, if they are balanced again. -/
lemma of_frame (booked : Booked loose n) (frame : Frame n n')
    (balanced : ∀ {node : Nat}, node < n.nodes.length → (called (n'.asked node)).Perm
      (answers (n'.inputs node) ++ (loose' ++ n'.senders).filterMap (Sender.packet? node))) :
    Booked loose' n' := by
  refine ⟨frame.hands_eq.trans booked.hands_eq, frame.benches_eq.trans booked.benches_eq,
    frame.handlers_eq.trans booked.handlers_eq, frame.listeners_eq.trans booked.listeners_eq,
    fun {node x} get => ?_, fun bound => balanced (frame.length_nodes ▸ bound)⟩
  have places := congrArg (·[node]?) frame.nodes_eq
  simp only [List.getElem?_map, get, Option.map_some] at places
  obtain ⟨x', get', same⟩ := Option.map_eq_some_iff.mp places.symm
  rw [frame.stations_eq, ← same]
  exact booked.stationed get'

/-- A change in which nothing is handed over and nothing answered. -/
lemma of_senders (booked : Booked loose n) (frame : Frame n n')
    (asked : ∀ node, called (n'.asked node) = called (n.asked node))
    (inputs : ∀ node, answers (n'.inputs node) = answers (n.inputs node))
    (senders : ∀ node, ((loose' ++ n'.senders).filterMap (Sender.packet? node)).Perm
      ((loose ++ n.senders).filterMap (Sender.packet? node))) : Booked loose' n' := by
  refine booked.of_frame frame fun {node} bound => ?_
  rw [asked, inputs]
  exact (booked.balanced bound).trans ((senders node).symm.append_left _)

/-- A record of something else than a request and an outcome. -/
lemma observe (booked : Booked loose n) {o : Observation} (asked : ∀ node, o.asked? node = none)
    (silent : ∀ node, ∀ input ∈ o.input? node, input.answer? = none) :
    Booked loose (n.observe o) :=
  booked.of_senders (.observe ..) (fun node => by rw [asked_observe, asked]; simp)
    (fun node => answers_observe _ _ _ (silent node)) fun _ => .refl _

/-- Carrying out an effect keeps the books: a packet that is handed over makes its sender wait. -/
lemma perform (booked : Booked loose n) (get : n.nodes[node]? = some x)
    (effect : Connection.Effect) : Booked loose (perform node n effect) := by
  refine booked.of_frame (.perform n node effect) fun {other} bound => ?_
  have placed := List.getElem?_eq_getElem (booked.stationed get)
  rw [asked_perform get, inputs_perform get, Connection.called_append]
  have waits := ((senders_perform get placed effect).append_left loose).trans
    (List.perm_append_comm_assoc ..)
  have waits := (waits.filterMap (Sender.packet? other)).append_left (answers (n.inputs other))
  refine .trans ?_ waits.symm
  rw [List.filterMap_append]
  refine .trans ((booked.balanced bound).append_right _) ?_
  have same :
      (effect.call?.map fun call => Sender.request node call.request call.index).toList.filterMap
        (Sender.packet? other) = called (if node = other then [effect] else []) := by
    by_cases here : node = other
    · cases effect <;> simp [Connection.Effect.call?, Sender.packet?, called, calls, here]
    · cases effect <;> simp [Connection.Effect.call?, Sender.packet?, called, calls, here]
  rw [same, List.append_assoc]
  exact List.perm_append_comm.append_left _

end Booked

end Network

end PacketLink
