import PacketLink.Proofs.Connection.Gapless
import PacketLink.Proofs.Network.Order

/-!
# Links that carry both ways

Two started connections on a link that neither loses nor refuses anything: each sends whenever it
likes, its endpoint holds and releases submissions, and the loop turns. `Lane` says of one direction
that the packets of a connection are with the other one, with the endpoint, or not handed over yet,
and that everything which is due has its task. `Carries` says so of both directions. Main statement:
`Carries.settleTurn`, by which a connection that goes ahead keeps both, because it hands no packet
over while another one of its packets waits.
-/

namespace PacketLink

open Connection (Input Path Unhindered answers called calls events packets)

namespace Connection.Steady

variable {layout : Layout} {inputs : List Input} {trace : List Connection.Effect} {c : Connection}

/-- At most one packet waits for its outcome. -/
lemma calls_le (steady : c.Steady layout inputs trace) (unhindered : Unhindered inputs trace) :
    (calls trace).length ≤ (answers inputs).length + 1 := by
  obtain ⟨_, _, path⟩ := steady.path
  have going := (path.going_taking unhindered).1.calls_le
  cases active : c.active <;> simp [active] at going <;> omega

/-- Every packet that was handed over fits. -/
lemma below_packet (steady : c.Steady layout inputs trace) {maxPacketSize : Number}
    (sized : c.Sized maxPacketSize) {call : Connection.Call} (mem : call ∈ calls trace) :
    maxPacketSize.below (call.packet.length : Nat) = false := by
  obtain ⟨_, _, path⟩ := steady.path
  obtain ⟨start, shape⟩ := path.shape
  rw [← Connection.map_snd_numberedCalls 0 trace] at mem
  obtain ⟨⟨number, call⟩, numbered, rfl⟩ := List.mem_map.mp mem
  obtain ⟨r, f, get, next, _, _, packet⟩ := shape.of_mem numbered
  have range := Nat.mod_lt number c.layout.counterSpace_pos
  have written := (steady.wellFormed.valid get).encode_fragment next range
  rw [sized r (List.mem_of_getElem? get)] at written
  rw [packet]
  exact Packet.below_length_of_encode written

end Connection.Steady

/-- One of the two ends of a link. -/
inductive Side where
  | near
  | far
  deriving DecidableEq

namespace Side

/-- The place of the endpoint at this end, and of its connection. -/
def place : Side → Nat
  | near => 0
  | far => 1

/-- The end at which the peer is. -/
def other : Side → Side
  | near => far
  | far => near

/-- The peer of the peer is at this end. -/
@[simp] lemma other_other (side : Side) : side.other.other = side := by
  cases side <;> rfl

/-- The two ends are at different places. -/
@[simp] lemma place_inj {side side' : Side} : side.place = side'.place ↔ side = side' := by
  cases side <;> cases side' <;> decide

/-- The peer is at the other end. -/
@[simp] lemma other_ne (side : Side) : side.other ≠ side := by
  cases side <;> decide

/-- An end is not that of its peer. -/
@[simp] lemma ne_other (side : Side) : side ≠ side.other := (other_ne side).symm

/-- An end is this one or that of the peer. -/
lemma eq_or_eq_other (side side' : Side) : side' = side ∨ side' = side.other := by
  cases side <;> cases side' <;> decide

/-- There are two places. -/
lemma place_lt (side : Side) : side.place < 2 := by
  cases side <;> decide

/-- There is nothing but the two ends. -/
lemma exists_place {i : Nat} (lt : i < 2) : ∃ side : Side, side.place = i := by
  rcases i with _ | _ | i
  · exact ⟨near, rfl⟩
  · exact ⟨far, rfl⟩
  · omega

end Side

/-- Two connections on a link. -/
structure Duplex where
  layout : Layout
  /-- Largest packet that the link takes. -/
  maxPacketSize : Number
  limits : Side → Limits

/-- What can happen on a link that carries both ways. -/
inductive DuplexStep where
  | send (side : Side) (name : String) (signal : Option String)
    (content : Message ⊕ ControlMessage)
  | hold (side : Side)
  /-- Deliver the oldest submission that is held. -/
  | release (side : Side)
  | resume (side : Side)
  /-- One turn of the event loop. -/
  | turn

/-- What a step does to the network. -/
def DuplexStep.apply (n : Network) : DuplexStep → Network
  | .send side name signal content => (n.send side.place name signal content).1
  | .hold side => n.modifyEndpoint side.place (·.hold)
  | .release side => (n.release side.place none).1
  | .resume side => (n.resume side.place).1
  | .turn => n.turn.getD n

namespace Duplex

/-- The two connections, of which only the far one has started. -/
def setting (d : Duplex) : Setting where
  layout := d.layout
  maxPacketSize := d.maxPacketSize
  sender := d.limits .near
  receiver := d.limits .far

/-- The network in which the connection of each side has started at its end of the link. -/
def network (d : Duplex) : Network := (d.setting.network.startNode 0).1

/-- The network after some steps. -/
def run (d : Duplex) (steps : List DuplexStep) : Network := steps.foldl DuplexStep.apply d.network

/-- An endpoint of the link: nothing is planned to fail, and nothing is dropped. -/
structure IsStation (d : Duplex) (side : Side) (s : Station) : Prop where
  peer_eq : s.peer = some side.other.place
  handlers_eq : s.handlers.entries = [(0, .node side.place)]
  maxPacketSize_eq : s.endpoint.maxPacketSize = d.maxPacketSize
  failures_eq : s.endpoint.failures = []
  drop_eq : s.endpoint.drop = none

/-- A connection at its end of the link, which nobody listens to. -/
structure IsNode (d : Duplex) (side : Side) (x : Node) : Prop where
  station_eq : x.station = side.place
  listeners_eq : x.listeners.entries = []
  sized : x.connection.Sized d.maxPacketSize
  limit_eq : ∀ kind, (x.connection.inbound kind).maxMessageSize = (d.limits side).maxMessageSize

end Duplex

/-- Whether a task leads to the outcome that a packet was rejected. -/
def Task.isRejection : Task → Bool
  | .release _ (.rejected _) => true
  | .conclude _ (.rejected _) => true
  | _ => false

namespace Network

/-- The submissions that are held at `station`, oldest first. -/
def held (n : Network) (station : Nat) : List (Submission Sender) :=
  (n.stations[station]?.map (·.endpoint.held)).getD []

/-- The submissions that are still with the endpoint at `station`. -/
def waiting (n : Network) (station : Nat) : List (Submission Sender) :=
  n.awaiting station ++ n.held station

/-- The number of deliveries from `station` that have their turn. -/
def due (n : Network) (station : Nat) : Nat := (n.tasks.filterMap Task.station?).count station

/-- The events of the connection at `node` that have their turn, in order. -/
def upcoming (n : Network) (node : Nat) : List Event := n.tasks.filterMap (Task.event? node)

/-- The direction of the link in which the connection of `side` sends. What was delivered and what
waits at the endpoint are its submissions, in order, and the other connection has taken what was
delivered. -/
structure Lane (d : Duplex) (side : Side) (n : Network) : Prop where
  station : ∃ s, n.stations[side.place]? = some s ∧ d.IsStation side s
  node : ∃ x, n.nodes[side.place]? = some x ∧ d.IsNode side x
  flow : n.deliveries side.place ++ n.waiting side.place = n.submissions side.place
  delivers : n.due side.place = (n.awaiting side.place).length
  emits : n.emitted side.place ++ n.upcoming side.place = events (n.asked side.place)
  taken : packets (n.inputs side.other.place) = (n.deliveries side.place).map (·.data)
  unhindered : Unhindered (n.inputs side.place) (n.asked side.place)

/-- Both directions of the link, in which nothing was aborted and nothing is rejected. -/
structure Carries (d : Duplex) (n : Network) : Prop where
  lane : ∀ side, Lane d side n
  length_stations : n.stations.length = 2
  length_nodes : n.nodes.length = 2
  aborted_eq : n.aborted = []
  accepting : ∀ task ∈ n.tasks, task.isRejection = false

variable {d : Duplex} {side actor : Side} {n n' : Network} {s : Station} {x : Node}

section Projections

/-- What awaits delivery at an end that is known. -/
lemma awaiting_of_get (get : n.stations[side.place]? = some s) :
    n.awaiting side.place = s.endpoint.awaiting := by
  simp [awaiting, get]

/-- What is held at an end that is known. -/
lemma held_of_get (get : n.stations[side.place]? = some s) :
    n.held side.place = s.endpoint.held := by
  simp [held, get]

/-- The requests of a connection that is known. -/
lemma requestsAt_of_get (get : n.nodes[side.place]? = some x) :
    n.requestsAt side.place = x.connection.requests := by
  simp [requestsAt, get]

/-- The endpoint at one end is replaced, and the other one stays. -/
lemma getElem?_setEndpoint (get : n.stations[side.place]? = some s) (e : Endpoint Sender)
    (other : Side) : (n.setEndpoint side.place e).stations[other.place]? =
      if other = side then some { s with endpoint := e } else n.stations[other.place]? := by
  simp only [setEndpoint, modifyEndpoint, modifyStation, List.getElem?_modify]
  by_cases same : other = side
  · subst same
    simp [get]
  · simp [same, Ne.symm same]

/-- A change of an endpoint is what it makes of the endpoint that is there. -/
lemma modifyEndpoint_congr (get : n.stations[side.place]? = some s)
    {f g : Endpoint Sender → Endpoint Sender} (same : f s.endpoint = g s.endpoint) :
    n.modifyEndpoint side.place f = n.modifyEndpoint side.place g := by
  have stations : n.stations.modify side.place (fun s => { s with endpoint := f s.endpoint }) =
      n.stations.modify side.place (fun s => { s with endpoint := g s.endpoint }) := by
    refine List.ext_getElem? fun i => ?_
    rw [List.getElem?_modify, List.getElem?_modify]
    by_cases here : side.place = i
    · simp [← here, get, same]
    · simp [here]
  simp only [modifyEndpoint, modifyStation, stations]

/-- An endpoint that is put back changes nothing. -/
lemma setEndpoint_self (get : n.stations[side.place]? = some s) :
    n.setEndpoint side.place s.endpoint = n := by
  have same : n.setEndpoint side.place s.endpoint = n.modifyEndpoint side.place id :=
    modifyEndpoint_congr get rfl
  have unchanged : n.stations.modify side.place (fun s => { s with endpoint := id s.endpoint }) =
      n.stations := List.modify_id ..
  rw [same, modifyEndpoint, modifyStation, unchanged]

variable (n) (task : Task) (i : Nat)

/-- One more delivery is due for each task that delivers. -/
lemma due_later : (n.later task).due i = n.due i + if task.station? = some i then 1 else 0 := by
  cases h : task.station? <;> simp [due, Network.later, h, List.count_append, List.count_singleton]

/-- One more event is to come for each task that emits one. -/
lemma upcoming_later : (n.later task).upcoming i = n.upcoming i ++ (task.event? i).toList := by
  cases h : task.event? i <;> simp [upcoming, Network.later, h]

variable {n task} {tasks : List Task}

/-- A delivery is due for the oldest task, too. -/
lemma due_of_waits (waits : n.tasks = task :: tasks) :
    n.due i = { n with tasks }.due i + if task.station? = some i then 1 else 0 := by
  cases h : task.station? <;> simp [due, waits, h, List.count_cons]

/-- The event of the oldest task is the first to come. -/
lemma upcoming_of_waits (waits : n.tasks = task :: tasks) :
    n.upcoming i = (task.event? i).toList ++ { n with tasks }.upcoming i := by
  cases h : task.event? i <;> simp [upcoming, waits, h]

end Projections

/-- An endpoint of the link takes a packet that fits, and delivers it on a turn of its own unless it
holds it. -/
lemma submit_eq (get : n.stations[side.place]? = some s) (isStation : d.IsStation side s)
    {packet : Bytes} (fits : d.maxPacketSize.below packet.length = false) (sender : Sender) :
    ∃ e, d.IsStation side { s with endpoint := e } ∧
      (n.submit side.place packet sender = n.setEndpoint side.place e ∧
          e.awaiting = s.endpoint.awaiting ∧ e.held = s.endpoint.held ++ [⟨packet, sender⟩] ∨
        n.submit side.place packet sender =
            (n.setEndpoint side.place e).later (.deliver side.place) ∧
          e.awaiting = s.endpoint.awaiting ++ [⟨packet, sender⟩] ∧ e.held = s.endpoint.held) := by
  obtain ⟨e, submitted, size, planned, drop⟩ := s.endpoint.submit_of_fits ⟨packet, sender⟩
    (by rw [isStation.maxPacketSize_eq]; exact fits) isStation.failures_eq
  refine ⟨e, ⟨isStation.peer_eq, isStation.handlers_eq, size.trans isStation.maxPacketSize_eq,
    planned, drop.trans isStation.drop_eq⟩, ?_⟩
  obtain ⟨submitted, kept⟩ | ⟨submitted, kept⟩ := submitted
  · exact .inl ⟨by simp only [Network.submit, get, submitted], kept⟩
  · exact .inr ⟨by simp only [Network.submit, get, submitted], kept⟩

/-! ## Changes that no direction notices -/

namespace Lane

/-- A record of something else than the packets and the events of the connection. -/
lemma observe (lane : Lane d side n) {o : Observation} (asked : o.asked? side.place = none)
    (emitted : o.emitted? side.place = none) (delivered : o.delivered? side.place = none)
    (packet : (o.input? side.other.place).bind Input.packet? = none)
    (accepted : ∀ input ∈ o.input? side.place, input.isRejection = false) :
    Lane d side (n.observe o) := by
  have told : (n.observe o).asked side.place = n.asked side.place := lookBack_unseen _ asked
  have gone : (n.observe o).deliveries side.place = n.deliveries side.place :=
    lookBack_unseen _ delivered
  have seen : (n.observe o).emitted side.place = n.emitted side.place := lookBack_unseen _ emitted
  refine ⟨lane.station, lane.node, ?_, lane.delivers, ?_, ?_, ?_⟩
  · rw [gone, submissions, told]
    exact lane.flow
  · rw [seen, told]
    exact lane.emits
  · rw [gone, inputs_observe, packets, List.filterMap_append]
    cases input : o.input? side.other.place with
    | none => exact (List.append_nil _).trans lane.taken
    | some input' =>
      rw [input] at packet
      have none : input'.packet? = none := packet
      rw [Option.toList_some, List.filterMap_cons, none]
      exact (List.append_nil _).trans lane.taken
  · rw [inputs_observe, told]
    refine ⟨List.forall_mem_append.mpr ⟨lane.unhindered.accepted, fun input mem => ?_⟩,
      lane.unhindered.plain⟩
    exact accepted input (Option.mem_toList.mp mem)

/-- Work that neither delivers nor emits is left to a later turn. -/
lemma later (lane : Lane d side n) {task : Task} (station : task.station? ≠ some side.place)
    (event : task.event? side.place = none) : Lane d side (n.later task) := by
  refine { lane with delivers := ?_, emits := ?_ }
  · rw [due_later, if_neg station]
    exact lane.delivers
  · rw [upcoming_later, event, Option.toList_none, List.append_nil]
    exact lane.emits

/-- The other endpoint changes. -/
lemma setEndpoint_other (lane : Lane d side n) (apart : side ≠ actor)
    (get : n.stations[actor.place]? = some s) (e : Endpoint Sender) :
    Lane d side (n.setEndpoint actor.place e) := by
  have same : (n.setEndpoint actor.place e).stations[side.place]? = n.stations[side.place]? := by
    rw [getElem?_setEndpoint get, if_neg apart]
  refine { lane with station := ?_, flow := ?_, delivers := ?_ }
  · rw [same]
    exact lane.station
  · rw [waiting, awaiting, held, same]
    exact lane.flow
  · rw [awaiting, same]
    exact lane.delivers

/-- The endpoint may change in what no packet depends on. -/
lemma setEndpoint (lane : Lane d side n) (get : n.stations[side.place]? = some s)
    {e : Endpoint Sender} (isStation : d.IsStation side { s with endpoint := e })
    (awaiting : e.awaiting = s.endpoint.awaiting) (held : e.held = s.endpoint.held) :
    Lane d side (n.setEndpoint side.place e) := by
  have get' : (n.setEndpoint side.place e).stations[side.place]? =
      some { s with endpoint := e } := by rw [getElem?_setEndpoint get, if_pos rfl]
  refine { lane with station := ⟨_, get', isStation⟩, flow := ?_, delivers := ?_ }
  · have flow := lane.flow
    rw [waiting, awaiting_of_get get, held_of_get get] at flow
    rw [waiting, awaiting_of_get get', held_of_get get', awaiting, held]
    exact flow
  · have delivers := lane.delivers
    rw [awaiting_of_get get] at delivers
    rw [awaiting_of_get get', awaiting]
    exact delivers

/-- The connection asks for something: a packet is with the endpoint then, and an event has its
turn. -/
lemma asked (lane : Lane d side n) {effect : Connection.Effect} (plain : effect.isPlain = true)
    (history : n'.history = n.history.push (.asked side.place effect))
    (node : n'.nodes[side.place]? = n.nodes[side.place]?)
    (station : ∃ s, n'.stations[side.place]? = some s ∧ d.IsStation side s)
    (flow : n.deliveries side.place ++ n'.waiting side.place =
      n.submissions side.place ++ (effect.call?.map (·.submission side.place)).toList)
    (delivers : n'.due side.place = (n'.awaiting side.place).length)
    (emits : n'.upcoming side.place = n.upcoming side.place ++ effect.event?.toList) :
    Lane d side n' := by
  have look {α : Type} (f : Observation → Option α) :
      n'.lookBack f = n.lookBack f ++ (f (.asked side.place effect)).toList := by
    rw [lookBack, history]
    exact lookBack_observe n _ f
  have told : n'.asked side.place = n.asked side.place ++ [effect] :=
    (look _).trans (by simp [Observation.asked?]; rfl)
  have unseen {α : Type} {f : Observation → Option α}
      (none : f (.asked side.place effect) = none) : n'.lookBack f = n.lookBack f := by
    rw [look, none, Option.toList_none, List.append_nil]
  have gone : n'.deliveries side.place = n.deliveries side.place := unseen rfl
  have heard (node : Nat) : n'.inputs node = n.inputs node := unseen rfl
  refine ⟨station, node ▸ lane.node, ?_, delivers, ?_, ?_, ?_⟩
  · rw [gone, flow, submissions, submissions, told, Connection.calls_append, List.map_append]
    cases effect <;> rfl
  · have seen : n'.emitted side.place = n.emitted side.place := unseen rfl
    rw [seen, emits, told, Connection.events_append, ← lane.emits, List.append_assoc]
    cases effect <;> rfl
  · rw [gone, heard]
    exact lane.taken
  · rw [heard, told]
    exact ⟨lane.unhindered.accepted,
      List.forall_mem_append.mpr ⟨lane.unhindered.plain, by simp [plain]⟩⟩

/-- The other connection asks for something. -/
lemma asked_other (lane : Lane d side n) (apart : side ≠ actor) (effect : Connection.Effect) :
    Lane d side (n.observe (.asked actor.place effect)) :=
  lane.observe (if_neg (by simpa using Ne.symm apart)) rfl rfl rfl fun _ mem => by cases mem

end Lane

/-! ## Both directions -/

namespace Carries

/-- What concerns neither packets nor events may be noticed. -/
lemma observe (carries : Carries d n) {o : Observation} (asked : ∀ node, o.asked? node = none)
    (emitted : ∀ node, o.emitted? node = none) (delivered : ∀ station, o.delivered? station = none)
    (told : ∀ node, ∀ input ∈ o.input? node, input.packet? = none ∧ input.isRejection = false) :
    Carries d (n.observe o) :=
  { carries with
    lane := fun side => (carries.lane side).observe (asked _) (emitted _) (delivered _)
      (Option.bind_eq_none_iff.mpr fun input mem => (told _ input mem).1)
      fun input mem => (told _ input mem).2 }

/-- A task may be left for later that neither delivers nor emits nor rejects. -/
lemma later (carries : Carries d n) {task : Task} (station : task.station? = none)
    (event : ∀ node, task.event? node = none) (accepted : task.isRejection = false) :
    Carries d (n.later task) :=
  { carries with
    lane := fun side => (carries.lane side).later (by simp [station]) (event _)
    accepting := List.forall_mem_append.mpr ⟨carries.accepting, by simpa using accepted⟩ }

/-- Records of a request concern neither direction. -/
lemma logWrite (carries : Carries d n) (owner : Owner) (entry : WriteLog) :
    Carries d (n.logWrite owner entry) := by
  unfold Network.logWrite
  split
  · exact carries.observe (fun _ => rfl) (fun _ => rfl) (fun _ => rfl) fun _ _ mem => by cases mem
  · exact carries

/-- A connection asks for something that is neither a packet nor an event. -/
lemma ask (carries : Carries d n) (actor : Side) {effect : Connection.Effect}
    (plain : effect.isPlain = true) (call : effect.call? = none) (event : effect.event? = none) :
    Carries d (n.observe (.asked actor.place effect)) := by
  refine { carries with lane := fun side => ?_ }
  have lane := carries.lane side
  by_cases same : side = actor
  · subst same
    refine lane.asked plain rfl rfl lane.station ?_ lane.delivers ?_
    · rw [call]
      exact lane.flow.trans (List.append_nil _).symm
    · rw [event]
      exact (List.append_nil _).symm
  · exact lane.asked_other same effect

/-- A connection asks for an event, which gets its turn. -/
lemma emit (carries : Carries d n) (actor : Side) (event : Event) (listeners : List Listener) :
    Carries d ((n.observe (.asked actor.place (.emit event))).later
      (.emit actor.place event listeners)) := by
  refine { carries with
    lane := fun side => ?_
    accepting := List.forall_mem_append.mpr ⟨carries.accepting, by simp [Task.isRejection]⟩ }
  have lane := carries.lane side
  by_cases same : side = actor
  · subst same
    refine lane.asked rfl rfl rfl lane.station ?_ ?_ ?_
    · exact lane.flow.trans (List.append_nil _).symm
    · rw [due_later, if_neg (by simp [Task.station?])]
      exact lane.delivers
    · rw [upcoming_later, Task.event?, if_pos rfl]
      rfl
  · exact (lane.asked_other same _).later (by simp [Task.station?])
      (if_neg (by simpa using Ne.symm same))

/-- A connection hands a packet over while none of its packets waits. -/
lemma submit (carries : Carries d n) (actor : Side) (k index : Nat) {packet : Bytes}
    (idle : n.waiting actor.place = []) (fits : d.maxPacketSize.below packet.length = false) :
    Carries d ((n.observe (.asked actor.place (.submit k index packet))).submit actor.place packet
      (.request actor.place k index)) := by
  have own := carries.lane actor
  obtain ⟨s, get, isStation⟩ := own.station
  let asked := n.observe (.asked actor.place (.submit k index packet))
  have get' : asked.stations[actor.place]? = some s := get
  obtain ⟨e, isStation', submitted⟩ :=
    submit_eq get' isStation fits (.request actor.place k index)
  have after := getElem?_setEndpoint get' e actor
  rw [if_pos rfl] at after
  have length : (asked.setEndpoint actor.place e).stations.length = 2 :=
    (List.length_modify ..).trans carries.length_stations
  have others {side : Side} (apart : side ≠ actor) :
      Lane d side (asked.setEndpoint actor.place e) :=
    ((carries.lane side).asked_other apart _).setEndpoint_other apart get' e
  have delivers := own.delivers
  rw [awaiting_of_get get] at delivers
  have all := own.flow
  rw [idle, List.append_nil] at all
  rw [waiting, awaiting_of_get get, held_of_get get, List.append_eq_nil_iff] at idle
  have flow : n.deliveries actor.place ++ (asked.setEndpoint actor.place e).waiting actor.place =
      n.submissions actor.place ++ [⟨packet, .request actor.place k index⟩] := by
    rw [waiting, awaiting_of_get after, held_of_get after, all]
    obtain ⟨_, awaiting, held⟩ | ⟨_, awaiting, held⟩ := submitted <;> simp [awaiting, held, idle]
  obtain ⟨same, awaiting, _⟩ | ⟨same, awaiting, _⟩ := submitted
  · rw [same]
    refine ⟨fun side => ?_, length, carries.length_nodes, carries.aborted_eq, carries.accepting⟩
    by_cases here : side = actor
    · subst here
      refine own.asked rfl rfl rfl ⟨_, after, isStation'⟩ flow ?_ (List.append_nil _).symm
      rw [awaiting_of_get after, awaiting]
      exact delivers
    · exact others here
  · rw [same]
    refine ⟨fun side => ?_, length, carries.length_nodes, carries.aborted_eq,
      List.forall_mem_append.mpr ⟨carries.accepting, by simp [Task.isRejection]⟩⟩
    by_cases here : side = actor
    · subst here
      refine own.asked rfl rfl rfl ⟨_, after, isStation'⟩ flow ?_ (upcoming_later ..)
      have grown : ((asked.setEndpoint side.place e).later (.deliver side.place)).awaiting
          side.place = e.awaiting := awaiting_of_get after
      rw [grown, awaiting, due_later, List.length_append, ← delivers, if_pos (by rfl)]
      rfl
    · exact (others here).later (by simpa [Task.station?] using Ne.symm here) rfl

/-- A connection changes behind its end of the link. -/
lemma setConnection (carries : Carries d n) (get : n.nodes[actor.place]? = some x)
    {c : Connection} (isNode : d.IsNode actor { x with connection := c }) :
    Carries d (n.setConnection actor.place c) := by
  have nodes := getElem?_setConnection get c
  refine { carries with
    lane := fun side => { carries.lane side with node := ?_ }
    length_nodes := (List.length_modify ..).trans carries.length_nodes }
  rw [nodes]
  split
  · rename_i same
    exact ⟨_, rfl, Side.place_inj.mp same ▸ isNode⟩
  · exact (carries.lane side).node

/-- What a connection asks for while it goes ahead. -/
lemma perform (carries : Carries d n) {effect : Connection.Effect} (plain : effect.isPlain = true)
    (calls : ∀ call ∈ effect.call?,
      n.waiting actor.place = [] ∧ d.maxPacketSize.below call.packet.length = false) :
    Carries d (perform actor.place n effect) := by
  obtain ⟨x, get, isNode⟩ := (carries.lane actor).node
  simp only [Network.perform, get, isNode.station_eq]
  cases effect with
  | subscribe | unsubscribe => cases plain
  | log entry =>
    exact (carries.ask actor plain rfl rfl).observe (fun _ => rfl) (fun _ => rfl) (fun _ => rfl)
      fun _ _ mem => by cases mem
  | writeLog k entry => exact (carries.ask actor plain rfl rfl).logWrite _ _
  | submit k index packet =>
    obtain ⟨idle, fits⟩ := calls _ rfl
    exact carries.submit actor k index idle fits
  | resolve k result =>
    exact (carries.ask actor plain rfl rfl).later rfl (fun _ => rfl) rfl
  | emit event => exact carries.emit actor event _

/-- Every packet whose outcome was heard was delivered, and so was every packet whose outcome is on
its way. -/
lemma answers_le (carries : Carries d n) {loose : List Sender} (booked : Booked loose n)
    (actor : Side) : (answers (n.inputs actor.place)).length +
      ((loose ++ n.tasks.filterMap Task.sender?).filterMap (Sender.packet? actor.place)).length ≤
        (n.deliveries actor.place).length := by
  have lane := carries.lane actor
  obtain ⟨s, get, _⟩ := lane.station
  have balanced := booked.balanced (carries.length_nodes.symm ▸ actor.place_lt)
  -- the packets that wait at the endpoint are the connection's own
  have own : (s.senders.filterMap (Sender.packet? actor.place)).length =
      (n.waiting actor.place).length := by
    have same : s.senders = (n.waiting actor.place).map (·.sender) := by
      rw [waiting, awaiting_of_get get, held_of_get get]
      rfl
    rw [same, List.filterMap_map, List.filterMap_length_eq_length]
    intro submission mem
    have mem : submission ∈ n.submissions actor.place :=
      lane.flow ▸ List.mem_append_right _ mem
    obtain ⟨call, _, rfl⟩ := List.mem_map.mp mem
    simp [Connection.Call.submission, Sender.packet?]
  have among : (s.senders.filterMap (Sender.packet? actor.place)).length ≤
      ((n.stations.flatMap Station.senders).filterMap (Sender.packet? actor.place)).length :=
    ((List.sublist_flatten_of_mem (List.mem_map_of_mem (List.mem_of_getElem? get))).filterMap
      _).length_le
  have flow := congrArg List.length lane.flow
  have all := balanced.length_eq
  simp only [submissions, called, senders, List.filterMap_append, List.length_append,
    List.length_map] at flow all ⊢
  omega

/-- A connection goes ahead. -/
lemma settleTurn (carries : Carries d n) {loose : List Sender} {layouts : Nat → Layout}
    (get : n.nodes[actor.place]? = some x) {turn : Connection.Turn}
    (plain : turn.Plain d.maxPacketSize)
    (limit : ∀ kind, (turn.connection.inbound kind).maxMessageSize =
      (x.connection.inbound kind).maxMessageSize)
    (sound : Sound layouts loose (n.settleTurn actor.place turn))
    (heard : (answers (n.inputs actor.place)).length ≤ (n.deliveries actor.place).length) :
    Carries d (n.settleTurn actor.place turn) := by
  have lane := carries.lane actor
  obtain ⟨x', get', isNode⟩ := lane.node
  obtain rfl := Option.some.inj (get.symm.trans get')
  have steady : turn.connection.Steady (layouts actor.place) (n.inputs actor.place)
      (n.asked actor.place ++ turn.effects) := by
    have settled : (n.settleTurn actor.place turn).nodes[actor.place]? =
        some { x with connection := turn.connection } := by
      rw [nodes_settleTurn, getElem?_setConnection get, if_pos rfl]
    have steady := sound.steady settled
    rwa [inputs_settleTurn get, asked_settleTurn get, if_pos rfl] at steady
  have unhindered : Unhindered (n.inputs actor.place) (n.asked actor.place ++ turn.effects) :=
    ⟨lane.unhindered.accepted, List.forall_mem_append.mpr
      ⟨lane.unhindered.plain, fun effect mem => .inr (plain.isPlain_eq effect mem)⟩⟩
  have one := steady.calls_le unhindered
  have placed := carries.setConnection get (c := turn.connection)
    ⟨isNode.station_eq, isNode.listeners_eq, plain.sized, fun kind =>
      (limit kind).trans (isNode.limit_eq kind)⟩
  have all := settleTurn_prefix_induction n actor.place turn
    (motive := fun done n' => Carries d n' ∧ n'.deliveries actor.place = n.deliveries actor.place ∧
      n'.asked actor.place = n.asked actor.place ++ done)
    ⟨placed, rfl, (List.append_nil _).symm⟩ fun {done effect n'} first ⟨carries', gone, told⟩ => by
      obtain ⟨x', get', _⟩ := (carries'.lane actor).node
      have among : effect ∈ turn.effects := first.subset (by simp)
      refine ⟨carries'.perform (plain.isPlain_eq effect among) fun call mem => ⟨?_, ?_⟩, ?_, ?_⟩
      · -- the call is one more than the outcomes that were heard, so all before it were delivered
        have before : (calls done).length + 1 ≤ (calls turn.effects).length := by
          have le := (first.filterMap Connection.Effect.call?).length_le
          rw [List.filterMap_append, List.length_append] at le
          simpa [calls, Option.mem_def.mp mem] using le
        have flow := congrArg List.length (carries'.lane actor).flow
        rw [List.length_append, gone, submissions, told, List.length_map, Connection.calls_append,
          List.length_append] at flow
        rw [Connection.calls_append, List.length_append] at one
        exact List.eq_nil_of_length_eq_zero (by omega)
      · exact steady.below_packet plain.sized (List.mem_filterMap.mpr
          ⟨effect, List.mem_append_right _ among, mem⟩)
      · rw [deliveries_perform get', gone]
      · rw [asked_perform get', if_pos rfl, told, List.append_assoc]
  exact all.1

end Carries

end Network

end PacketLink
