import PacketLink.Proofs.Connection.Frame
import PacketLink.Proofs.Connection.Run
import PacketLink.Proofs.Connection.Stream
import PacketLink.Proofs.Reassembly.Delivery

/-!
# The two inbound streams

A connection reads every packet itself and passes it to the stream of its kind, while a reassembler
reads the bytes that it is given. Both agree on every sequence of byte strings: each stream of a
connection answers as a reassembler of its own that is given only the packets of its kind and the
bytes that are no packet (`Run.inbound_refines`). Sending, cancelling and outcomes leave both
streams alone, and a reset or the first closing drops what they hold.
-/

namespace PacketLink

namespace Connection

variable {c : Connection} {layout : Layout} {kind : Kind}

/-! ## Turns that spare the inbound streams -/

/-- A turn that leaves the inbound streams of `c` alone. -/
def Turn.Spares (c : Connection) (turn : Turn) : Prop := turn.connection.inbound = c.inbound

/-- The inbound streams are one of each kind. -/
lemma inbound_congr {c' : Connection} (data : c'.data = c.data) (control : c'.control = c.control) :
    c'.inbound = c.inbound := by
  funext kind
  cases kind with
  | data => exact data
  | control => exact control

/-- The inbound streams do not depend on what is in the slot. -/
lemma inbound_vacate (c : Connection) (k : Nat) : (c.vacate k).inbound = c.inbound := by
  unfold vacate
  split
  · exact inbound_congr rfl rfl
  · exact inbound_congr rfl rfl

/-- The inbound streams belong to the frame. -/
lemma Turn.Keeps.spares {turn : Turn} (keeps : turn.Keeps c) : turn.Spares c :=
  inbound_congr (congrArg Connection.data keeps :) (congrArg Connection.control keeps :)

/-- Beginning to listen leaves the inbound streams alone. -/
lemma Turn.Spares.start {turn : Turn} (started : c.start = .ok turn) : turn.Spares c := by
  unfold Connection.start at started
  split at started
  · cases started
  · split at started
    · cases started
      rfl
    · cases started
      exact inbound_congr rfl rfl

/-! ## Turns that change the inbound streams -/

/-- Resetting the inbound streams resets each of them. -/
@[simp] lemma inbound_resetInbound (c : Connection) (kind : Kind) :
    c.resetInbound.inbound kind = (c.inbound kind).reset := by
  cases kind <;> rfl

/-- A reset of a connection resets both inbound streams. -/
lemma inbound_reset (wf : c.WellFormed) (kind : Kind) :
    c.reset.connection.inbound kind = (c.inbound kind).reset := by
  obtain ⟨done, _⟩ := cancelAll_path wf
  rw [reset, andThen_eq done, ← (Turn.Keeps.cancelAll c).spares, ← inbound_resetInbound]
  exact congrFun (inbound_congr rfl rfl) kind

/-- Closing an open connection resets both inbound streams. -/
lemma inbound_close (wf : c.WellFormed) (opened : c.closed = false) (kind : Kind) :
    c.close.connection.inbound kind = (c.inbound kind).reset := by
  let retired : Connection := { c with closed := true, listening := false }
  obtain ⟨done, _⟩ := cancelAll_path (c := retired) ((Move.retire opened).wellFormed wf)
  have spared : retired.cancelAll.connection.inbound = c.inbound :=
    (Turn.Keeps.cancelAll retired).spares.trans (inbound_congr rfl rfl)
  rw [close, if_neg (by simp [opened]), andThen_eq rfl, ← spared, ← inbound_resetInbound]
  exact congrArg (fun turn : Turn => turn.connection.inbound kind) (andThen_eq done _)

/-! ## Packets and their streams -/

/-- The kind of the packet that bytes are, if they are one. -/
def kindOf? (layout : Layout) (data : Bytes) : Option Kind :=
  (Packet.decode layout data).toOption.map fun packet => packet.kind

/-- Whether the stream of a kind hears of bytes: they are a packet of the kind or no packet. -/
def concerns (layout : Layout) (kind : Kind) (data : Bytes) : Bool :=
  (kindOf? layout data).all (· = kind)

/-- The events that go with an answer to bytes, by the kind of the packet that they are. -/
inductive Announced : Option Kind → Reception → List Event → Prop where
  | pending (kind : Kind) : Announced (some kind) .pending []
  | complete (kind : Kind) (data : Bytes) :
    Announced (some kind) (.complete data) [delivery kind data]
  | error (kind : Kind) {error : FramingError} :
    (∀ code reason, error ≠ .malformedPacket code reason) →
    Announced (some kind) (.error error none) [.framingError (some kind) error]
  /-- The packet that broke the framing is a message of its own. -/
  | errorComplete (kind : Kind) {error : FramingError} (data : Bytes) :
    (∀ code reason, error ≠ .malformedPacket code reason) →
    Announced (some kind) (.error error (some data))
      [.framingError (some kind) error, delivery kind data]
  | malformed (code : Malformed.Code) (reason : String) :
    Announced none (.error (.malformedPacket code reason) none)
      [.framingError none (.malformedPacket code reason)]

/-- A packet may break the framing in any way but one. -/
lemma not_malformed_receive (r : Reassembler) {packet : Packet} {error : FramingError}
    {data : Option Bytes} (answer : (r.receive packet).2 = .error error data) :
    ∀ code reason, error ≠ .malformedPacket code reason := by
  have takes := r.takes_receive packet
  generalize (r.receive packet).1.progress = next at takes
  generalize (r.receive packet).2 = outcome at takes answer
  cases takes with
  | begins _ _ accepts | continues _ _ accepts => cases accepts <;> cases answer <;> simp
  | restarts _ _ accepts => cases accepts <;> cases answer <;> simp
  | stray =>
    cases answer
    simp

/-- The events of a packet go with the answer to it. -/
lemma announced_receive (c : Connection) (data : Bytes) :
    Announced (kindOf? c.layout data) (c.receive data).2 (events (c.receive data).1.effects) := by
  unfold receive kindOf?
  cases decoded : Packet.decode c.layout data with
  | error cause => exact .malformed ..
  | ok packet =>
    dsimp only
    cases outcome : ((c.inbound packet.kind).receive packet).2 with
    | pending => exact .pending _
    | complete data => exact .complete ..
    | error error data =>
      cases data with
      | none => exact .error _ (not_malformed_receive _ outcome)
      | some data => exact .errorComplete _ data (not_malformed_receive _ outcome)

/-- The stream of a kind hears bytes as a reassembler does, if they concern it, and else it stays
as it is. -/
lemma inbound_receive (c : Connection) (kind : Kind)
    (same : (c.inbound kind).layout = c.layout) (data : Bytes) :
    if concerns c.layout kind data then
      (c.inbound kind).receiveBytes data =
        ((c.receive data).1.connection.inbound kind, (c.receive data).2)
    else (c.receive data).1.connection.inbound kind = c.inbound kind := by
  simp only [concerns, kindOf?, receive, Reassembler.receiveBytes, same]
  cases decoded : Packet.decode c.layout data with
  | error cause => exact Prod.ext (inbound_resetInbound c kind).symm rfl
  | ok packet =>
    simp only [Except.toOption, Option.map_some, Option.all_some, decide_eq_true_eq, ask]
    split
    · rename_i here
      subst here
      rw [inbound_setInbound]
    · rename_i apart
      exact inbound_setInbound_of_ne c (Ne.symm apart) _

/-! ## Runs -/

/-- What happens to the inbound streams of a connection. -/
inductive Arrival where
  /-- Bytes were taken, and this was the answer and these the events. -/
  | bytes (data : Bytes) (answer : Reception) (events : List Event)
  /-- What both streams held was dropped. -/
  | drop

/-- What a reassembler for the packets of a kind is called with. -/
def Arrival.call? (layout : Layout) (kind : Kind) : Arrival → Option Reassembler.Call
  | .bytes data .. => if concerns layout kind data then some (.receiveBytes data) else none
  | .drop => some .reset

/-- What a reassembler for the packets of a kind should have answered. -/
def Arrival.answer? (layout : Layout) (kind : Kind) : Arrival → Option (Option Reception)
  | .bytes data answer _ => if concerns layout kind data then some (some answer) else none
  | .drop => some none

namespace Run

/-- What an operation means for the inbound streams; to close again means nothing. -/
def arrival? (run : Run) : Operation → Option Arrival
  | .receive data =>
    let (turn, answer) := run.connection.receive data
    some (.bytes data answer (events turn.effects))
  | .reset => some .drop
  | .close => if run.connection.closed then none else some .drop
  | _ => none

/-- What some operations mean for the inbound streams, in order. -/
def arrivals (run : Run) : List Operation → List Arrival
  | [] => []
  | operation :: operations =>
    (run.arrival? operation).toList ++ (run.apply operation).arrivals operations

variable {maxPacketCount maxMessageSize : Number} {run : Run}

/-- Both streams are for the packets of `layout`. -/
def Layered (layout : Layout) (run : Run) : Prop :=
  run.connection.layout = layout ∧ ∀ kind, (run.connection.inbound kind).layout = layout

/-- What an operation means for the stream of a kind is a call of it, or nothing. -/
lemma inbound_apply (sound : Sound layout maxPacketCount maxMessageSize run)
    (layered : run.Layered layout) (operation : Operation) (kind : Kind) :
    let calls := (run.arrival? operation).toList.filterMap (Arrival.call? layout kind)
    (run.apply operation).connection.inbound kind = (run.connection.inbound kind).after calls ∧
      (run.connection.inbound kind).answers calls =
        (run.arrival? operation).toList.filterMap (Arrival.answer? layout kind) := by
  have wf := sound.wellFormed
  have spared {turn : Turn} {inputs : List Input} (spares : turn.Spares run.connection) :
      (run.absorb inputs turn).connection.inbound kind = run.connection.inbound kind :=
    congrFun spares kind
  cases operation with
  | receive data =>
    have heard := inbound_receive run.connection kind
      ((layered.2 kind).trans layered.1.symm) data
    rw [layered.1] at heard
    simp only [arrival?, Option.toList_some, List.filterMap_cons, List.filterMap_nil,
      Arrival.call?, Arrival.answer?]
    split at heard <;> rename_i concerned
    · rw [if_pos concerned, if_pos concerned]
      simp only [Reassembler.after, Reassembler.answers, Reassembler.call, List.foldl_cons,
        List.foldl_nil, heard]
      exact ⟨rfl, trivial⟩
    · rw [if_neg concerned, if_neg concerned]
      exact ⟨heard, rfl⟩
  | reset => exact ⟨inbound_reset wf kind, rfl⟩
  | close =>
    simp only [arrival?]
    split
    · rename_i closed
      simp [apply, absorb, close, closed, stay, ask, Reassembler.after, Reassembler.answers]
    · rename_i opened
      exact ⟨inbound_close wf (by simpa using opened) kind, rfl⟩
  | send id maxPacketSize message signal =>
    refine ⟨?_, rfl⟩
    simp only [apply]
    split
    · exact spared (Turn.Keeps.send ‹_›).spares
    · rfl
  | sendControlMessage id maxPacketSize message signal =>
    refine ⟨?_, rfl⟩
    simp only [apply]
    split
    · obtain ⟨_, _, sent⟩ := sendControlMessage_eq ‹_›
      exact spared (Turn.Keeps.send sent).spares
    · rfl
  | cancel k => exact ⟨spared (Turn.Keeps.cancel ..).spares, rfl⟩
  | abort signal =>
    have keeps := Turn.Keeps.cancelEach (run.signalled signal) run.connection
    exact ⟨congrFun keeps.spares kind, rfl⟩
  | start =>
    refine ⟨?_, rfl⟩
    simp only [apply]
    split
    · exact spared (.start ‹_›)
    · rfl
  | conclude k index outcome =>
    refine ⟨?_, rfl⟩
    simp only [apply]
    split
    · exact spared (Turn.Keeps.conclude ..).spares
    · rfl

/-- No operation changes the layout of the streams. -/
lemma Layered.apply (sound : Sound layout maxPacketCount maxMessageSize run)
    (layered : run.Layered layout) (operation : Operation) :
    (run.apply operation).Layered layout := by
  refine ⟨(sound.apply operation).path.layout_eq, fun kind => ?_⟩
  rw [(inbound_apply sound layered operation kind).1, Reassembler.after_fst]
  exact layered.2 kind

/-- Along a run, the stream of a kind answers its calls as they were answered. -/
lemma answers_arrivals (sound : Sound layout maxPacketCount maxMessageSize run)
    (layered : run.Layered layout) (operations : List Operation) (kind : Kind) :
    (run.connection.inbound kind).answers
        ((run.arrivals operations).filterMap (Arrival.call? layout kind)) =
      (run.arrivals operations).filterMap (Arrival.answer? layout kind) := by
  induction operations generalizing run with
  | nil => rfl
  | cons operation operations ih =>
    obtain ⟨after, answers⟩ := inbound_apply sound layered operation kind
    have later := ih (sound.apply operation) (layered.apply sound operation)
    rw [after] at later
    rw [arrivals, List.filterMap_append, List.filterMap_append, Reassembler.answers_append,
      answers, later]

/-- Whatever arrives in a run, its events go with the answer to it. -/
lemma announced_arrivals (sound : Sound layout maxPacketCount maxMessageSize run)
    (operations : List Operation) {data : Bytes} {answer : Reception} {events : List Event}
    (mem : .bytes data answer events ∈ run.arrivals operations) :
    Announced (kindOf? layout data) answer events := by
  induction operations generalizing run with
  | nil => cases mem
  | cons operation operations ih =>
    rw [arrivals, List.mem_append] at mem
    obtain mem | mem := mem
    · cases operation with
      | receive bytes =>
        cases List.mem_singleton.mp mem
        have layout_eq : run.connection.layout = layout := sound.path.layout_eq
        exact layout_eq ▸ announced_receive run.connection data
      | close =>
        simp only [arrival?] at mem
        split at mem <;> simp at mem
      | reset => simp [arrival?] at mem
      | _ => cases mem
    · exact ih (sound.apply operation) mem

/-- Whatever bytes a connection takes, and whatever happens in between: for each kind it answers as
a reassembler of its own that is given only the packets of that kind and the bytes that are no
packet, and that is reset when the connection is, or closes. The events are those that go with the
answers, and to take bytes always succeeds and changes neither the requests, the slot and the queue
nor the counter. -/
theorem inbound_refines (layout : Layout) (maxPacketCount maxMessageSize : Number)
    (operations : List Operation) :
    let arrivals := (begin (new layout maxPacketCount maxMessageSize)).arrivals operations
    (∀ kind,
      (Reassembler.new layout maxMessageSize).answers
          (arrivals.filterMap (Arrival.call? layout kind)) =
        arrivals.filterMap (Arrival.answer? layout kind)) ∧
      (∀ data answer events, .bytes data answer events ∈ arrivals →
        Announced (kindOf? layout data) answer events) ∧
      ∀ data,
        let c := (of (new layout maxPacketCount maxMessageSize) operations).connection
        let turn := (c.receive data).1
        turn.refused = none ∧ turn.connection.requests = c.requests ∧
          turn.connection.active = c.active ∧ turn.connection.queue = c.queue ∧
          turn.connection.counter = c.counter := by
  have sound : Sound layout maxPacketCount maxMessageSize
      (begin (new layout maxPacketCount maxMessageSize)) := sound_of []
  have layered : (begin (new layout maxPacketCount maxMessageSize)).Layered layout :=
    ⟨rfl, fun kind => by cases kind <;> rfl⟩
  refine ⟨fun kind => ?_, fun data answer events mem => ?_, fun data => ?_⟩
  · have answers := answers_arrivals sound layered operations kind
    cases kind <;> exact answers
  · exact announced_arrivals sound operations mem
  · intro c turn
    have same : turn.connection = { c with
        data := turn.connection.data, control := turn.connection.control } :=
      connection_receive c data
    rw [same]
    exact ⟨(receive_carried (sound_of operations).atRest data).refused_eq, rfl, rfl, rfl, rfl⟩

end Run

end Connection

end PacketLink
