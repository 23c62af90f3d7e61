import PacketLink.Proofs.Connection.Cancellation
import PacketLink.Proofs.Connection.Outcome

/-!
# Runs of a connection

A run is any list of operations on a new connection over any transport: the transport has any packet
size limit at each send and answers the calls made to it in any order, each of them at most once.
`Run.sound_of` says that a run is a path of moves between connections at rest, so that what holds of
paths holds of runs, and `Run.Sound.advances` that every operation goes on along such a path. Main
statement: `Run.wire_shape`.
-/

namespace PacketLink.Connection

/-- What can happen to a connection between two steps of the event loop. -/
inductive Operation where
  /-- Send a message, as the request with this id, over a transport with this packet size limit. -/
  | send (id : Nat) (maxPacketSize : Number) (message : Message) (signal : Option String)
  | sendControlMessage (id : Nat) (maxPacketSize : Number) (message : ControlMessage)
    (signal : Option String)
  | cancel (request : Nat)
  | abort (signal : String)
  | start
  | close
  | reset
  | receive (bytes : Bytes)
  /-- The transport has answered the call for this packet. -/
  | conclude (request index : Nat) (outcome : Outcome)

/-- A connection with its past. -/
structure Run where
  connection : Connection
  /-- The aborted signals. -/
  aborted : List String
  inputs : List Input
  trace : List Effect

namespace Run

/-- The run of no operations. -/
def begin (connection : Connection) : Run := ⟨connection, [], [], []⟩

/-- The run after a turn of its connection. -/
def absorb (run : Run) (inputs : List Input) (turn : Turn) : Run where
  connection := turn.connection
  aborted := run.aborted
  inputs := run.inputs ++ inputs
  trace := run.trace ++ turn.effects

/-- A turn that does nothing leaves a run as it is. -/
lemma absorb_stay (run : Run) : run.absorb [] (stay run.connection) = run := by
  simp [absorb, stay, ask]

/-- A packet was handed to the transport and the call has not been answered. -/
def Awaits (run : Run) (k index : Nat) : Prop :=
  (k, index) ∈ called run.trace ∧ (k, index) ∉ answers run.inputs

/-- Whether a call waits for its answer can be decided. -/
instance (run : Run) (k index : Nat) : Decidable (run.Awaits k index) :=
  inferInstanceAs (Decidable (_ ∧ _))

/-- The places of the requests that were created with a signal. -/
def signalled (run : Run) (signal : String) : List Nat :=
  (List.range run.connection.requests.length).filter fun k =>
    run.connection.requests[k]?.any (·.signal = some signal)

/-- One operation. A send that is refused and an answer that is not awaited change nothing. -/
def apply (run : Run) : Operation → Run
  | .send id maxPacketSize message signal =>
    match run.connection.send id maxPacketSize message signal
        (signal.any run.aborted.contains) with
    | .ok turn => run.absorb [.send message] turn
    | .error _ => run
  | .sendControlMessage id maxPacketSize message signal =>
    match run.connection.sendControlMessage id maxPacketSize message signal
        (signal.any run.aborted.contains) with
    | .ok turn => run.absorb ((messageOf? (.inr message)).toList.map .send) turn
    | .error _ => run
  | .cancel k => run.absorb [] (run.connection.cancel k).1
  | .abort signal =>
    { run with aborted := signal :: run.aborted }.absorb []
      (cancelEach (run.signalled signal) run.connection)
  | .start =>
    match run.connection.start with
    | .ok turn => run.absorb [] turn
    | .error _ => run
  | .close => run.absorb [] run.connection.close
  | .reset => run.absorb [] run.connection.reset
  | .receive bytes => run.absorb [.packet bytes] (run.connection.receive bytes).1
  | .conclude k index outcome =>
    if run.Awaits k index then
      run.absorb [.outcome k index outcome] (run.connection.conclude k index outcome)
    else run

/-- The run of some operations on a connection. -/
def of (connection : Connection) (operations : List Operation) : Run :=
  operations.foldl apply (begin connection)

/-- The operations behind go on from the run of those before. -/
lemma of_append (connection : Connection) (before after : List Operation) :
    of connection (before ++ after) = after.foldl apply (of connection before) :=
  List.foldl_append

variable {layout : Layout} {maxPacketCount maxMessageSize : Number}

/-- One run goes on to another by a turn that comes to rest. The answers that it hears were awaited,
and a new request whose signal is aborted has settled and hands nothing over. -/
structure Advances (run run' : Run) (inputs : List Input) (turn : Turn) : Prop where
  aborted_subset : run.aborted ⊆ run'.aborted
  connection_eq : run'.connection = turn.connection
  inputs_eq : run'.inputs = run.inputs ++ inputs
  trace_eq : run'.trace = run.trace ++ turn.effects
  carried : Turn.Carried run.connection inputs turn
  awaited : ∀ {k i : Nat}, (k, i) ∈ answers inputs → run.Awaits k i
  refused : ∀ {k : Nat} {r : WriteRequest} {signal : String}, run.connection.requests.length ≤ k →
    turn.connection.requests[k]? = some r → r.signal = some signal → signal ∈ run.aborted →
      r.isSettled = true ∧ ∀ i, (k, i) ∉ called turn.effects

namespace Advances

variable {run : Run} {turn : Turn}

/-- A turn that sends nothing. -/
lemma of_unsent {inputs : List Input} (carried : Turn.Carried run.connection inputs turn)
    (unsent : sends inputs = [])
    (awaited : ∀ {k i : Nat}, (k, i) ∈ answers inputs → run.Awaits k i) :
    run.Advances (run.absorb inputs turn) inputs turn := by
  refine ⟨List.Subset.refl _, rfl, rfl, rfl, carried, awaited, fun new get => ?_⟩
  rw [← carried.path.length_eq unsent] at new
  rw [List.getElem?_eq_none new] at get
  cases get

/-- A run that is at rest may stay as it is. -/
lemma refl (rest : run.connection.AtRest) : run.Advances run [] (stay run.connection) := by
  have advances := of_unsent (.stay rest) rfl fun {k i} mem => by cases mem
  rwa [absorb_stay] at advances

/-- A send, unless it is refused. -/
lemma of_sent (wf : run.connection.WellFormed) (rest : run.connection.AtRest) {id : Nat}
    {maxPacketSize : Number} {message : Message} {signal : Option String}
    (sent : run.connection.send id maxPacketSize message signal (signal.any run.aborted.contains) =
      .ok turn) :
    run.Advances (run.absorb [.send message] turn) [.send message] turn := by
  refine ⟨List.Subset.refl _, rfl, rfl, rfl, send_carried wf rest sent,
    (fun mem => by cases mem), fun new get isSignal mem => ?_⟩
  obtain ⟨signal_eq, refused⟩ := send_new wf rest sent new get
  exact refused (by rw [← signal_eq, isSignal]; simpa using mem)

end Advances

/-- A run is a path of moves that has come to rest. -/
structure Sound (layout : Layout) (maxPacketCount maxMessageSize : Number) (run : Run) : Prop where
  path : Path (new layout maxPacketCount maxMessageSize) run.inputs run.trace run.connection
  atRest : run.connection.AtRest

namespace Sound

variable {run : Run}

/-- The connection of a sound run is well-formed. -/
lemma wellFormed (sound : Sound layout maxPacketCount maxMessageSize run) :
    run.connection.WellFormed :=
  sound.path.wellFormed (wellFormed_new _ _ _)

/-- Every operation advances a run. -/
lemma advances (sound : Sound layout maxPacketCount maxMessageSize run) (operation : Operation) :
    ∃ inputs turn, run.Advances (run.apply operation) inputs turn := by
  have wf := sound.wellFormed
  have rest := sound.atRest
  have unchanged : ∃ inputs turn, run.Advances run inputs turn := ⟨_, _, .refl rest⟩
  have quiet {turn : Turn} (carried : Turn.Carried run.connection [] turn) :
      ∃ inputs turn', run.Advances (run.absorb [] turn) inputs turn' :=
    ⟨_, _, .of_unsent carried rfl fun mem => by cases mem⟩
  cases operation with
  | send id maxPacketSize message signal =>
    simp only [Run.apply]
    split
    · exact ⟨_, _, .of_sent wf rest ‹_›⟩
    · exact unchanged
  | sendControlMessage id maxPacketSize message signal =>
    simp only [Run.apply]
    split
    · obtain ⟨carrier, carries, sent⟩ := sendControlMessage_eq ‹_›
      rw [carries]
      exact ⟨_, _, .of_sent wf rest sent⟩
    · exact unchanged
  | cancel k => exact quiet (cancel_carried wf rest k)
  | abort signal =>
    have step : run.Advances _ [] _ :=
      .of_unsent (cancelEach_carried (run.signalled signal) wf rest) rfl fun mem => by cases mem
    exact ⟨_, _, { step with aborted_subset := List.subset_cons_self .. }⟩
  | start =>
    simp only [Run.apply]
    split
    · exact quiet (start_carried rest ‹_›)
    · exact unchanged
  | close => exact quiet (close_carried wf rest)
  | reset => exact quiet (reset_carried wf)
  | receive bytes =>
    exact ⟨_, _, .of_unsent (receive_carried rest bytes) rfl fun mem => by cases mem⟩
  | conclude k index outcome =>
    simp only [Run.apply]
    split
    · rename_i awaits
      obtain ⟨r, get, due⟩ := sound.path.due awaits.1 awaits.2
      refine ⟨_, _, .of_unsent (conclude_carried wf rest get due outcome) rfl fun mem => ?_⟩
      cases List.mem_singleton.mp mem
      exact awaits
    · exact unchanged

/-- A run stays sound. -/
lemma of_advances (sound : Sound layout maxPacketCount maxMessageSize run) {run' : Run}
    {inputs : List Input} {turn : Turn} (advances : run.Advances run' inputs turn) :
    Sound layout maxPacketCount maxMessageSize run' := by
  refine ⟨?_, ?_⟩
  · rw [advances.inputs_eq, advances.trace_eq, advances.connection_eq]
    exact sound.path.trans advances.carried.path
  · rw [advances.connection_eq]
    exact advances.carried.atRest

/-- Every operation leaves a sound run. -/
lemma apply (sound : Sound layout maxPacketCount maxMessageSize run) (operation : Operation) :
    Sound layout maxPacketCount maxMessageSize (run.apply operation) := by
  obtain ⟨_, _, advances⟩ := sound.advances operation
  exact sound.of_advances advances

/-- All operations leave a sound run. -/
lemma foldl (sound : Sound layout maxPacketCount maxMessageSize run)
    (operations : List Operation) :
    Sound layout maxPacketCount maxMessageSize (operations.foldl Run.apply run) := by
  induction operations generalizing run with
  | nil => exact sound
  | cons operation operations ih => exact ih (sound.apply operation)

/-- Operations lead on along a path. -/
lemma onward (sound : Sound layout maxPacketCount maxMessageSize run)
    (operations : List Operation) :
    ∃ inputs later,
      Path run.connection inputs later (operations.foldl Run.apply run).connection ∧
        (operations.foldl Run.apply run).trace = run.trace ++ later := by
  induction operations generalizing run with
  | nil => exact ⟨[], [], .rest _, (List.append_nil _).symm⟩
  | cons operation operations ih =>
    obtain ⟨_, _, advances⟩ := sound.advances operation
    obtain ⟨_, _, path, trace⟩ := ih (sound.apply operation)
    rw [advances.connection_eq] at path
    rw [advances.trace_eq, List.append_assoc] at trace
    exact ⟨_, _, advances.carried.path.trans path, trace⟩

end Sound

/-- Every run is sound. -/
lemma sound_of (operations : List Operation) :
    Sound layout maxPacketCount maxMessageSize
      (of (new layout maxPacketCount maxMessageSize) operations) :=
  Sound.foldl ⟨.rest _, fun _ => rfl⟩ operations

/-- The requests stand in the order in which their messages were sent. The calls of the transport
are one block for each request, in that order, and each call hands over the packet of its index with
its number since the last reset as the counter. -/
theorem wire_shape (layout : Layout) (maxPacketCount maxMessageSize : Number)
    (operations : List Operation) :
    let run := of (new layout maxPacketCount maxMessageSize) operations
    run.connection.requests.map (·.message) = sends run.inputs ∧
      called run.trace =
        (run.connection.requests.mapIdx fun k r =>
          (List.range (handedOver run.trace k r)).map (k, ·)).flatten ∧
      ∀ number call, (number, call) ∈ numberedCalls 0 run.trace →
        ∃ r f, run.connection.requests[call.request]? = some r ∧
          r.fragments[call.index]? = some f ∧
          (f.stamp (number % layout.counterSpace : Nat)).encode layout r.maxPacketSize =
            .ok call.packet := by
  intro run
  have sound : Sound layout maxPacketCount maxMessageSize run := sound_of operations
  obtain ⟨start, shape⟩ := sound.path.shape
  have layout_eq : run.connection.layout = layout := sound.path.layout_eq
  refine ⟨sound.path.messages_eq, shape.called_eq, fun number call mem => ?_⟩
  obtain ⟨r, f, get, next, _, _, packet⟩ := shape.of_mem mem
  have valid := sound.wellFormed.valid get
  rw [layout_eq] at packet valid
  refine ⟨r, f, get, next, ?_⟩
  have encoded := valid.encode_fragment next (Nat.mod_lt number layout.counterSpace_pos)
  rwa [valid.layout_eq, ← packet] at encoded

end Run

end PacketLink.Connection
