import PacketLink.Proofs.Connection.Run

/-!
# Turns that leave the counter alone

Only a reset starts the counter over: no other operation of a connection asks for what a reset
records. So without a reset the calls of a connection are numbered from its construction on, and the
numbers start over with each reset (`Run.resets_recorded`, `Run.numberedCalls_reset`).
-/

namespace PacketLink.Connection

/-- A turn in which the counter does not start over. -/
structure Turn.Calm (turn : Turn) : Prop where
  isReset_eq : ∀ effect ∈ turn.effects, effect.isReset = false

namespace Turn.Calm

variable {c : Connection} {k : Nat}

/-- Asking for other effects leaves the counter alone. -/
lemma ask {effects : List Effect} (calm : ∀ effect ∈ effects, effect.isReset = false)
    (c : Connection) : (ask effects c).Calm := ⟨calm⟩

/-- Doing nothing leaves the counter alone. -/
lemma stay (c : Connection) : (stay c).Calm := ⟨fun _ mem => by cases mem⟩

/-- Two turns leave the counter alone if each of them does. -/
lemma andThen {turn : Turn} {next : Connection → Turn} (calm : turn.Calm)
    (then_calm : ∀ c, (next c).Calm) : (turn.andThen next).Calm := by
  unfold Turn.andThen
  split
  · exact calm
  · refine ⟨fun effect mem => ?_⟩
    obtain first | later := List.mem_append.mp mem
    · exact calm.isReset_eq effect first
    · exact (then_calm _).isReset_eq effect later

/-- Nothing that a request asks for starts the counters over. -/
lemma relay (k : Nat) (effect : WriteRequest.Effect) :
    ∀ asked ∈ Connection.relay k effect, asked.isReset = false := by
  cases effect <;> simp [Connection.relay, Effect.isReset]

/-- What a request does leaves the counters of its connection alone. -/
lemma update (c : Connection) (k : Nat) (turn : WriteRequest.Turn) : (update c k turn).Calm := by
  refine ⟨fun effect mem => ?_⟩
  obtain ⟨asked, _, mem⟩ := List.mem_flatMap.mp mem
  exact relay k asked effect mem

/-- Starting the requests of a queue draws counters but never starts them over. -/
lemma startFrom (queue : List Nat) (c : Connection) : (startFrom queue c).Calm := by
  induction queue generalizing c with
  | nil => exact stay _
  | cons k queue ih =>
    unfold Connection.startFrom
    split
    · exact stay _
    · split
      · exact ih c
      · split
        · exact ih c
        · split
          · dsimp only
            split
            · exact (update ..).andThen ih
            · exact (update ..).andThen fun _ => stay _
          · exact ⟨fun _ mem => by cases mem⟩

/-- A turn of one request leaves the counter alone, and so does what its settlement starts. -/
lemma advance (c : Connection) (k : Nat) (turn : WriteRequest.Turn) : (advance c k turn).Calm := by
  unfold Connection.advance
  dsimp only
  split
  · exact (update ..).andThen fun _ => startFrom ..
  · exact update ..

/-- Cancelling a request does not start the counters over. -/
lemma cancel (c : Connection) (k : Nat) : (c.cancel k).1.Calm := by
  unfold Connection.cancel
  split
  · exact advance ..
  · exact stay _

/-- An outcome of a submission does not start the counters over. -/
lemma conclude (c : Connection) (k index : Nat) (outcome : Outcome) :
    (c.conclude k index outcome).Calm := by
  unfold Connection.conclude
  split
  · dsimp only
    split
    · exact update ..
    · exact advance ..
  · exact stay _

/-- Cancelling one request after the other does not start the counters over. -/
lemma cancelEach (ks : List Nat) (c : Connection) : (cancelEach ks c).Calm := by
  have each (turn : Turn) (calm : turn.Calm) :
      (ks.foldl (fun turn k => turn.andThen fun c => (c.cancel k).1) turn).Calm := by
    induction ks generalizing turn with
    | nil => exact calm
    | cons k ks ih => exact ih _ (calm.andThen fun c => cancel c k)
  exact each _ (stay c)

/-- Cancelling every request does not start the counters over, so a reset does that itself. -/
lemma cancelAll (c : Connection) : c.cancelAll.Calm :=
    (cancelEach ..).andThen fun _ => cancelEach ..

/-- Queueing a request does not start the counters over. -/
lemma enqueue (c : Connection) (request : WriteRequest) (aborted : Bool) :
    (c.enqueue request aborted).Calm := by
  unfold Connection.enqueue
  refine andThen ?_ fun _ => startFrom ..
  split
  · exact (stay _).andThen fun c => cancel c _
  · exact stay _

/-- Sending a message does not start the counters over. -/
lemma send {id : Nat} {maxPacketSize : Number} {message : Message} {signal : Option String}
    {aborted : Bool} {turn : Turn}
    (sent : c.send id maxPacketSize message signal aborted = .ok turn) : turn.Calm := by
  unfold Connection.send at sent
  split at sent
  · cases sent
  · split at sent
    · cases sent
      exact enqueue ..
    · cases sent

/-- Beginning to listen does not start the counters over. -/
lemma start {turn : Turn} (started : c.start = .ok turn) : turn.Calm := by
  unfold Connection.start at started
  split at started
  · cases started
  · split at started
    · cases started
      exact stay _
    · cases started
      exact ask (by simp [Effect.isReset]) _

/-- Closing a connection does not start the counters over. -/
lemma close (c : Connection) : c.close.Calm := by
  unfold Connection.close
  split
  · exact stay _
  · refine andThen (ask ?_ _) fun c => (cancelAll c).andThen fun c => ask ?_ _
    · split <;> simp [Effect.isReset]
    · simp [Effect.isReset]

/-- Packets from the transport leave the counters alone. -/
lemma receive (c : Connection) (bytes : Bytes) : (c.receive bytes).1.Calm := by
  refine ⟨fun effect mem => ?_⟩
  have quiet := quiet_receive c bytes effect mem
  cases effect with
  | log entry => cases entry <;> first | rfl | cases quiet
  | _ => rfl

end Turn.Calm

/-! ## Runs -/

/-- The records of resets in a trace. -/
def resets (trace : List Effect) : List Effect := trace.filter (·.isReset)

/-- Records are found in each part of a trace. -/
@[simp] lemma resets_append (trace later : List Effect) :
    resets (trace ++ later) = resets trace ++ resets later := List.filter_append ..

/-- A trace has no record of a reset exactly if none of its effects is one. -/
lemma resets_eq_nil {trace : List Effect} :
    resets trace = [] ↔ ∀ effect ∈ trace, effect.isReset = false := by
  simp [resets, List.filter_eq_nil_iff]

/-- Without a reset the calls are numbered one by one. -/
lemma numberedCalls_of_resets_eq_nil {trace : List Effect} (calm : resets trace = []) (n : Nat) :
    numberedCalls n trace = (calls trace).mapIdx fun i call => (n + i, call) := by
  induction trace generalizing n with
  | nil => rfl
  | cons effect trace ih =>
    obtain ⟨first, rest⟩ := List.forall_mem_cons.mp (resets_eq_nil.mp calm)
    rw [numberedCalls, ih (resets_eq_nil.mpr rest)]
    cases effect with
    | submit request index packet =>
      have next : calls (.submit request index packet :: trace) =
          ⟨request, index, packet⟩ :: calls trace := rfl
      rw [next, List.mapIdx_cons]
      simp [Effect.call?, Effect.count, Nat.add_assoc, Nat.add_comm 1]
    | log entry => cases entry <;> first | rfl | cases first
    | _ => rfl

/-- What a reset records is the last that it asks for. -/
lemma reset_effects {c : Connection} (wf : c.WellFormed) :
    c.reset.effects = c.cancelAll.effects ++ [.log .reset] := by
  obtain ⟨done, _⟩ := cancelAll_path wf
  rw [Connection.reset, andThen_eq done]
  rfl

/-- The record that an operation leaves of counters that start over. -/
def Operation.resetRecord : Operation → List Effect
  | reset => [.log .reset]
  | _ => []

namespace Run

variable {layout : Layout} {maxPacketCount maxMessageSize : Number} {run : Run}

/-- A reset leaves one record of itself, and no other operation leaves any. -/
lemma Sound.resets_apply (sound : Sound layout maxPacketCount maxMessageSize run)
    (operation : Operation) :
    resets (run.apply operation).trace = resets run.trace ++ operation.resetRecord := by
  have still : resets run.trace = resets run.trace ++ [] := (List.append_nil _).symm
  have calm {turn : Turn} (calm : turn.Calm) :
      resets (run.trace ++ turn.effects) = resets run.trace ++ [] := by
    rw [resets_append, resets_eq_nil.mpr calm.isReset_eq]
  cases operation with
  | send id maxPacketSize message signal =>
    simp only [Run.apply]
    split
    · exact calm (.send ‹_›)
    · exact still
  | sendControlMessage id maxPacketSize message signal =>
    simp only [Run.apply]
    split
    · obtain ⟨carrier, _, sent⟩ := sendControlMessage_eq ‹_›
      exact calm (.send sent)
    · exact still
  | cancel k => exact calm (.cancel ..)
  | abort signal => exact calm (.cancelEach ..)
  | start =>
    simp only [Run.apply]
    split
    · exact calm (.start ‹_›)
    · exact still
  | close => exact calm (.close _)
  | reset =>
    have before := resets_eq_nil.mpr (Turn.Calm.cancelAll run.connection).isReset_eq
    simp only [Run.apply, absorb, reset_effects sound.wellFormed, resets_append, before]
    rfl
  | receive bytes => exact calm (.receive ..)
  | conclude k index outcome =>
    simp only [Run.apply]
    split
    · exact calm (.conclude ..)
    · exact still

/-- More operations leave one more record for each reset among them. -/
lemma Sound.resets_foldl (sound : Sound layout maxPacketCount maxMessageSize run)
    (operations : List Operation) :
    resets (operations.foldl Run.apply run).trace =
      resets run.trace ++ operations.flatMap (·.resetRecord) := by
  induction operations generalizing run with
  | nil => exact (List.append_nil _).symm
  | cons operation operations ih =>
    rw [List.foldl_cons, ih (sound.apply operation), sound.resets_apply, List.flatMap_cons,
      List.append_assoc]

/-- There is one record of a reset for each reset. -/
theorem resets_recorded (layout : Layout) (maxPacketCount maxMessageSize : Number)
    (operations : List Operation) :
    resets (of (new layout maxPacketCount maxMessageSize) operations).trace =
      operations.flatMap (·.resetRecord) :=
  Sound.resets_foldl (sound_of []) operations

/-- The calls after the last reset are numbered one by one from zero on. -/
theorem numberedCalls_reset (layout : Layout) (maxPacketCount maxMessageSize : Number)
    (before after : List Operation) (last : ∀ operation ∈ after, operation.resetRecord = []) :
    let past := of (new layout maxPacketCount maxMessageSize) before
    let run := of (new layout maxPacketCount maxMessageSize) (before ++ .reset :: after)
    ∃ later : List Call, calls run.trace = calls past.trace ++ later ∧
      numberedCalls 0 run.trace =
        numberedCalls 0 past.trace ++ later.mapIdx fun i call => (i, call) := by
  intro past run
  have sound : Sound layout maxPacketCount maxMessageSize past := sound_of before
  have renewed := sound.apply .reset
  have run_eq : run = after.foldl apply (past.apply .reset) := of_append ..
  have trace_eq : (past.apply .reset).trace =
      past.trace ++ (past.connection.cancelAll.effects ++ [.log .reset]) :=
    congrArg (past.trace ++ ·) (reset_effects sound.wellFormed)
  obtain ⟨inputs, effects, _, extends_⟩ := renewed.onward after
  -- nothing starts over behind the reset
  have calm : resets effects = [] := by
    have same := renewed.resets_foldl after
    rw [extends_, resets_append, List.append_cancel_left_eq] at same
    rw [same, List.flatMap_eq_nil_iff]
    exact last
  have quiet := cancelAll_quiet past.connection
  have silent : calls past.connection.cancelAll.effects = [] :=
    List.map_eq_nil_iff.mp quiet.called_eq
  have record : calls [.log .reset] = [] := rfl
  refine ⟨calls effects, ?_, ?_⟩
  · simp only [run_eq, extends_, trace_eq, calls_append, silent, record, List.append_nil]
  · simp [run_eq, extends_, trace_eq, quiet.numberedCalls_eq, numberedCalls_of_resets_eq_nil calm,
      numberedCalls, Effect.call?, callsSinceReset, Effect.count]

end Run

end PacketLink.Connection
