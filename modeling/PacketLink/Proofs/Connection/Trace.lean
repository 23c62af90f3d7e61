import PacketLink.Proofs.Connection.Move

/-!
# What a connection asked for

A trace is everything that a connection asked for, in order. `numberedCalls` are the calls of the
transport in it, numbered from the last reset on, `wasStarted` says which requests were started, and
`handedOver` is the number of packets that a request should have handed to the transport by then.
-/

namespace PacketLink.Connection

/-- A packet handed to the transport, and the request that it is a part of. -/
structure Call where
  request : Nat
  index : Nat
  packet : Bytes
  deriving DecidableEq

namespace Effect

/-- The call of the transport that an effect is. -/
def call? : Effect → Option Call
  | .submit request index packet => some ⟨request, index, packet⟩
  | _ => none

/-- The number of calls since the last reset, when there had been `n` before the effect. -/
def count (n : Nat) : Effect → Nat
  | .submit .. => n + 1
  | .log .reset => 0
  | _ => n

/-- Whether an effect is the start of the request in place `k`. -/
def starts (k : Nat) : Effect → Bool
  | .writeLog j (.started _) => j = k
  | _ => false

/-- Whether an effect starts the counters over. -/
def isReset : Effect → Bool
  | .log .reset => true
  | _ => false

/-- Whether an effect neither hands a packet to the transport nor starts a request or the counters
over. -/
def isQuiet : Effect → Bool
  | .submit .. => false
  | .log .reset => false
  | .writeLog _ (.started _) => false
  | _ => true

end Effect

/-- The calls of the transport, in order. -/
def calls (trace : List Effect) : List Call := trace.filterMap Effect.call?

/-- The packets handed to the transport, by request and index, in order. -/
def called (trace : List Effect) : List (Nat × Nat) :=
  (calls trace).map fun call => (call.request, call.index)

/-- The number of calls since the last reset, when there had been `n` before the trace. -/
def callsSinceReset (n : Nat) (trace : List Effect) : Nat := trace.foldl Effect.count n

/-- The calls of the transport with their numbers since the last reset, when there had been `n`
before the trace. -/
def numberedCalls : Nat → List Effect → List (Nat × Call)
  | _, [] => []
  | n, effect :: trace => effect.call?.toList.map (n, ·) ++ numberedCalls (effect.count n) trace

/-- Whether the request in place `k` was started. -/
def wasStarted (trace : List Effect) (k : Nat) : Bool := trace.any (Effect.starts k)

/-- The number of packets that the request in place `k` has handed to the transport. -/
def handedOver (trace : List Effect) (k : Nat) (r : WriteRequest) : Nat :=
  match r.phase with
  | .pending => 0
  | .inFlight => r.sentCount + 1
  | .completed => r.fragments.length
  | .failed => r.sentCount + 1
  | .cancelled => if wasStarted trace k then r.sentCount + 1 else 0

/-- A request that waits has handed nothing over. -/
lemma handedOver_of_pending {r : WriteRequest} (pending : r.status = .pending)
    (trace : List Effect) (k : Nat) : handedOver trace k r = 0 := by
  rw [handedOver, r.phase_eq pending]
  rfl

/-- A request in flight has handed over the packet behind those that count. -/
lemma handedOver_of_inFlight {r : WriteRequest} (flying : r.status = .inFlight)
    (trace : List Effect) (k : Nat) : handedOver trace k r = r.sentCount + 1 := by
  rw [handedOver, r.phase_eq flying]
  rfl

section Append

variable (n : Nat) (trace later : List Effect)

/-- The calls in a trace are those in its parts. -/
@[simp] lemma calls_append : calls (trace ++ later) = calls trace ++ calls later :=
  List.filterMap_append

/-- The packets handed over in a trace are those in its parts. -/
@[simp] lemma called_append : called (trace ++ later) = called trace ++ called later := by
  simp [called]

/-- Counting goes on from one part of a trace to the next. -/
@[simp] lemma callsSinceReset_append :
    callsSinceReset n (trace ++ later) = callsSinceReset (callsSinceReset n trace) later :=
  List.foldl_append

/-- Numbering goes on from one part of a trace to the next. -/
@[simp] lemma numberedCalls_append :
    numberedCalls n (trace ++ later) =
      numberedCalls n trace ++ numberedCalls (callsSinceReset n trace) later := by
  induction trace generalizing n with
  | nil => rfl
  | cons effect trace ih => simp [numberedCalls, callsSinceReset, ih]

/-- A request was started in one of the parts of a trace. -/
@[simp] lemma wasStarted_append (k : Nat) :
    wasStarted (trace ++ later) k = (wasStarted trace k || wasStarted later k) :=
  List.any_append

/-- Numbering the calls leaves none out. -/
@[simp] lemma map_snd_numberedCalls : (numberedCalls n trace).map (·.2) = calls trace := by
  induction trace generalizing n with
  | nil => rfl
  | cons effect trace ih =>
    rw [numberedCalls, List.map_append, ih, calls, calls, List.filterMap_cons]
    cases effect.call? <;> rfl

/-- Without a reset the numbers of the calls increase. -/
lemma numberedCalls_sorted {trace : List Effect}
    (calm : ∀ effect ∈ trace, effect.isReset = false) (n : Nat) :
    (numberedCalls n trace).Pairwise (·.1 < ·.1) ∧ ∀ p ∈ numberedCalls n trace, n ≤ p.1 := by
  induction trace generalizing n with
  | nil => exact ⟨.nil, fun p mem => by cases mem⟩
  | cons effect trace ih =>
    obtain ⟨first, rest⟩ := List.forall_mem_cons.mp calm
    obtain ⟨sorted, above⟩ := ih rest (effect.count n)
    rw [numberedCalls]
    cases call : effect.call? with
    | none =>
      have same : effect.count n = n := by
        cases effect with
        | submit => cases call
        | log entry => cases entry <;> first | rfl | cases first
        | _ => rfl
      rw [same] at sorted above ⊢
      exact ⟨sorted, above⟩
    | some call' =>
      have next : effect.count n = n + 1 := by
        cases effect with
        | submit => rfl
        | _ => cases call
      rw [next] at sorted above ⊢
      refine ⟨List.pairwise_cons.mpr ⟨fun p mem => above p mem, sorted⟩, fun p mem => ?_⟩
      obtain rfl | mem := List.mem_cons.mp mem
      · exact Nat.le_refl n
      · exact Nat.le_of_succ_le (above p mem)

end Append

/-- A trace that hands no packet to the transport and starts nothing. -/
def Quiet (trace : List Effect) : Prop := ∀ effect ∈ trace, effect.isQuiet = true

namespace Quiet

variable {trace : List Effect}

/-- A quiet effect is no call, counts for nothing and starts nothing. -/
lemma effect {effect : Effect} (quiet : effect.isQuiet = true) (n k : Nat) :
    effect.call? = none ∧ effect.count n = n ∧ effect.starts k = false := by
  cases effect with
  | submit => cases quiet
  | log entry =>
    cases entry with
    | reset => cases quiet
    | _ => exact ⟨rfl, rfl, rfl⟩
  | writeLog j entry =>
    cases entry with
    | started => cases quiet
    | _ => exact ⟨rfl, rfl, rfl⟩
  | _ => exact ⟨rfl, rfl, rfl⟩

/-- A quiet trace counts for nothing. -/
lemma callsSinceReset_eq (quiet : Quiet trace) (n : Nat) : callsSinceReset n trace = n := by
  induction trace with
  | nil => rfl
  | cons effect trace ih =>
    obtain ⟨first, rest⟩ := List.forall_mem_cons.mp quiet
    rw [callsSinceReset, List.foldl_cons, (Quiet.effect first n 0).2.1]
    exact ih rest

/-- A quiet trace hands nothing over. -/
lemma called_eq (quiet : Quiet trace) : called trace = [] := by
  have none : calls trace = [] :=
    List.filterMap_eq_nil_iff.mpr fun effect mem => (Quiet.effect (quiet effect mem) 0 0).1
  rw [called, none, List.map_nil]

/-- A quiet trace has no call to be numbered. -/
lemma numberedCalls_eq (quiet : Quiet trace) (n : Nat) : numberedCalls n trace = [] := by
  induction trace generalizing n with
  | nil => rfl
  | cons effect trace ih =>
    obtain ⟨first, rest⟩ := List.forall_mem_cons.mp quiet
    rw [numberedCalls, (Quiet.effect first n 0).1, ih rest]
    rfl

/-- A quiet trace starts nothing. -/
lemma wasStarted_eq (quiet : Quiet trace) (k : Nat) : wasStarted trace k = false := by
  rw [wasStarted, List.any_eq_false]
  intro effect mem
  simp [(Quiet.effect (quiet effect mem) 0 k).2.2]

end Quiet

/-- A settlement is quiet. -/
lemma quiet_settlement (k : Nat) (r : WriteRequest) (result : WriteResult) :
    Quiet (settlement k r result) := by
  simp [Quiet, settlement, WriteRequest.settle, relay, Effect.isQuiet]

/-- What a packet from the transport leads to is quiet. -/
lemma quiet_receive (c : Connection) (bytes : Bytes) : Quiet (c.receive bytes).1.effects := by
  unfold receive
  split
  · rename_i packet _
    cases (c.inbound packet.kind).receive packet with
    | mk r outcome =>
      cases outcome with
      | pending => simp [Quiet, ask, announce, Effect.isQuiet]
      | complete data => simp [Quiet, ask, announce, Effect.isQuiet]
      | error error data =>
        cases data <;> simp [Quiet, ask, announce, report, Effect.isQuiet]
  · simp [Quiet, ask, report, Effect.isQuiet]

end PacketLink.Connection
