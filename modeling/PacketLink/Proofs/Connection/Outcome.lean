import PacketLink.Proofs.Connection.Wire

/-!
# Outcomes that a connection has heard

`Answered` says that the count of a request stands for outcomes that were heard: every packet below
it was accepted, a completed request had all its packets accepted, and a failed one had a packet
rejected. So the request in flight waits for the one packet that was handed over and not answered
(`Path.due`).
-/

namespace PacketLink.Connection

/-- The submission whose outcome an input is. -/
def Input.answer? : Input → Option (Nat × Nat)
  | .outcome request index _ => some (request, index)
  | _ => none

/-- The packets whose outcomes were heard, by request and index, in order. -/
def answers (inputs : List Input) : List (Nat × Nat) := inputs.filterMap Input.answer?

/-- The outcomes among what the environment told that back the progress of every request. -/
structure Answered (c : Connection) (inputs : List Input) : Prop where
  accepted : ∀ {k i : Nat} {r : WriteRequest}, c.requests[k]? = some r → i < r.sentCount →
    .outcome k i .accepted ∈ inputs
  completed : ∀ {k : Nat} {r : WriteRequest}, c.requests[k]? = some r → r.phase = .completed →
    r.sentCount = r.fragments.length
  failed : ∀ {k : Nat} {r : WriteRequest}, c.requests[k]? = some r → r.phase = .failed →
    ∃ fault, .outcome k r.sentCount (.rejected fault) ∈ inputs

namespace Answered

variable {c c' : Connection} {inputs input : List Input} {k : Nat} {r s : WriteRequest}

/-- Answers keep agreeing with the same requests. -/
lemma of_requests (answered : Answered c inputs) (requests : c'.requests = c.requests) :
    Answered c' (inputs ++ input) := by
  refine ⟨fun get lt => ?_, fun get h => ?_, fun get h => ?_⟩ <;> rw [requests] at get
  · exact List.mem_append_left _ (answered.accepted get lt)
  · exact answered.completed get h
  · obtain ⟨fault, mem⟩ := answered.failed get h
    exact ⟨fault, List.mem_append_left _ mem⟩

/-- A new request has made no progress. -/
lemma append (answered : Answered c inputs) (requests : c'.requests = c.requests ++ [r])
    (unsent : r.sentCount = 0) (notCompleted : r.phase ≠ .completed)
    (notFailed : r.phase ≠ .failed) :
    Answered c' (inputs ++ input) := by
  refine ⟨fun get lt => ?_, fun get h => ?_, fun get h => ?_⟩ <;> rw [requests] at get <;>
    obtain get | ⟨_, rfl⟩ := getElem?_concat_cases get
  · exact List.mem_append_left _ (answered.accepted get lt)
  · omega
  · exact answered.completed get h
  · exact absurd h notCompleted
  · obtain ⟨fault, mem⟩ := answered.failed get h
    exact ⟨fault, List.mem_append_left _ mem⟩
  · exact absurd h notFailed

/-- One request makes progress, or none. -/
lemma set (answered : Answered c inputs) (get : c.requests[k]? = some r)
    (requests : c'.requests = (c.setRequest k s).requests)
    (accepted : ∀ {i : Nat}, i < s.sentCount →
      i < r.sentCount ∨ .outcome k i .accepted ∈ input)
    (completed : s.phase = .completed → s.sentCount = s.fragments.length)
    (failed : s.phase = .failed → ∃ fault, .outcome k s.sentCount (.rejected fault) ∈ input) :
    Answered c' (inputs ++ input) := by
  have lookup := getElem?_setRequest get s
  refine ⟨fun get' lt => ?_, fun get' h => ?_, fun get' h => ?_⟩ <;>
    rw [requests, lookup] at get' <;> split at get'
  · rename_i same
    cases get'
    obtain before | heard := accepted lt
    · exact List.mem_append_left _ (same ▸ answered.accepted get before)
    · exact List.mem_append_right _ (same ▸ heard)
  · exact List.mem_append_left _ (answered.accepted get' lt)
  · cases get'
    exact completed h
  · exact answered.completed get' h
  · rename_i same
    cases get'
    obtain ⟨fault, mem⟩ := failed h
    exact ⟨fault, List.mem_append_right _ (same ▸ mem)⟩
  · obtain ⟨fault, mem⟩ := answered.failed get' h
    exact ⟨fault, List.mem_append_left _ mem⟩

end Answered

variable {c c' : Connection} {inputs input : List Input} {effects trace : List Effect}

/-- Every move keeps the answers in agreement with the requests. -/
lemma Move.answered (move : Move c input effects c') (answered : Answered c inputs) :
    Answered c' (inputs ++ input) := by
  cases move with
  | join _ valid pending =>
    refine answered.append rfl (valid.pending_sentCount pending) ?_ ?_ <;>
      rw [WriteRequest.phase_eq pending]
    · exact Phase.noConfusion
    · exact Phase.noConfusion
  | refuse _ valid pending =>
    exact answered.append rfl (valid.pending_sentCount pending) Phase.noConfusion
      Phase.noConfusion
  | launch _ _ get pending _ =>
    exact answered.set get rfl .inl (fun h => by cases h) fun h => by cases h
  | @follow k r f get flying _ =>
    have going : r.phase = .inFlight := r.phase_eq flying
    refine answered.set get rfl (fun {i} lt => ?_) (fun h => by cases going.symm.trans h)
      fun h => by cases going.symm.trans h
    obtain lt | rfl := Nat.lt_or_eq_of_le (Nat.le_of_lt_succ lt)
    · exact .inl lt
    · exact .inr (List.mem_singleton_self _)
  | @complete k r get _ last =>
    refine answered.set get (requests_vacate _ _) (fun {i} lt => ?_) (fun _ => last)
      fun h => by cases h
    obtain lt | rfl := Nat.lt_or_eq_of_le (Nat.le_of_lt_succ lt)
    · exact .inl lt
    · exact .inr (List.mem_singleton_self _)
  | fail _ get _ =>
    exact answered.set get (requests_vacate _ _) .inl (fun h => by cases h)
      fun _ => ⟨_, List.mem_singleton_self _⟩
  | cancel get _ =>
    exact answered.set get (requests_vacate _ _) .inl (fun h => by cases h) fun h => by cases h
  | take bytes => exact answered.of_requests (by rw [connection_receive])
  | _ => exact answered.of_requests rfl

/-- In every run the answers agree with the requests. -/
lemma Path.answered {layout : Layout} {maxPacketCount maxMessageSize : Number}
    (path : Path (new layout maxPacketCount maxMessageSize) inputs trace c) :
    Answered c inputs := by
  induction path with
  | rest =>
    refine ⟨fun get => ?_, fun get => ?_, fun get => ?_⟩
    all_goals cases get
  | step _ move ih => exact move.answered ih

/-- A packet that was handed over and not answered belongs to a request, and when that is in flight,
it is the packet that the request waits for. -/
lemma Path.due {layout : Layout} {maxPacketCount maxMessageSize : Number}
    (path : Path (new layout maxPacketCount maxMessageSize) inputs trace c) {k index : Nat}
    (handed : (k, index) ∈ called trace) (unheard : (k, index) ∉ answers inputs) :
    ∃ r, c.requests[k]? = some r ∧ (r.status = .inFlight → index = r.sentCount) := by
  obtain ⟨start, shape⟩ := path.shape
  obtain ⟨r, get, lt⟩ := shape.of_mem_called handed
  refine ⟨r, get, fun flying => ?_⟩
  rw [handedOver_of_inFlight flying] at lt
  -- all packets below the count were answered
  have above : ¬index < r.sentCount := fun lt =>
    unheard (List.mem_filterMap.mpr ⟨_, path.answered.accepted get lt, rfl⟩)
  exact Nat.le_antisymm (Nat.le_of_lt_succ lt) (Nat.le_of_not_lt above)

end PacketLink.Connection
