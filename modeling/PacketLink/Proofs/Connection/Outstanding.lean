import Mathlib.Data.List.Perm.Subperm
import PacketLink.Proofs.Connection.Run

/-!
# Calls that wait for an answer

The transport may owe a connection an answer for the request in flight, and for every request that
was cancelled while it was in flight: cancelling does not take back what was handed over, and the
next request starts at once. `Run.Awaits.of_sound` says that there are no other such calls and that
each of these requests has at most one. So a connection can have more than one call waiting
(`Run.cancel_overlaps`), but only one more than it has abandoned requests. Main statement:
`Run.outstanding_calls`.
-/

namespace PacketLink.Connection.Run

variable {layout : Layout} {maxPacketCount maxMessageSize : Number} {run : Run} {k i : Nat}

/-- The calls that the transport has not answered, by request and index, in order. -/
def outstanding (run : Run) : List (Nat × Nat) :=
  (called run.trace).filter fun call => run.Awaits call.1 call.2

/-- Whether the request in place `k` was cancelled after it had been started. -/
def Abandoned (run : Run) (k : Nat) : Prop :=
  wasStarted run.trace k = true ∧ run.connection.requests[k]?.any (·.phase = .cancelled) = true

/-- Whether a request was abandoned can be decided. -/
instance (run : Run) (k : Nat) : Decidable (run.Abandoned k) := inferInstanceAs (Decidable (_ ∧ _))

/-- The places of the requests that were cancelled after they had been started. -/
def abandoned (run : Run) : List Nat :=
  (List.range run.connection.requests.length).filter run.Abandoned

/-- The calls that are outstanding are those that wait for an answer. -/
lemma mem_outstanding : (k, i) ∈ run.outstanding ↔ run.Awaits k i := by
  simp only [outstanding, List.mem_filter, decide_eq_true_eq]
  exact ⟨And.right, fun awaits => ⟨awaits.1, awaits⟩⟩

/-- A request that was abandoned is listed. -/
lemma Abandoned.mem (gone : run.Abandoned k) : k ∈ run.abandoned := by
  obtain ⟨r, get, _⟩ := (Option.any_eq_true ..).mp gone.2
  refine List.mem_filter.mpr ⟨List.mem_range.mpr ?_, decide_eq_true gone⟩
  exact (List.getElem?_eq_some_iff.mp get).1

/-- A call that waits is for the packet behind those that count, and its request is in flight or
was abandoned. -/
lemma Awaits.of_sound (sound : Sound layout maxPacketCount maxMessageSize run)
    (awaits : run.Awaits k i) :
    ∃ r, run.connection.requests[k]? = some r ∧ i = r.sentCount ∧
      (run.connection.active = some k ∨ run.Abandoned k) := by
  obtain ⟨start, shape⟩ := sound.path.shape
  have answered := sound.path.answered
  obtain ⟨r, get, below⟩ := shape.of_mem_called awaits.1
  -- all packets below the count were answered
  have above : r.sentCount ≤ i := Nat.le_of_not_lt fun lt =>
    awaits.2 (List.mem_filterMap.mpr ⟨_, answered.accepted get lt, rfl⟩)
  refine ⟨r, get, ?_⟩
  cases status : r.status with
  | pending =>
    rw [handedOver_of_pending status] at below
    cases below
  | inFlight =>
    rw [handedOver_of_inFlight status] at below
    have active := sound.wellFormed.active_of_inFlight get status
    exact ⟨Nat.le_antisymm (Nat.le_of_lt_succ below) above, .inl active⟩
  | settled result =>
    have phase := r.phase_eq status
    rw [handedOver, phase] at below
    cases result with
    | completed packetCount =>
      -- all its packets were answered
      have below : i < r.fragments.length := below
      have all := answered.completed get phase
      omega
    | failed cause sentCount =>
      -- the packet behind the count was rejected
      obtain ⟨fault, heard⟩ := answered.failed get phase
      obtain rfl : i = r.sentCount := Nat.le_antisymm (Nat.le_of_lt_succ below) above
      have rejected : (k, r.sentCount) ∈ answers run.inputs :=
        List.mem_filterMap.mpr ⟨_, heard, rfl⟩
      exact absurd rejected awaits.2
    | cancelled sentCount =>
      simp only [WriteStatus.phase] at below
      split at below
      · rename_i begun
        have gone : run.Abandoned k := ⟨begun, by simp [get, phase, WriteStatus.phase]⟩
        exact ⟨Nat.le_antisymm (Nat.le_of_lt_succ below) above, .inr gone⟩
      · cases below

/-- No request has two calls that wait. -/
lemma Awaits.unique (sound : Sound layout maxPacketCount maxMessageSize run) {i' : Nat}
    (awaits : run.Awaits k i) (awaits' : run.Awaits k i') : i = i' := by
  obtain ⟨r, get, same, _⟩ := awaits.of_sound sound
  obtain ⟨r', get', same', _⟩ := awaits'.of_sound sound
  obtain rfl := Option.some.inj (get.symm.trans get')
  exact same.trans same'.symm

/-- The calls that wait are for different requests. -/
lemma Sound.nodup_outstanding (sound : Sound layout maxPacketCount maxMessageSize run) :
    (run.outstanding.map Prod.fst).Nodup := by
  obtain ⟨start, shape⟩ := sound.path.shape
  refine List.Nodup.map_on ?_ (shape.nodup_called.filter _)
  rintro ⟨k, i⟩ mem ⟨k', i'⟩ mem' same
  obtain rfl : k = k' := same
  rw [(mem_outstanding.mp mem).unique sound (mem_outstanding.mp mem')]

/-- Every call that waits for its answer belongs to the request in flight or to one that was
abandoned, and is the only one of its request. There is at most one more of them than there are
abandoned requests. -/
theorem outstanding_calls (layout : Layout) (maxPacketCount maxMessageSize : Number)
    (operations : List Operation) :
    let run := of (new layout maxPacketCount maxMessageSize) operations
    (∀ k i, run.Awaits k i → ∃ r, run.connection.requests[k]? = some r ∧ i = r.sentCount ∧
        (run.connection.active = some k ∨ run.Abandoned k)) ∧
      (run.outstanding.map Prod.fst).Nodup ∧
      run.outstanding.length ≤ run.abandoned.length + 1 := by
  intro run
  have sound : Sound layout maxPacketCount maxMessageSize run := sound_of operations
  refine ⟨fun k i awaits => awaits.of_sound sound, sound.nodup_outstanding, ?_⟩
  have covered : run.outstanding.map Prod.fst ⊆ run.connection.active.toList ++ run.abandoned := by
    intro k listed
    obtain ⟨⟨k', i⟩, mem, rfl⟩ := List.mem_map.mp listed
    obtain ⟨_, _, _, active | gone⟩ := (mem_outstanding.mp mem).of_sound sound
    · exact List.mem_append_left _ (Option.mem_toList.mpr active)
    · exact List.mem_append_right _ gone.mem
  have slot : run.connection.active.toList.length ≤ 1 := by
    cases run.connection.active with
    | none => exact Nat.zero_le 1
    | some k => exact Nat.le_refl 1
  calc run.outstanding.length
      = (run.outstanding.map Prod.fst).length := (List.length_map ..).symm
    _ ≤ (run.connection.active.toList ++ run.abandoned).length :=
      (List.subperm_of_subset sound.nodup_outstanding covered).length_le
    _ ≤ run.abandoned.length + 1 := by
      rw [List.length_append]
      omega

/-- Two messages, the first of which is cancelled while its packet is at the transport. -/
def overtaking : List Operation :=
  [.send 1 3 ⟨.data, [1]⟩ none, .send 2 3 ⟨.data, [2]⟩ none, .cancel 0]

/-- Two calls can wait at once: cancelling the request in flight starts the next one while the
packet of the first is still at the transport. -/
theorem cancel_overlaps :
    let run := of (new .default 4096 1048576) overtaking
    run.outstanding = [(0, 0), (1, 0)] ∧ run.Awaits 0 0 ∧ run.Awaits 1 0 := by
  decide +kernel

end PacketLink.Connection.Run
