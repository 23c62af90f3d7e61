import Mathlib.Tactic.Lemma
import PacketLink.Link.Endpoint

/-!
# What endpoints keep

`submit_cases` says where a submission goes: it is refused, or it is behind the held ones, or behind
those that await delivery. Nothing else that an endpoint does with one packet touches the others.
-/

namespace PacketLink.Endpoint

variable {α : Type} (e : Endpoint α) (submission : Submission α) (data : Bytes)

/-- What becomes of a submission, and of those that are still with the endpoint. -/
lemma submit_cases :
    (∃ e' fault, e.submit submission = (e', .refused fault) ∧
      e'.awaiting = e.awaiting ∧ e'.held = e.held) ∨
    (e.holding = true ∧ ∃ e', e.submit submission = (e', .held) ∧
      e'.awaiting = e.awaiting ∧ e'.held = e.held ++ [submission]) ∨
    (e.holding = false ∧ ∃ e', e.submit submission = (e', .accepted) ∧
      e'.awaiting = e.awaiting ++ [submission] ∧ e'.held = e.held) := by
  unfold submit
  by_cases large : e.maxPacketSize.below submission.data.length = true
  · exact .inl ⟨_, _, if_pos large, rfl, rfl⟩
  · simp only [large]
    cases e.failures with
    | cons message failures => exact .inl ⟨_, _, rfl, rfl, rfl⟩
    | nil =>
      cases holding : e.holding with
      | true => exact .inr (.inl ⟨rfl, _, rfl, rfl, rfl⟩)
      | false => exact .inr (.inr ⟨rfl, _, rfl, rfl, rfl⟩)

/-- Without a planned failure a packet that fits is held or awaits delivery. -/
lemma submit_of_fits (fits : e.maxPacketSize.below submission.data.length = false)
    (planned : e.failures = []) :
    ∃ e', (e.submit submission = (e', .held) ∧
          e'.awaiting = e.awaiting ∧ e'.held = e.held ++ [submission] ∨
        e.submit submission = (e', .accepted) ∧
          e'.awaiting = e.awaiting ++ [submission] ∧ e'.held = e.held) ∧
      e'.maxPacketSize = e.maxPacketSize ∧ e'.failures = [] ∧ e'.drop = e.drop := by
  let taken := { e with submitted := e.submitted.push submission.data }
  have submitted : e.submit submission =
      if e.holding then ({ taken with held := e.held ++ [submission] }, .held)
      else ({ taken with awaiting := e.awaiting ++ [submission] }, .accepted) := by
    simp [submit, fits, planned, taken]
  rw [submitted]
  split
  · exact ⟨_, .inl ⟨rfl, rfl, rfl⟩, rfl, planned, rfl⟩
  · exact ⟨_, .inr ⟨rfl, rfl, rfl⟩, rfl, planned, rfl⟩

/-- An endpoint that does not hold refuses a submission or lets it await delivery. -/
lemma submit_of_not_holding (notHolding : e.holding = false) :
    (e.submit submission).1.held = e.held ∧
      ((e.submit submission).1.awaiting = e.awaiting ∨
        (e.submit submission).1.awaiting = e.awaiting ++ [submission]) := by
  obtain ⟨e', _, submitted, awaiting, held⟩ | ⟨holding, _⟩ | ⟨_, e', submitted, awaiting, held⟩ :=
    e.submit_cases submission
  · rw [submitted]
    exact ⟨held, .inl awaiting⟩
  · rw [notHolding] at holding
    cases holding
  · rw [submitted]
    exact ⟨held, .inr awaiting⟩

/-- A submission concerns the log, the plan of failures and the two queues. -/
lemma exists_submit : ∃ submitted failures held awaiting,
    (e.submit submission).1 = { e with submitted, failures, held, awaiting } := by
  unfold submit
  dsimp only
  split
  · exact ⟨_, _, _, _, rfl⟩
  · split
    · exact ⟨_, _, _, _, rfl⟩
    · split
      · exact ⟨_, _, _, _, rfl⟩
      · exact ⟨_, _, _, _, rfl⟩

/-- A submission leaves the limit alone. -/
@[simp] lemma maxPacketSize_submit :
    (e.submit submission).1.maxPacketSize = e.maxPacketSize := by
  obtain ⟨_, _, _, _, submitted⟩ := e.exists_submit submission
  rw [submitted]

/-- A submission leaves the drop rule alone. -/
@[simp] lemma drop_submit : (e.submit submission).1.drop = e.drop := by
  obtain ⟨_, _, _, _, submitted⟩ := e.exists_submit submission
  rw [submitted]

/-- A submission does not begin or end the holding. -/
@[simp] lemma holding_submit : (e.submit submission).1.holding = e.holding := by
  obtain ⟨_, _, _, _, submitted⟩ := e.exists_submit submission
  rw [submitted]

/-- Asking about one packet concerns the drop rule alone. -/
lemma exists_askDrop : ∃ drop, (e.askDrop data).2 = { e with drop } := by
  unfold askDrop
  split
  · exact ⟨_, rfl⟩
  · exact ⟨_, rfl⟩

/-- Asking about one packet leaves the limit alone. -/
@[simp] lemma maxPacketSize_askDrop : (e.askDrop data).2.maxPacketSize = e.maxPacketSize := by
  obtain ⟨_, asked⟩ := e.exists_askDrop data
  rw [asked]

/-- Asking about one packet does not change what awaits delivery. -/
@[simp] lemma awaiting_askDrop : (e.askDrop data).2.awaiting = e.awaiting := by
  obtain ⟨_, asked⟩ := e.exists_askDrop data
  rw [asked]

/-- Asking about one packet does not change what is held. -/
@[simp] lemma held_askDrop : (e.askDrop data).2.held = e.held := by
  obtain ⟨_, asked⟩ := e.exists_askDrop data
  rw [asked]

/-- Asking about one packet does not begin or end the holding. -/
@[simp] lemma holding_askDrop : (e.askDrop data).2.holding = e.holding := by
  obtain ⟨_, asked⟩ := e.exists_askDrop data
  rw [asked]

/-- The answer of the drop rule depends on nothing else of the endpoint. -/
lemma askDrop_congr {e e' : Endpoint α} (same : e.drop = e'.drop) :
    (e.askDrop data).1 = (e'.askDrop data).1 := by
  unfold askDrop
  rw [same]
  split <;> rfl

/-- Without a drop rule nothing is discarded. -/
lemma askDrop_of_none {e : Endpoint α} (keeps : e.drop = none) : e.askDrop data = (false, e) := by
  simp only [askDrop, keeps]

end PacketLink.Endpoint
