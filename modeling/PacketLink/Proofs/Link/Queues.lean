import Mathlib.Data.List.Nodup
import Mathlib.Tactic.Lemma

/-!
# The two queues of an endpoint

An endpoint holds some submissions and lets others await their turn. Each of the two queues is left
from the front, one when it is released and the other on turns of the loop. `Traffic` follows
submissions, numbered in the order of the calls, through the queues and on to the peer, and
`Traffic.Step` is what one operation can do to them. A submission can overtake an earlier one only
from the other queue (`Step.overtakes`); and one that is held is not in the way of those that await
their turn, unless a release has failed and left it behind (`Clear.step`).
-/

namespace PacketLink

/-- The numbered submissions that an endpoint has. -/
structure Queues where
  /-- Whether submissions are held. -/
  holding : Bool
  held : List Nat
  awaiting : List Nat

/-- Numbered submissions on their way through an endpoint. -/
structure Traffic extends Queues where
  /-- Those that have left for the peer, in order. -/
  delivered : List Nat
  /-- The number of the next submission. -/
  next : Nat

namespace Traffic

/-- What one operation does with the submissions. Whoever leaves a queue leaves it from the front,
but need not come to the peer. An endpoint that stops holding has released everything, unless it
has `failed` to. -/
inductive Step (failed : Prop) : Traffic → Traffic → Prop where
  | stay (t : Traffic) : Step failed t t
  | hold (t : Traffic) : Step failed t { t with holding := true }
  | refuse (t : Traffic) : Step failed t { t with next := t.next + 1 }
  | keep {t : Traffic} (holding : t.holding = true) :
    Step failed t { t with held := t.held ++ [t.next], next := t.next + 1 }
  | accept {t : Traffic} (holding : t.holding = false) :
    Step failed t { t with awaiting := t.awaiting ++ [t.next], next := t.next + 1 }
  | release {t : Traffic} {gone left sent : List Nat} {holding : Bool}
    (split : t.held = gone ++ left) (sublist : sent.Sublist gone)
    (stops : holding = t.holding ∨ left = [] ∨ failed) :
    Step failed t { t with holding, held := left, delivered := t.delivered ++ sent }
  | turn {t : Traffic} {gone left sent : List Nat} (split : t.awaiting = gone ++ left)
    (sublist : sent.Sublist gone) :
    Step failed t { t with awaiting := left, delivered := t.delivered ++ sent }

/-- Whether a submission is in a queue or has come to the peer. -/
def Has (t : Traffic) (k : Nat) : Prop := k ∈ t.held ∨ k ∈ t.awaiting ∨ k ∈ t.delivered

/-- How often a submission is in a queue or has come to the peer. -/
def count (t : Traffic) (k : Nat) : Nat :=
  t.held.count k + t.awaiting.count k + t.delivered.count k

/-- The queues are in the order of the calls, and each submission is in one place at most. -/
structure Orderly (t : Traffic) : Prop where
  held : t.held.Pairwise (· < ·)
  awaiting : t.awaiting.Pairwise (· < ·)
  once : ∀ k, t.count k ≤ 1
  unknown : ∀ k, t.next ≤ k → t.count k = 0

/-- Nobody is held while the endpoint holds nothing back, or while a later submission awaits its
turn, but those who are `behind`. -/
structure Clear (behind : Nat → Prop) (t : Traffic) : Prop where
  of_open : t.holding = false → ∀ x ∈ t.held, behind x
  of_lt : ∀ x ∈ t.held, ∀ y ∈ t.awaiting, x < y → behind x

variable {failed : Prop} {behind : Nat → Prop} {t t' : Traffic} {k x y : Nat}

/-- A submission that is counted is in one of the queues. -/
lemma count_pos : 0 < t.count k ↔ t.Has k := by
  simp only [count, Has, Nat.add_pos_iff_pos_or_pos, List.count_pos_iff, or_assoc]

namespace Orderly

/-- A submission that is in one of the queues was made. -/
lemma lt_next (orderly : t.Orderly) (has : t.Has k) : k < t.next := by
  by_contra far
  have none := orderly.unknown k (Nat.le_of_not_lt far)
  rw [← count_pos, none] at has
  cases has

/-- Nothing is delivered twice. -/
lemma nodup_delivered (orderly : t.Orderly) : t.delivered.Nodup := by
  refine List.nodup_iff_count_le_one.mpr fun k => ?_
  have once := orderly.once k
  rw [count] at once
  omega

/-- What waits was not delivered. -/
lemma notMem_delivered (orderly : t.Orderly) (waits : k ∈ t.held ∨ k ∈ t.awaiting) :
    k ∉ t.delivered := by
  intro left
  have once := orderly.once k
  rw [count] at once
  have gone := List.count_pos_iff.mpr left
  obtain here | here := waits
  · have held := List.count_pos_iff.mpr here
    omega
  · have awaiting := List.count_pos_iff.mpr here
    omega

/-- A submission gets a number of its own. -/
lemma count_snoc (orderly : t.Orderly) (k : Nat) :
    t.count k + [t.next].count k ≤ 1 ∧ (t.next + 1 ≤ k → t.count k + [t.next].count k = 0) := by
  have once := orderly.once k
  have unknown := orderly.unknown k
  simp only [List.count_singleton, beq_iff_eq]
  split <;> omega

/-- Those who have left a queue are there no more. -/
lemma of_count (orderly : t.Orderly) (held : t'.held.Sublist t.held)
    (awaiting : t'.awaiting.Sublist t.awaiting) (next : t'.next = t.next)
    (count : ∀ k, t'.count k ≤ t.count k) : t'.Orderly :=
  ⟨orderly.held.sublist held, orderly.awaiting.sublist awaiting,
    fun k => Nat.le_trans (count k) (orderly.once k),
    fun k far => Nat.le_zero.mp (orderly.unknown k (next ▸ far) ▸ count k)⟩

/-- Every step leaves each submission in at most one place. -/
lemma step (orderly : t.Orderly) (step : Step failed t t') : t'.Orderly := by
  have snoc {queue : List Nat} (sorted : queue.Pairwise (· < ·)) (has : ∀ k ∈ queue, t.Has k) :
      (queue ++ [t.next]).Pairwise (· < ·) := by
    refine List.pairwise_append.mpr ⟨sorted, List.pairwise_singleton .., fun k mem last eq => ?_⟩
    rw [List.mem_singleton.mp eq]
    exact orderly.lt_next (has k mem)
  cases step with
  | stay => exact orderly
  | hold => exact ⟨orderly.held, orderly.awaiting, orderly.once, orderly.unknown⟩
  | refuse =>
    exact ⟨orderly.held, orderly.awaiting, orderly.once,
      fun k far => orderly.unknown k (Nat.le_of_succ_le far)⟩
  | keep =>
    have counts (k : Nat) : count { t with held := t.held ++ [t.next], next := t.next + 1 } k =
        t.count k + [t.next].count k := by
      simp only [count, List.count_append]
      omega
    exact ⟨snoc orderly.held fun k => .inl, orderly.awaiting,
      fun k => counts k ▸ (orderly.count_snoc k).1, fun k => counts k ▸ (orderly.count_snoc k).2⟩
  | accept =>
    have counts (k : Nat) :
        count { t with awaiting := t.awaiting ++ [t.next], next := t.next + 1 } k =
          t.count k + [t.next].count k := by
      simp only [count, List.count_append]
      omega
    exact ⟨orderly.held, snoc orderly.awaiting fun k mem => .inr (.inl mem),
      fun k => counts k ▸ (orderly.count_snoc k).1, fun k => counts k ▸ (orderly.count_snoc k).2⟩
  | release split sublist =>
    refine orderly.of_count (split ▸ List.sublist_append_right ..) (.refl _) rfl fun k => ?_
    have sent := sublist.count_le k
    simp only [count, split, List.count_append]
    omega
  | turn split sublist =>
    refine orderly.of_count (.refl _) (split ▸ List.sublist_append_right ..) rfl fun k => ?_
    have sent := sublist.count_le k
    simp only [count, split, List.count_append]
    omega

end Orderly

namespace Step

/-- What has come to the peer stays in its order. -/
lemma exists_sent (step : Step failed t t') : ∃ sent, t'.delivered = t.delivered ++ sent := by
  cases step with
  | stay | hold | refuse | keep | accept => exact ⟨[], (List.append_nil _).symm⟩
  | release | turn => exact ⟨_, rfl⟩

/-- Nobody comes back. -/
lemma has (step : Step failed t t') (old : k < t.next) (has : t'.Has k) : t.Has k := by
  cases step with
  | stay | hold | refuse => exact has
  | keep =>
    obtain held | rest := has
    · obtain held | new := List.mem_append.mp held
      · exact .inl held
      · exact absurd (List.mem_singleton.mp new) (Nat.ne_of_lt old)
    · exact .inr rest
  | accept =>
    obtain held | awaiting | delivered := has
    · exact .inl held
    · obtain awaiting | new := List.mem_append.mp awaiting
      · exact .inr (.inl awaiting)
      · exact absurd (List.mem_singleton.mp new) (Nat.ne_of_lt old)
    · exact .inr (.inr delivered)
  | release split sublist =>
    obtain held | awaiting | delivered := has
    · exact .inl (split ▸ List.mem_append_right _ held)
    · exact .inr (.inl awaiting)
    · obtain delivered | sent := List.mem_append.mp delivered
      · exact .inr (.inr delivered)
      · exact .inl (split ▸ List.mem_append_left _ (sublist.subset sent))
  | turn split sublist =>
    obtain held | awaiting | delivered := has
    · exact .inl held
    · exact .inr (.inl (split ▸ List.mem_append_right _ awaiting))
    · obtain delivered | sent := List.mem_append.mp delivered
      · exact .inr (.inr delivered)
      · exact .inr (.inl (split ▸ List.mem_append_left _ (sublist.subset sent)))

end Step

/-! ## Overtaking -/

/-- Of two numbers in a list that increases the smaller comes first. -/
lemma idxOf_lt_of_pairwise {numbers : List Nat} (sorted : numbers.Pairwise (· < ·))
    (first : x ∈ numbers) (second : y ∈ numbers) (lt : x < y) :
    numbers.idxOf x < numbers.idxOf y := by
  have here := List.idxOf_lt_length_iff.mpr first
  have there := List.idxOf_lt_length_iff.mpr second
  by_contra behind
  obtain same | before := Nat.eq_or_lt_of_le (Nat.le_of_not_lt behind)
  · exact Nat.ne_of_lt lt ((List.idxOf_inj first).mp same.symm)
  · have less := List.pairwise_iff_getElem.mp sorted _ _ there here before
    rw [List.getElem_idxOf, List.getElem_idxOf] at less
    exact Nat.lt_asymm lt less

/-- What was there comes before what is added. -/
lemma idxOf_lt_of_append {old new : List Nat} (first : x ∈ old) (second : y ∉ old) :
    (old ++ new).idxOf x < (old ++ new).idxOf y := by
  rw [List.idxOf_append_of_mem first, List.idxOf_append_of_notMem second]
  exact Nat.lt_of_lt_of_le (List.idxOf_lt_length_iff.mpr first) (Nat.le_add_right ..)

/-- Those who leave one queue together leave it in order. -/
lemma idxOf_lt_of_sent {queue gone left delivered sent : List Nat}
    (sorted : queue.Pairwise (· < ·)) (split : queue = gone ++ left)
    (sublist : sent.Sublist gone) (lt : x < y) (first : x ∈ delivered ++ sent) (second : y ∈ sent)
    (new : y ∉ delivered) : (delivered ++ sent).idxOf x < (delivered ++ sent).idxOf y := by
  by_cases before : x ∈ delivered
  · exact idxOf_lt_of_append before new
  · have among := (List.mem_append.mp first).resolve_left before
    rw [split, List.pairwise_append] at sorted
    have behind := idxOf_lt_of_pairwise (sorted.1.sublist sublist) among second lt
    rw [List.idxOf_append_of_notMem before, List.idxOf_append_of_notMem new]
    omega

/-- Nobody leaves a queue while an earlier submission stays there. -/
lemma notMem_left {queue gone left : List Nat} (sorted : queue.Pairwise (· < ·))
    (split : queue = gone ++ left) (lt : x < y) (leaves : y ∈ gone) : x ∉ left := by
  intro stays
  rw [split, List.pairwise_append] at sorted
  exact Nat.lt_asymm lt (sorted.2.2 y leaves x stays)

/-- A submission that comes to the peer before an earlier one has left one queue while the earlier
one was in the other. -/
lemma Step.overtakes (step : Step failed t t') (orderly : t.Orderly) (lt : x < y)
    (left : y ∈ t'.delivered) (new : y ∉ t.delivered) (has : t'.Has x)
    (first : t'.delivered.idxOf y < t'.delivered.idxOf x) :
    (y ∈ t.held ∧ x ∈ t'.awaiting) ∨ (y ∈ t.awaiting ∧ x ∈ t.held) := by
  cases step with
  | stay | hold | refuse | keep | accept => exact absurd left new
  | release split sublist =>
    have sent := (List.mem_append.mp left).resolve_left new
    have gone := sublist.subset sent
    obtain held | awaiting | delivered := has
    · exact absurd held (notMem_left orderly.held split lt gone)
    · exact .inl ⟨split ▸ List.mem_append_left _ gone, awaiting⟩
    · have behind := idxOf_lt_of_sent orderly.held split sublist lt delivered sent new
      exact absurd first (Nat.lt_asymm behind)
  | turn split sublist =>
    have sent := (List.mem_append.mp left).resolve_left new
    have gone := sublist.subset sent
    obtain held | awaiting | delivered := has
    · exact .inr ⟨split ▸ List.mem_append_left _ gone, held⟩
    · exact absurd awaiting (notMem_left orderly.awaiting split lt gone)
    · have behind := idxOf_lt_of_sent orderly.awaiting split sublist lt delivered sent new
      exact absurd first (Nat.lt_asymm behind)

/-- Only a release that fails leaves a held submission behind. -/
lemma Clear.step (clear : t.Clear behind) (orderly : t.Orderly) (step : Step failed t t') :
    t'.Clear fun x => behind x ∨ failed ∧ x ∈ t'.held := by
  obtain ⟨of_open, of_lt⟩ := clear
  cases step with
  | stay | refuse =>
    exact ⟨fun opens x held => .inl (of_open opens x held),
      fun x held y awaits lt => .inl (of_lt x held y awaits lt)⟩
  | hold =>
    exact ⟨fun opens => (by cases opens), fun x held y awaits lt => .inl (of_lt x held y awaits lt)⟩
  | keep holding =>
    refine ⟨fun opens => absurd (holding.symm.trans opens) (by decide),
      fun x held y awaits lt => ?_⟩
    obtain held | last := List.mem_append.mp held
    · exact .inl (of_lt x held y awaits lt)
    · -- nobody awaits its turn behind the new one
      obtain rfl := List.mem_singleton.mp last
      exact absurd lt (Nat.lt_asymm (orderly.lt_next (.inr (.inl awaits))))
  | accept holding =>
    exact ⟨fun _ x held => .inl (of_open holding x held),
      fun x held _ _ _ => .inl (of_open holding x held)⟩
  | @release gone left sent holding split sublist stops =>
    have kept : left ⊆ t.held := split ▸ List.subset_append_right ..
    refine ⟨fun opens x stays => ?_, fun x stays y awaits lt =>
      .inl (of_lt x (kept stays) y awaits lt)⟩
    obtain same | none | failed := stops
    · exact .inl (of_open (same.symm.trans opens) x (kept stays))
    · exact absurd stays (none ▸ List.not_mem_nil)
    · exact .inr ⟨failed, stays⟩
  | turn split =>
    exact ⟨fun opens x held => .inl (of_open opens x held), fun x held y awaits lt =>
      .inl (of_lt x held y (split ▸ List.mem_append_right _ awaits) lt)⟩

end Traffic

end PacketLink
