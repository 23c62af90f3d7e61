import Mathlib.Data.List.Nodup
import Mathlib.Tactic.Lemma
import PacketLink.Link.Roster

/-!
# What rosters keep

The numbers of a roster's entries increase and nobody is a member twice: `Lawful` says so, and
adding and removing members keep it. `memberFrom_of_split` says which member a visit comes to next.
-/

namespace PacketLink.Roster

variable {α : Type} {roster : Roster α}

/-- The entries are numbered in their order, and no member is there twice. -/
structure Lawful (roster : Roster α) : Prop where
  sorted : roster.entries.Pairwise (·.1 < ·.1)
  lt_next : ∀ entry ∈ roster.entries, entry.1 < roster.next
  nodup : roster.members.Nodup

/-- Nobody is a member of the empty roster. -/
lemma lawful_empty : (empty : Roster α).Lawful := ⟨.nil, List.forall_mem_nil _, .nil⟩

/-- A visit that has come behind some entries goes on with the next one. -/
lemma memberFrom_of_split {before rest : List (Nat × α)} {number : Nat}
    (split : roster.entries = before ++ rest) (passed : ∀ entry ∈ before, entry.1 < number)
    (ahead : ∀ entry ∈ rest, number ≤ entry.1) : roster.memberFrom number = rest.head? := by
  have none : before.find? (number ≤ ·.1) = none :=
    List.find?_eq_none.mpr fun entry mem => by simpa using passed entry mem
  rw [memberFrom, split, List.find?_append, none, Option.none_or]
  cases rest with
  | nil => rfl
  | cons entry rest =>
    exact List.find?_cons_of_pos (by simpa using ahead entry (List.mem_cons_self ..))

section Change

variable [DecidableEq α] {a b : α}

/-- A member was one before or is the one that is added. -/
lemma mem_add : b ∈ (roster.add a).members ↔ b ∈ roster.members ∨ b = a := by
  unfold add
  split
  · rename_i here
    refine ⟨.inl, fun mem => mem.elim id fun same => ?_⟩
    rw [same]
    exact List.contains_iff_mem.mp here
  · simp [members]

/-- Adding keeps a roster in order. -/
lemma Lawful.add (lawful : roster.Lawful) (a : α) : (roster.add a).Lawful := by
  unfold Roster.add
  split
  · exact lawful
  · rename_i new
    refine ⟨?_, ?_, ?_⟩
    · refine List.pairwise_append.mpr ⟨lawful.sorted, List.pairwise_singleton .., ?_⟩
      intro entry mem added here
      rw [List.mem_singleton.mp here]
      exact lawful.lt_next entry mem
    · refine List.forall_mem_append.mpr ⟨fun entry mem => ?_, List.forall_mem_singleton.mpr ?_⟩
      · exact Nat.lt_succ_of_lt (lawful.lt_next entry mem)
      · exact Nat.lt_succ_self _
    · have apart : a ∉ roster.members := fun mem => new (List.contains_iff_mem.mpr mem)
      rw [members, List.map_append]
      exact lawful.nodup.append (List.nodup_singleton _) (by simpa using apart)

/-- Nobody but the one that is removed leaves. -/
lemma members_remove (roster : Roster α) (a : α) :
    (roster.remove a).members = roster.members.filter (· ≠ a) := by
  rw [members, remove, members, List.filter_map]
  rfl

/-- Removing keeps a roster in order. -/
lemma Lawful.remove (lawful : roster.Lawful) (a : α) : (roster.remove a).Lawful := by
  refine ⟨lawful.sorted.filter _, fun entry mem => ?_, ?_⟩
  · exact lawful.lt_next entry (List.mem_filter.mp mem).1
  · rw [members_remove]
    exact lawful.nodup.filter _

end Change

end PacketLink.Roster
