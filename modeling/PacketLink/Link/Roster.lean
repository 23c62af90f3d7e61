/-!
# Rosters

The callbacks registered somewhere, in the order of registration. A roster may change while its
members are visited: one that is removed before its turn is skipped, one that is added is visited
at the end, also when it had been visited and removed before. So that a visit can go on after a
change, every registration gets a number of its own and the visit remembers the last one.
-/

namespace PacketLink

/-- The members of a list of callbacks, in the order of registration. -/
structure Roster (α : Type) where
  /-- The members with their registration numbers, which increase. -/
  entries : List (Nat × α)
  /-- The number of the next registration. -/
  next : Nat

namespace Roster

variable {α : Type} [DecidableEq α]

def empty : Roster α := ⟨[], 0⟩

/-- The members in the order of registration. -/
def members (roster : Roster α) : List α := roster.entries.map (·.2)

def contains (roster : Roster α) (a : α) : Bool := roster.members.contains a

/-- Register `a`, which changes nothing when it is a member already. -/
def add (roster : Roster α) (a : α) : Roster α :=
  if roster.contains a then roster
  else ⟨roster.entries ++ [(roster.next, a)], roster.next + 1⟩

def remove (roster : Roster α) (a : α) : Roster α :=
  { roster with entries := roster.entries.filter (·.2 ≠ a) }

/-- The first member whose registration number is at least `number`. -/
def memberFrom (roster : Roster α) (number : Nat) : Option (Nat × α) :=
  roster.entries.find? (number ≤ ·.1)

end Roster

end PacketLink
