import PacketLink.Packet.Layout

/-!
# Sequence counters

A counter hands out the natural numbers below the number of counter values in turn and starts over
at zero. It is drawn from in transmission order.
-/

namespace PacketLink

/-- The value that is drawn next, below the number of values. -/
structure Counter where
  space : Nat
  value : Nat
  value_lt : value < space
  deriving DecidableEq

namespace Counter

/-- The counter of a layout, at zero. -/
def start (layout : Layout) : Counter := ⟨layout.counterSpace, 0, layout.counterSpace_pos⟩

/-- A counter has at least one value. -/
theorem space_pos (counter : Counter) : 0 < counter.space :=
  Nat.zero_lt_of_lt counter.value_lt

/-- The counter after `n` draws. -/
def advance (counter : Counter) (n : Nat) : Counter :=
  { counter with
    value := (counter.value + n) % counter.space
    value_lt := Nat.mod_lt _ counter.space_pos }

/-- Draw one value. -/
def next (counter : Counter) : Nat × Counter := (counter.value, counter.advance 1)

/-- Start over at zero. -/
def reset (counter : Counter) : Counter :=
  { counter with value := 0, value_lt := counter.space_pos }

/-- Drawing values does not change how many there are. -/
@[simp] theorem space_advance (counter : Counter) (n : Nat) :
    (counter.advance n).space = counter.space := rfl

/-- The values come one after the other, around the end of their range. -/
@[simp] theorem value_advance (counter : Counter) (n : Nat) :
    (counter.advance n).value = (counter.value + n) % counter.space := rfl

/-- Drawing nothing changes nothing. -/
@[simp] theorem advance_zero (counter : Counter) : counter.advance 0 = counter := by
  cases counter with
  | mk space value value_lt => simp [advance, Nat.mod_eq_of_lt value_lt]

/-- Values that are drawn in two parts are drawn one after the other. -/
@[simp] theorem advance_advance (counter : Counter) (m n : Nat) :
    (counter.advance m).advance n = counter.advance (m + n) := by
  simp [advance, Nat.add_assoc]

end Counter

end PacketLink
