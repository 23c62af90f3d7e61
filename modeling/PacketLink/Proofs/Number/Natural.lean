import Mathlib.Data.Rat.Floor
import PacketLink.Number.Basic

/-!
# Natural numbers among numbers

Sizes, limits and counters are numbers, but those that a stream of packets works with are natural:
`eq_ofInt` reads an integer off a number, `below_of_le` says that a limit which refuses a size
refuses every larger one, and `next_eq` that the counter expected after a packet is the next natural
number, wrapped around.
-/

namespace PacketLink.Number

/-- A number that is an integer is that integer. -/
lemma eq_ofInt {x : Number} {z : Int} (h : x.toInt? = some z) : x = .ofInt z := by
  cases x with
  | finite q =>
    simp only [toInt?] at h
    split at h
    · rename_i whole
      cases h
      rw [ofInt, Rat.coe_int_num_of_den_eq_one whole]
    · cases h
  | _ => cases h

/-- The natural number that is read off a number is that number. -/
lemma toNat?_eq_some_iff {x : Number} {n : Nat} : x.toNat? = some n ↔ x = .ofNat n := by
  refine ⟨fun read => ?_, fun same => same ▸ toNat?_ofNat n⟩
  unfold toNat? at read
  split at read
  · rename_i whole
    cases read
    rw [eq_ofInt whole, ofInt, ofNat, Int.ofNat_eq_natCast, Int.cast_natCast]
  · cases read

/-- A number is as large as a natural number or larger. -/
def AtLeast : Number → Nat → Prop
  | .finite q, n => (n : Rat) ≤ q
  | .posInf, _ => True
  | _, _ => False

/-- A number that is one passes what is not above it. -/
lemma not_below_iff {limit : Number} (isNumber : limit ≠ .nan) (n : Nat) :
    limit.below (n : Nat) = false ↔ limit.AtLeast n := by
  cases limit with
  | nan => exact absurd rfl isNumber
  | _ => simp [below, ofNat, AtLeast]

/-- What a limit allows is not above it. -/
lemma AtLeast.not_below {limit : Number} {n : Nat} (fits : limit.AtLeast n) :
    limit.below (n : Nat) = false := by
  refine (not_below_iff ?_ n).mpr fits
  rintro rfl
  exact fits

/-- Each natural number is a number of its own. -/
lemma ofNat_injective : Function.Injective ofNat := fun m n same => by
  simpa [ofNat] using same

/-- Nothing but a natural number itself is the same as it. -/
lemma same_ofNat_iff {n : Nat} {x : Number} : (ofNat n).same x = true ↔ x = .ofNat n := by
  cases x <;> simp [ofNat, same, eq_comm]

/-- Integers compare as they do. -/
@[simp] lemma below_ofInt_ofNat (z : Int) (n : Nat) :
    (ofInt z).below (ofNat n) = decide (z < n) := by
  simp only [ofInt, ofNat, below, ← Rat.intCast_natCast, Rat.intCast_lt_intCast]

/-- A natural number is the same one as an integer. -/
@[simp] lemma ofInt_natCast (n : Nat) : ofInt n = ofNat n := by
  rw [ofInt, ofNat, Int.cast_natCast]

/-- The smaller of two natural numbers is the smaller number. -/
@[simp] lemma min_ofNat (m n : Nat) : (ofNat m).min (ofNat n) = ofNat (min m n) := by
  have smaller : (ofNat m).min (ofNat n) =
      if (ofNat n).below (ofNat m) then ofNat n else ofNat m := rfl
  simp only [smaller, below_ofNat, decide_eq_true_eq]
  split_ifs with less
  · rw [Nat.min_eq_right less.le]
  · rw [Nat.min_eq_left (Nat.le_of_not_lt less)]

/-- The greater of two natural numbers is the greater number. -/
@[simp] lemma max_ofNat (m n : Nat) : (ofNat m).max (ofNat n) = ofNat (max m n) := by
  have larger : (ofNat m).max (ofNat n) =
      if (ofNat m).below (ofNat n) then ofNat n else ofNat m := rfl
  simp only [larger, below_ofNat, decide_eq_true_eq]
  split_ifs with more
  · rw [Nat.max_eq_right more.le]
  · rw [Nat.max_eq_left (Nat.le_of_not_lt more)]

/-- A limit that refuses a size refuses every larger one. -/
lemma below_of_le {limit : Number} {m n : Nat} (le : m ≤ n)
    (refused : limit.below (m : Nat) = true) : limit.below (n : Nat) = true := by
  cases limit with
  | finite q =>
    simp only [below, ofNat, decide_eq_true_eq] at refused ⊢
    exact lt_of_lt_of_le refused (by exact_mod_cast le)
  | _ => simp_all [below, ofNat]

/-- A limit that lets a size pass lets every smaller one pass. -/
lemma not_below_of_le {limit : Number} {m n : Nat} (le : m ≤ n)
    (passed : limit.below (n : Nat) = false) : limit.below (m : Nat) = false := by
  cases refused : limit.below (m : Nat) with
  | false => rfl
  | true => rw [below_of_le le refused] at passed; cases passed

/-- The remainder of a natural number is that of its division. -/
lemma rem_ofNat {d : Nat} (pos : 0 < d) (n : Nat) : (ofNat n).rem d = ofNat (n % d) := by
  -- the quotient is not negative, so cutting its fraction off is rounding it down
  have quotient : truncated ((n : Rat) / (d : Rat)) = (n / d : Nat) := by
    have nonneg : 0 ≤ ((n : Rat) / (d : Rat)).num := by
      rw [Rat.num_nonneg]
      positivity
    rw [truncated, Int.tdiv_eq_ediv_of_nonneg nonneg, ← Rat.floor_def']
    exact Rat.floor_natCast_div_natCast n d
  have split : (n : Rat) = d * (n / d : Nat) + (n % d : Nat) := by
    exact_mod_cast (Nat.div_add_mod n d).symm
  rw [ofNat, rem, if_neg (Nat.pos_iff_ne_zero.mp pos), quotient, Int.cast_natCast]
  congr 1
  linarith

/-- The counter after `n`, wrapped around at `d`. -/
lemma next_eq {d n : Nat} (range : n < d) (exact : d < Binary64.exactLimit) :
    ((ofNat n).add 1).rem d = ofNat ((n + 1) % d) := by
  have small : n + 1 ≤ Binary64.exactLimit := by omega
  have sum : (ofNat n).add 1 = ofNat (n + 1) := add_ofNat small
  rw [sum, rem_ofNat (by omega)]

end PacketLink.Number
