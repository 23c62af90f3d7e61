import Mathlib.Algebra.Order.Field.Power
import Mathlib.Data.Rat.Floor
import Mathlib.Tactic.Linarith
import PacketLink.Number.Basic

/-!
# Rounded quotients

A quotient of two numbers is rounded before the next integer at or above it is taken.
`ceil_nearest?` says that the rounding changes nothing as long as the numerator stays below
`exactLimit` and the denominator does not pass it: the quotient is further away from every integer
below it than the rounding can reach.
-/

namespace PacketLink

namespace Binary64

/-! ## Rounding to a natural number -/

section HalfEven

variable {n d k : Nat}

/-- Rounding does not go below a whole number. -/
lemma le_halfEven (pos : 0 < d) (le : k * d ≤ n) : k ≤ halfEven n d := by
  have floor : k ≤ n / d := (Nat.le_div_iff_mul_le pos).mpr le
  unfold halfEven
  dsimp only
  split_ifs <;> omega

/-- Rounding does not go above a whole number. -/
lemma halfEven_le (pos : 0 < d) (le : n ≤ k * d) : halfEven n d ≤ k := by
  have floor : n / d ≤ k := Nat.div_le_of_le_mul (by rwa [Nat.mul_comm])
  by_cases exact : n % d = 0
  · simp [halfEven, exact, pos, floor]
  · -- with a remainder the quotient lies below `k`
    have above : n / d < k := by
      have split := Nat.div_add_mod n d
      by_contra reached
      have := Nat.mul_le_mul_left d (Nat.le_of_not_lt reached)
      have := Nat.mul_comm d k
      omega
    unfold halfEven
    dsimp only
    split_ifs <;> omega

/-- A quotient beyond the middle is rounded up. -/
lemma lt_halfEven (pos : 0 < d) (lt : (2 * k + 1) * d < 2 * n) : k < halfEven n d := by
  have split := Nat.div_add_mod n d
  have remainder := Nat.mod_lt n pos
  have floor : k ≤ n / d := (Nat.le_div_iff_mul_le pos).mpr (by linarith)
  obtain above | same := Nat.lt_or_eq_of_le floor
  · unfold halfEven
    dsimp only
    split_ifs <;> omega
  · have half : d < 2 * (n % d) := by
      rw [← same] at split
      linarith
    simp [halfEven, ← same, half, Nat.not_lt_of_gt half]

end HalfEven

/-! ## The grid around a quotient -/

section Grid

variable {n d k : Nat}

/-- Two to the exponent is reached when the comparison of the integers says so. -/
lemma reached_iff (e : Int) :
    (if 0 ≤ e then d * Nat.pow 2 e.toNat ≤ n else d ≤ n * Nat.pow 2 (-e).toNat) ↔
      (d : ℚ) * 2 ^ e ≤ n := by
  by_cases nonneg : 0 ≤ e
  · obtain ⟨m, rfl⟩ := Int.eq_ofNat_of_zero_le nonneg
    rw [if_pos nonneg, zpow_natCast]
    exact_mod_cast Iff.rfl
  · obtain ⟨m, rfl⟩ : ∃ m : Nat, e = -(m : Int) := ⟨(-e).toNat, by omega⟩
    have pos : (0 : ℚ) < 2 ^ m := by positivity
    rw [if_neg nonneg, zpow_neg, zpow_natCast, ← div_eq_mul_inv, div_le_iff₀ pos, neg_neg]
    exact_mod_cast Iff.rfl

/-- The exponent is that of the first binary digit. -/
lemma binaryExponent_spec (numerator : 0 < n) (denominator : 0 < d) :
    (d : ℚ) * 2 ^ binaryExponent n d ≤ n ∧ (n : ℚ) < d * 2 ^ (binaryExponent n d + 1) := by
  have two : (2 : ℚ) ≠ 0 := two_ne_zero
  have n_le : (2 : ℚ) ^ (n.log2 : Int) ≤ n := by
    exact_mod_cast Nat.log2_self_le (Nat.pos_iff_ne_zero.mp numerator)
  have n_lt : (n : ℚ) < 2 ^ ((n.log2 : Int) + 1) := by exact_mod_cast Nat.lt_log2_self
  have d_le : (2 : ℚ) ^ (d.log2 : Int) ≤ d := by
    exact_mod_cast Nat.log2_self_le (Nat.pos_iff_ne_zero.mp denominator)
  have d_lt : (d : ℚ) < 2 ^ ((d.log2 : Int) + 1) := by exact_mod_cast Nat.lt_log2_self
  let e : Int := n.log2 - d.log2
  by_cases reached : (d : ℚ) * 2 ^ e ≤ n
  · have exponent : binaryExponent n d = e := if_pos ((reached_iff e).mpr reached)
    rw [exponent]
    refine ⟨reached, n_lt.trans_le ?_⟩
    calc (2 : ℚ) ^ ((n.log2 : Int) + 1)
      _ = 2 ^ (d.log2 : Int) * 2 ^ (e + 1) := by rw [← zpow_add₀ two]; congr 1; omega
      _ ≤ d * 2 ^ (e + 1) := by gcongr
  · have exponent : binaryExponent n d = e - 1 := if_neg (mt (reached_iff e).mp reached)
    rw [exponent, Int.sub_add_cancel]
    refine ⟨le_trans ?_ n_le, lt_of_not_ge reached⟩
    calc (d : ℚ) * 2 ^ (e - 1)
      _ ≤ 2 ^ ((d.log2 : Int) + 1) * 2 ^ (e - 1) := by gcongr
      _ = 2 ^ (n.log2 : Int) := by rw [← zpow_add₀ two]; congr 1; omega

/-- A quotient below a power of two has a smaller exponent. -/
lemma binaryExponent_lt (numerator : 0 < n) (denominator : 0 < d) {bound : Int}
    (lt : (n : ℚ) < d * 2 ^ bound) : binaryExponent n d < bound := by
  have pos : (0 : ℚ) < d := by exact_mod_cast denominator
  have below := (binaryExponent_spec numerator denominator).1.trans_lt lt
  exact (zpow_lt_zpow_iff_right₀ one_lt_two).mp (lt_of_mul_lt_mul_left below pos.le)

/-- On a grid of binary fractions the nearest value is a rounded multiple of a fraction. -/
lemma nearestQuotient_eq (fine : unitExponent n d ≤ 0) :
    let places := (-unitExponent n d).toNat
    nearestQuotient n d = (halfEven (n * 2 ^ places) d : ℚ) / 2 ^ places := by
  unfold nearestQuotient scaled
  dsimp only
  by_cases whole : 0 ≤ unitExponent n d
  · have zero : unitExponent n d = 0 := by omega
    simp [zero]
  · rw [if_neg whole, if_neg whole, Rat.mkRat_eq_div, Nat.pow_eq]
    push_cast
    rfl

/-- On a grid of integers it is a rounded multiple of a power of two. -/
lemma nearestQuotient_of_coarse (coarse : 0 ≤ unitExponent n d) :
    let places := (unitExponent n d).toNat
    nearestQuotient n d = (halfEven n (d * 2 ^ places) * 2 ^ places : Nat) := by
  unfold nearestQuotient scaled
  dsimp only
  rw [if_pos coarse, if_pos coarse]
  rfl

section Separated

variable (denominator : 0 < d) (n_lt : n < exactLimit) (d_le : d ≤ exactLimit)
include denominator n_lt

/-- The exponent of a natural quotient is within the precision. -/
lemma binaryExponent_lt_precision (numerator : 0 < n) :
    binaryExponent n d < (precision : Int) := by
  refine binaryExponent_lt numerator denominator ?_
  have n_lt : (n : ℚ) < 2 ^ precision := by exact_mod_cast n_lt
  have one : (1 : ℚ) ≤ d := by exact_mod_cast denominator
  calc (n : ℚ)
    _ < 2 ^ precision := n_lt
    _ ≤ d * 2 ^ precision := le_mul_of_one_le_left (by positivity) one
    _ = d * 2 ^ (precision : Int) := by rw [zpow_natCast]

/-- The grid is at least as fine as the whole numbers. -/
lemma unitExponent_le (numerator : 0 < n) : unitExponent n d ≤ 0 := by
  have := binaryExponent_lt_precision denominator n_lt numerator
  unfold unitExponent leastUnit
  omega

include d_le

/-- The grid is fine enough to separate the quotient from the integers. -/
lemma lt_two_pow_places (numerator : 0 < n) : d < 2 ^ ((-unitExponent n d).toNat + 1) := by
  have small := binaryExponent_lt_precision denominator n_lt numerator
  by_cases least : leastUnit ≤ binaryExponent n d - (precision - 1)
  · have places : (((-unitExponent n d).toNat + 1 : Nat) : Int) =
        precision - binaryExponent n d := by
      unfold unitExponent
      omega
    have digit := (binaryExponent_spec numerator denominator).1
    have n_lt : (n : ℚ) < 2 ^ (precision : Int) := by exact_mod_cast n_lt
    have pos : (0 : ℚ) < 2 ^ binaryExponent n d := by positivity
    have d_lt : (d : ℚ) < 2 ^ (((-unitExponent n d).toNat + 1 : Nat) : Int) := by
      rw [places, zpow_sub₀ two_ne_zero, lt_div_iff₀ pos]
      exact digit.trans_lt n_lt
    exact_mod_cast d_lt
  · -- the grid ends at its smallest value, far below what the denominators reach
    have places : precision < (-unitExponent n d).toNat + 1 := by
      unfold unitExponent leastUnit precision at *
      omega
    exact d_le.trans_lt (Nat.pow_lt_pow_right Nat.one_lt_two places)

/-- A quotient between two integers stays above the lower one. -/
lemma nearestQuotient_bounds (above : k * d < n) (below : n ≤ (k + 1) * d) :
    (k : ℚ) < nearestQuotient n d ∧ nearestQuotient n d ≤ k + 1 := by
  have numerator : 0 < n := Nat.zero_lt_of_lt above
  have fine := lt_two_pow_places denominator n_lt d_le numerator
  rw [nearestQuotient_eq (unitExponent_le denominator n_lt numerator)]
  generalize (-unitExponent n d).toNat = places at fine
  have pos : (0 : ℚ) < 2 ^ places := by positivity
  have lower : k * 2 ^ places < halfEven (n * 2 ^ places) d := by
    refine lt_halfEven denominator ?_
    have gap : (k * d + 1) * 2 ^ (places + 1) ≤ n * 2 ^ (places + 1) :=
      Nat.mul_le_mul_right _ above
    rw [Nat.pow_succ] at gap fine
    linarith
  have upper : halfEven (n * 2 ^ places) d ≤ (k + 1) * 2 ^ places := by
    refine halfEven_le denominator ?_
    have := Nat.mul_le_mul_right (2 ^ places) below
    linarith
  rw [lt_div_iff₀ pos, div_le_iff₀ pos]
  exact_mod_cast And.intro lower upper

end Separated

/-- A quotient of at most one does not pass it. -/
lemma nearestQuotient_le_one (numerator : 0 < n) (le : n ≤ d) : nearestQuotient n d ≤ 1 := by
  have denominator : 0 < d := Nat.lt_of_lt_of_le numerator le
  have small : binaryExponent n d < 1 := by
    refine binaryExponent_lt numerator denominator ?_
    have : n < d * 2 := by omega
    exact_mod_cast this
  have fine : unitExponent n d ≤ 0 := by
    unfold unitExponent leastUnit precision
    omega
  rw [nearestQuotient_eq fine]
  generalize (-unitExponent n d).toNat = places
  have upper : halfEven (n * 2 ^ places) d ≤ 2 ^ places := by
    refine halfEven_le denominator ?_
    rw [Nat.mul_comm]
    exact Nat.mul_le_mul_left _ le
  rw [div_le_one (by positivity)]
  exact_mod_cast upper

/-- The values beyond the integers that are all on the grid are as large as these. -/
lemma exactLimit_le_nearestQuotient (large : exactLimit ≤ n) :
    (exactLimit : ℚ) ≤ nearestQuotient n 1 := by
  have numerator : 0 < n := Nat.lt_of_lt_of_le (by decide) large
  obtain ⟨digit, next⟩ := binaryExponent_spec numerator Nat.one_pos
  have reached : (precision : Int) ≤ binaryExponent n 1 := by
    have large : (2 : ℚ) ^ (precision : Int) ≤ n := by exact_mod_cast large
    have := (zpow_lt_zpow_iff_right₀ one_lt_two).mp
      (large.trans_lt (next.trans_eq (by rw [Nat.cast_one, one_mul])))
    omega
  obtain ⟨m, exponent⟩ : ∃ m : Nat, binaryExponent n 1 = (precision + m : Nat) :=
    ⟨(binaryExponent n 1 - precision).toNat, by omega⟩
  have unit : unitExponent n 1 = (m + 1 : Nat) := by
    unfold unitExponent leastUnit
    omega
  have multiple : 2 ^ (precision - 1) ≤ halfEven n (1 * 2 ^ (m + 1)) := by
    refine le_halfEven (by positivity) ?_
    rw [exponent, Nat.cast_one, one_mul, zpow_natCast] at digit
    have digit : 2 ^ (precision + m) ≤ n := by exact_mod_cast digit
    have same : 2 ^ (precision - 1) * (1 * 2 ^ (m + 1)) = 2 ^ (precision + m) := by
      rw [one_mul, ← Nat.pow_add, show precision - 1 + (m + 1) = precision + m by
        unfold precision; omega]
    rwa [same]
  rw [nearestQuotient_of_coarse (by omega), unit, Int.toNat_natCast]
  have reached : exactLimit ≤ halfEven n (1 * 2 ^ (m + 1)) * 2 ^ (m + 1) :=
    calc exactLimit
      _ = 2 ^ (precision - 1) * 2 ^ 1 := rfl
      _ ≤ halfEven n (1 * 2 ^ (m + 1)) * 2 ^ (m + 1) :=
        Nat.mul_le_mul multiple (Nat.pow_le_pow_right Nat.two_pos (by omega))
  exact_mod_cast reached

end Grid

/-- A rational that is not negative is the quotient of its parts. -/
lemma natAbs_num_div_den {q : ℚ} (nonneg : 0 ≤ q) : (q.num.natAbs : ℚ) / q.den = q := by
  have num_eq : ((q.num.natAbs : Int) : ℚ) = q.num :=
    congrArg _ (Int.natAbs_of_nonneg (Rat.num_nonneg.mpr nonneg))
  rw [← Int.cast_natCast, num_eq, Rat.num_div_den]

/-- A quotient that rounds to at most `exactLimit` is far from the largest value. -/
lemma nearest?_of_le {q : ℚ} (nonneg : 0 ≤ q) (broken : q.den ≠ 1) (bound : Nat)
    (small : bound ≤ exactLimit) (le : nearestQuotient q.num.natAbs q.den ≤ bound) :
    nearest? q = some (nearestQuotient q.num.natAbs q.den) := by
  have grows {m n : Nat} (lt : m < n) : Nat.pow 2 m < Nat.pow 2 n :=
    Nat.pow_lt_pow_right Nat.one_lt_two lt
  have limits : exactLimit < Nat.pow 2 overflowExponent :=
    grows (show precision < overflowExponent by decide)
  have finite : nearestQuotient q.num.natAbs q.den < (Nat.pow 2 overflowExponent : Nat) :=
    le.trans_lt (Nat.cast_lt.mpr (Nat.lt_of_le_of_lt small limits))
  rw [nearest?, if_neg (fun both => broken both.1)]
  dsimp only
  rw [if_pos finite, if_neg (not_lt.mpr (Rat.num_nonneg.mpr nonneg))]

/-- Rounding does not carry a quotient to another integer. -/
theorem ceil_nearest? {q : ℚ} (nonneg : 0 ≤ q) (num : q.num.natAbs < exactLimit)
    (den : q.den ≤ exactLimit) : ∃ v, nearest? q = some v ∧ v.ceil = q.ceil := by
  by_cases whole : q.den = 1
  · exact ⟨q, if_pos ⟨whole, num.le⟩, rfl⟩
  obtain ⟨k, above, below⟩ : ∃ k, k * q.den < q.num.natAbs ∧ q.num.natAbs ≤ (k + 1) * q.den := by
    have split := Nat.div_add_mod q.num.natAbs q.den
    have bound := Nat.mod_lt q.num.natAbs q.den_pos
    -- the denominator does not divide the numerator
    have remainder : q.num.natAbs % q.den ≠ 0 := fun none =>
      whole (Nat.Coprime.eq_one_of_dvd q.reduced.symm (Nat.dvd_of_mod_eq_zero none))
    refine ⟨q.num.natAbs / q.den, ?_, ?_⟩
    · rw [Nat.mul_comm]
      omega
    · rw [Nat.mul_comm, Nat.mul_succ]
      omega
  have pos : (0 : ℚ) < q.den := by exact_mod_cast q.den_pos
  have lower : (k : ℚ) < q := by
    rw [← natAbs_num_div_den nonneg, lt_div_iff₀ pos]
    exact_mod_cast above
  have upper : q ≤ k + 1 := by
    rw [← natAbs_num_div_den nonneg, div_le_iff₀ pos]
    exact_mod_cast below
  obtain ⟨lower', upper'⟩ := nearestQuotient_bounds q.den_pos num den above below
  have k_lt : k < q.num.natAbs := (Nat.le_mul_of_pos_right k q.den_pos).trans_lt above
  have ceil {x : ℚ} (lower : (k : ℚ) < x) (upper : x ≤ k + 1) : x.ceil = k + 1 := by
    have le : x.ceil ≤ k + 1 := Rat.ceil_le_iff.mpr (by exact_mod_cast upper)
    have lt : k < x.ceil := Rat.lt_ceil_iff.mpr (by exact_mod_cast lower)
    omega
  refine ⟨_, nearest?_of_le nonneg whole (k + 1) (k_lt.trans num)
    (by exact_mod_cast upper'), ?_⟩
  rw [ceil lower' upper', ceil lower upper]

/-- Rounding does not carry a quotient beyond one. -/
lemma nearest?_le_one {q : ℚ} (nonneg : 0 ≤ q) (le : q ≤ 1) :
    ∃ v, nearest? q = some v ∧ v ≤ 1 := by
  have pos : (0 : ℚ) < q.den := by exact_mod_cast q.den_pos
  have num_le : q.num.natAbs ≤ q.den := by
    rw [← natAbs_num_div_den nonneg, div_le_one pos] at le
    exact_mod_cast le
  by_cases whole : q.den = 1
  · have num : q.num.natAbs ≤ exactLimit := num_le.trans (by rw [whole]; decide)
    exact ⟨q, if_pos ⟨whole, num⟩, le⟩
  · have numerator : 0 < q.num.natAbs := by
      refine Int.natAbs_pos.mpr fun zero => whole ?_
      rw [Rat.num_eq_zero.mp zero]
      rfl
    have le := nearestQuotient_le_one numerator num_le
    exact ⟨_, nearest?_of_le nonneg whole 1 (by decide) (by exact_mod_cast le), le⟩

/-- Rounding does not carry a large natural number below the ones that are all on the grid. -/
lemma exactLimit_le_nearest? {n : Nat} (large : exactLimit < n) {v : ℚ}
    (rounded : nearest? (n : ℚ) = some v) : (exactLimit : ℚ) ≤ v := by
  have beyond : ¬((n : ℚ).den = 1 ∧ (n : ℚ).num.natAbs ≤ exactLimit) := by simp [large]
  rw [nearest?, if_neg beyond] at rounded
  dsimp only at rounded
  split at rounded
  · rw [if_neg (by simp)] at rounded
    cases rounded
    exact exactLimit_le_nearestQuotient large.le
  · cases rounded

end Binary64

namespace Number

/-- What is beyond the exact numbers is not rounded back among them. -/
lemma exactLimit_le_ofRat {n : Nat} (large : Binary64.exactLimit < n) {q : ℚ}
    (same : ofRat (n : ℚ) = .finite q) : (Binary64.exactLimit : ℚ) ≤ q := by
  unfold ofRat at same
  split at same
  · rename_i v rounded
    cases same
    exact Binary64.exactLimit_le_nearest? large rounded
  · split at same <;> cases same

/-- The number of parts of `d` into which `n` is cut. -/
lemma ceilDiv_ofNat {n d : Nat} (denominator : 0 < d) (n_lt : n < Binary64.exactLimit)
    (d_le : d ≤ Binary64.exactLimit) : (ofNat n).ceilDiv d = ofNat ((n + d - 1) / d) := by
  have nonzero : (d : Int) ≠ 0 := by exact_mod_cast denominator.ne'
  have quotient : (n : ℚ) / d = Rat.divInt n d := by
    rw [Rat.divInt_eq_div, Int.cast_natCast, Int.cast_natCast]
  have num : ((n : ℚ) / d).num.natAbs < Binary64.exactLimit := by
    obtain rfl | pos := Nat.eq_zero_or_pos n
    · simpa using n_lt
    · have dvd := Int.natAbs_dvd_natAbs.mpr (Rat.num_dvd n nonzero)
      rw [← quotient] at dvd
      exact (Nat.le_of_dvd pos dvd).trans_lt n_lt
  have den : ((n : ℚ) / d).den ≤ Binary64.exactLimit := by
    have dvd := Rat.den_dvd n d
    rw [← quotient, Int.natCast_dvd_natCast] at dvd
    exact (Nat.le_of_dvd denominator dvd).trans d_le
  obtain ⟨v, rounded, same⟩ := Binary64.ceil_nearest? (q := n / d) (by positivity) num den
  have ceil : ((n : ℚ) / d).ceil = ((n + d - 1) / d : Nat) := by
    have pos : (0 : ℚ) < d := by exact_mod_cast denominator
    have split := Nat.div_add_mod (n + d - 1) d
    have remainder := Nat.mod_lt (n + d - 1) denominator
    generalize (n + d - 1) / d = parts at split
    refine le_antisymm (Rat.ceil_le_iff.mpr ?_) (Int.le_of_sub_one_lt (Rat.lt_ceil_iff.mpr ?_))
    · have enough : n ≤ parts * d := by rw [Nat.mul_comm]; omega
      rw [div_le_iff₀ pos]
      exact_mod_cast enough
    · have needed : parts * d < n + d := by rw [Nat.mul_comm]; omega
      have needed : (parts : ℚ) * d < n + d := by exact_mod_cast needed
      rw [lt_div_iff₀ pos]
      push_cast
      linarith
  simp only [ofNat, ceilDiv, ofRat, rounded, same, ceil, Int.cast_natCast]

/-- A part that is at least as large as the whole is the only one. -/
lemma ceilDiv_le_one {n : Nat} {q : ℚ} (pos : 0 < q) (le : n ≤ q) :
    ∃ r, (ofNat n).ceilDiv q = .finite r ∧ r ≤ 1 := by
  obtain ⟨v, rounded, v_le⟩ := Binary64.nearest?_le_one (q := n / q) (by positivity)
    ((div_le_one pos).mpr le)
  have ceil : v.ceil ≤ 1 := Rat.ceil_le_iff.mpr (by exact_mod_cast v_le)
  refine ⟨v.ceil, ?_, by exact_mod_cast ceil⟩
  simp only [ofNat, ceilDiv, ofRat, rounded]

/-- Nothing below one is more than it. -/
lemma max_one_of_le {r : ℚ} (le : r ≤ 1) : Number.max 1 (.finite r) = 1 := by
  have larger : Number.max 1 (.finite r) = if (ofNat 1).below (.finite r) then .finite r else 1 :=
    rfl
  rw [larger, ofNat, below, if_neg]
  simpa using le

end Number

end PacketLink
