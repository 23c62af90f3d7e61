/-!
# Rounding to binary64

The nearest value of the IEEE 754 binary64 grid to an exact rational, a tie going to the even
neighbour. Values beyond the largest finite one have no nearest value here. Main statement:
`nearest?_natCast`.
-/

namespace PacketLink.Binary64

/-- The quotient `n / d` rounded to the nearest natural number, a tie going to the even one. -/
def halfEven (n d : Nat) : Nat :=
  let q := n / d
  let r := n % d
  if 2 * r < d then q else if d < 2 * r then q + 1 else q + q % 2

/-- The greatest `e` with `2 ^ e ≤ n / d`, for positive `n` and `d`. -/
def binaryExponent (n d : Nat) : Int :=
  let e : Int := n.log2 - d.log2
  let reached := if 0 ≤ e then d * Nat.pow 2 e.toNat ≤ n else d ≤ n * Nat.pow 2 (-e).toNat
  if reached then e else e - 1

/-- Number of bits in a significand. -/
def precision : Nat := 53

/-- Integers up to this one, two to the power `precision`, are all on the grid. -/
def exactLimit : Nat := Nat.pow 2 precision

/-- Exponent of the smallest positive value. -/
def leastUnit : Int := -1074

/-- Every finite value lies below `2 ^ overflowExponent`. -/
def overflowExponent : Nat := 1024

/-- The spacing of the grid around `n / d`, as an exponent of two. -/
def unitExponent (n d : Nat) : Int :=
  max (binaryExponent n d - (precision - 1)) leastUnit

/-- The natural number `m` times two to the power `u`. -/
def scaled (m : Nat) (u : Int) : Rat :=
  if 0 ≤ u then ((m * Nat.pow 2 u.toNat : Nat) : Rat) else mkRat m (Nat.pow 2 (-u).toNat)

/-- The grid value nearest to the positive quotient `n / d`. -/
def nearestQuotient (n d : Nat) : Rat :=
  let u := unitExponent n d
  let m :=
    if 0 ≤ u then halfEven n (d * Nat.pow 2 u.toNat) else halfEven (n * Nat.pow 2 (-u).toNat) d
  scaled m u

/-- The grid value nearest to `q`; none when `q` rounds beyond the largest finite value. -/
def nearest? (q : Rat) : Option Rat :=
  if q.den = 1 ∧ q.num.natAbs ≤ exactLimit then
    some q
  else
    let magnitude := nearestQuotient q.num.natAbs q.den
    if magnitude < (Nat.pow 2 overflowExponent : Nat) then
      some (if q.num < 0 then -magnitude else magnitude)
    else
      none

/-- Every natural number up to two to the 53rd power is on the grid. -/
theorem nearest?_natCast {n : Nat} (h : n ≤ exactLimit) :
    nearest? (n : Rat) = some (n : Rat) := by
  simp [nearest?, h]

end PacketLink.Binary64
