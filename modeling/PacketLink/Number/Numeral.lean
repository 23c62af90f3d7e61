import PacketLink.Number.Basic

/-!
# Numerals

The text of a number: the fewest decimal digits that read back as the same value, the nearest such
digits when there are several, and the even ones of two that are equally near. `Numeral.plain` says
which magnitudes are written positionally and which with an exponent.
-/

namespace PacketLink

namespace Numeral

/-- Ten to an integer power. -/
def tenPow (e : Int) : Rat :=
  if 0 ≤ e then (Nat.pow 10 e.toNat : Rat) else mkRat 1 (Nat.pow 10 (-e).toNat)

/-- Number of decimal digits of a natural number. -/
def digitCount (n : Nat) : Nat := (Nat.toDigits 10 n).length

/-- The greatest `e` with `10 ^ e ≤ v`, for positive `v`. -/
def leadingExponent (v : Rat) : Int :=
  let n := v.num.natAbs
  if v.den ≤ n then
    digitCount (n / v.den) - 1
  else
    let places := digitCount (v.den / n)
    if v.den ≤ n * Nat.pow 10 (places - 1) then 1 - (places : Int) else -places

/-- A positive decimal: `significand * 10 ^ exponent`. -/
structure Decimal where
  significand : Nat
  exponent : Int

namespace Decimal

def value (d : Decimal) : Rat := d.significand * tenPow d.exponent

/-- Whether a decimal is read back as `v`. -/
def ReadsAs (d : Decimal) (v : Rat) : Prop := Binary64.nearest? d.value = some v

instance (d : Decimal) (v : Rat) : Decidable (d.ReadsAs v) := inferInstanceAs (Decidable (_ = _))

/-- The better of the two neighbours of `v` among the multiples of `10 ^ e`, if one reads back. -/
def neighbour? (v : Rat) (e : Int) : Option Decimal :=
  let below : Decimal := ⟨(v / tenPow e).floor.toNat, e⟩
  let above : Decimal := ⟨below.significand + 1, e⟩
  if below.ReadsAs v then
    if above.ReadsAs v then
      let gapBelow := v - below.value
      let gapAbove := above.value - v
      if gapAbove < gapBelow then some above
      else if gapBelow < gapAbove then some below
      else if below.significand % 2 = 0 then some below else some above
    else some below
  else if above.ReadsAs v then some above else none

/-- Digit counts to try, fewest first; seventeen digits always read back. -/
def digitCounts : List Nat := (List.range 17).map (· + 1)

/-- The shortest decimal that reads back as the positive binary64 value `v`. -/
def shortest (v : Rat) : Decimal :=
  let lead := leadingExponent v
  (digitCounts.findSome? fun (k : Nat) => neighbour? v (lead - (k : Int) + 1)).getD ⟨0, 0⟩

/-- The same decimal without trailing zeros in the significand. -/
def trim (d : Decimal) : Decimal :=
  if d.significand ≠ 0 ∧ d.significand % 10 = 0 then
    trim ⟨d.significand / 10, d.exponent + 1⟩
  else d
termination_by d.significand
decreasing_by omega

end Decimal

/-- Which exponents of the leading digit are written positionally. -/
structure Style where
  least : Int
  greatest : Int

/-- Positional from a millionth up to 21 digits, with an exponent outside that range. -/
def plain : Style := ⟨-6, 20⟩

/-- The digits of a decimal with a point or an exponent, as the style asks. -/
def Style.render (style : Style) (d : Decimal) : String :=
  let digits := Nat.toDigits 10 d.significand
  let lead : Int := digits.length + d.exponent - 1
  if style.least ≤ lead ∧ lead ≤ style.greatest then
    if 0 ≤ d.exponent then
      String.ofList (digits ++ List.replicate d.exponent.toNat '0')
    else if 0 ≤ lead then
      let whole := (lead + 1).toNat
      String.ofList (digits.take whole ++ '.' :: digits.drop whole)
    else
      String.ofList ('0' :: '.' :: List.replicate (-lead - 1).toNat '0' ++ digits)
  else
    let sign := if lead < 0 then '-' else '+'
    let fraction := if digits.length ≤ 1 then [] else '.' :: digits.drop 1
    String.ofList (digits.take 1 ++ fraction ++ 'e' :: sign :: Nat.toDigits 10 lead.natAbs)

end Numeral

/-- The text of a number. -/
def Number.text : Number → String
  | .nan => "NaN"
  | .posInf => "Infinity"
  | .negInf => "-Infinity"
  | .finite q =>
    if q = 0 then "0"
    else if q < 0 then "-" ++ Numeral.plain.render (Numeral.Decimal.shortest (-q)).trim
    else Numeral.plain.render (Numeral.Decimal.shortest q).trim

end PacketLink
