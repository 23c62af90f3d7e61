import PacketLink.Number.Rounding

/-!
# Numbers

The numbers that callers hand in as sizes, limits, counters and versions: a binary64 value held as
an exact rational, an infinity, or "not a number". The sign of zero is not kept, since nothing in
this library tells the two zeros apart. Arithmetic is exact arithmetic followed by one rounding;
comparisons with `nan` are all false. Main statement: `add_ofNat` says that
small natural numbers are added exactly.
-/

namespace PacketLink

/-- A binary64 value, up to the sign of zero. -/
inductive Number where
  | nan
  | negInf
  | posInf
  | finite (value : Rat)
  deriving DecidableEq, Inhabited

namespace Number

def ofInt (z : Int) : Number := .finite z

def ofNat (n : Nat) : Number := .finite n

instance (n : Nat) : OfNat Number n := ⟨ofNat n⟩

instance : Coe Nat Number := ⟨ofNat⟩

/-- The binary64 value nearest to an exact rational. -/
def ofRat (q : Rat) : Number :=
  match Binary64.nearest? q with
  | some v => .finite v
  | none => if q < 0 then .negInf else .posInf

/-- The binary64 value nearest to `mantissa / 10 ^ places`. -/
def ofDecimal (mantissa : Int) (places : Nat) : Number :=
  ofRat (mkRat mantissa (Nat.pow 10 places))

/-- Numeric equality: `nan` differs from itself. -/
def same : Number → Number → Bool
  | .finite a, .finite b => a = b
  | .posInf, .posInf => true
  | .negInf, .negInf => true
  | _, _ => false

/-- The strict order; false as soon as one side is `nan`. -/
def below : Number → Number → Bool
  | .finite a, .finite b => a < b
  | .negInf, .finite _ => true
  | .negInf, .posInf => true
  | .finite _, .posInf => true
  | _, _ => false

/-- The smaller of two numbers; `nan` if one of them is. -/
protected def min : Number → Number → Number
  | .nan, _ => .nan
  | _, .nan => .nan
  | a, b => if b.below a then b else a

/-- The larger of two numbers; `nan` if one of them is. -/
protected def max : Number → Number → Number
  | .nan, _ => .nan
  | _, .nan => .nan
  | a, b => if a.below b then b else a

protected def add : Number → Number → Number
  | .finite a, .finite b => ofRat (a + b)
  | .nan, _ => .nan
  | _, .nan => .nan
  | .posInf, .negInf => .nan
  | .negInf, .posInf => .nan
  | .posInf, _ => .posInf
  | _, .posInf => .posInf
  | .negInf, _ => .negInf
  | _, .negInf => .negInf

/-- The integer part, rounding toward zero. -/
def truncated (q : Rat) : Int := q.num.tdiv q.den

/-- The remainder after a division rounded toward zero; it has the sign of the dividend. -/
def rem : Number → Nat → Number
  | .finite q, d => if d = 0 then .nan else .finite (q - d * (truncated (q / d) : Int))
  | _, _ => .nan

/-- The quotient by a positive number, rounded, and then the next integer at or above it. -/
def ceilDiv : Number → Rat → Number
  | .finite q, d =>
    match ofRat (q / d) with
    | .finite r => .finite r.ceil
    | x => x
  | x, _ => x

/-- The integer that a number is, if it is one. -/
def toInt? : Number → Option Int
  | .finite q => if q.den = 1 then some q.num else none
  | _ => none

/-- The natural number that a number is, if it is one. -/
def toNat? (x : Number) : Option Nat :=
  match x.toInt? with
  | some (.ofNat n) => some n
  | _ => none

/-- Whether a number is an integer, which the infinities and NaN are not. -/
def IsInteger (x : Number) : Prop := x.toInt?.isSome

instance (x : Number) : Decidable x.IsInteger := inferInstanceAs (Decidable (_ = true))

/-- The low five bits of the integer part; zero for a number that is not finite. -/
def lowFiveBits : Number → Nat
  | .finite q => ((truncated q) % 32).toNat
  | _ => 0

/-- An integer is read back from its number. -/
@[simp] theorem toInt?_ofInt (z : Int) : (ofInt z).toInt? = some z := by
  simp [ofInt, toInt?]

/-- A natural number is read back as an integer. -/
@[simp] theorem toInt?_ofNat (n : Nat) : (ofNat n).toInt? = some (n : Int) := by
  simp [ofNat, toInt?]

/-- A natural number is read back from its number. -/
@[simp] theorem toNat?_ofNat (n : Nat) : (ofNat n).toNat? = some n := by
  simp [toNat?]

/-- Natural numbers are the same numbers when they are equal. -/
@[simp] theorem same_ofNat (m n : Nat) : (ofNat m).same (ofNat n) = decide (m = n) := by
  simp [ofNat, same]

/-- Natural numbers compare as they do. -/
@[simp] theorem below_ofNat (m n : Nat) : (ofNat m).below (ofNat n) = decide (m < n) := by
  simp only [ofNat, below, Rat.natCast_lt_natCast]

/-- A natural number is exact up to the limit of exact ones. -/
theorem ofRat_natCast {n : Nat} (h : n ≤ Binary64.exactLimit) : ofRat (n : Rat) = ofNat n := by
  simp [ofRat, Binary64.nearest?_natCast h, ofNat]

/-- A sum of natural numbers is exact up to `Binary64.exactLimit`. -/
theorem add_ofNat {m n : Nat} (h : m + n ≤ Binary64.exactLimit) :
    (ofNat m).add (ofNat n) = ofNat (m + n) := by
  have cast : ((m : Rat) + (n : Rat)) = ((m + n : Nat) : Rat) := by simp
  simp only [Number.add, ofNat, cast]
  exact ofRat_natCast h

end Number

end PacketLink
