/-!
# Bytes

Byte strings, big-endian fields and hexadecimal text. Main statements: `ofBigEndian_bigEndian` says
that a field holds every number that fits in it, and `bigEndian_ofBigEndian` that every field is
that of the number in it.
-/

namespace PacketLink

/-- The bytes of a packet, of a payload or of a field. -/
abbrev Bytes := List UInt8

namespace Bytes

/-- The `width` bytes of a big-endian field; what does not fit is cut off at the top. -/
def bigEndian : Nat → Nat → Bytes
  | 0, _ => []
  | width + 1, n => UInt8.ofNat (n / Nat.pow 256 width) :: bigEndian width n

/-- The number in a big-endian field. -/
def ofBigEndian (field : Bytes) : Nat :=
  field.foldl (fun n b => n * 256 + b.toNat) 0

/-- The big-endian number in the two bytes from `offset` on; missing bytes count as zero. -/
def uint16At (data : Bytes) (offset : Nat) : Nat :=
  ofBigEndian ((data.drop offset).take 2)

/-- A field has the width that it is written in. -/
@[simp] theorem length_bigEndian (width n : Nat) : (bigEndian width n).length = width := by
  induction width with
  | zero => rfl
  | succ width ih => simp [bigEndian, ih]

/-- Reading goes on with the bytes of a field as with its value. -/
theorem foldl_bigEndian (width n acc : Nat) :
    (bigEndian width n).foldl (fun n b => n * 256 + b.toNat) acc =
      acc * Nat.pow 256 width + n % Nat.pow 256 width := by
  simp only [Nat.pow_eq]
  induction width generalizing acc with
  | zero => simp [bigEndian, Nat.mod_one]
  | succ width ih =>
    have byte : (UInt8.ofNat (n / 256 ^ width)).toNat = n / 256 ^ width % 256 := by simp
    have split : n % 256 ^ (width + 1) = n % 256 ^ width + 256 ^ width * (n / 256 ^ width % 256) :=
      Nat.mod_pow_succ
    rw [bigEndian, Nat.pow_eq, List.foldl_cons, ih, byte, split, Nat.pow_succ, Nat.add_mul,
      Nat.mul_assoc, Nat.mul_comm 256, Nat.mul_comm (256 ^ width) (_ % 256)]
    omega

/-- A value that fits is read as it was written. -/
theorem ofBigEndian_bigEndian {width n : Nat} (h : n < Nat.pow 256 width) :
    ofBigEndian (bigEndian width n) = n := by
  rw [ofBigEndian, foldl_bigEndian, Nat.mod_eq_of_lt h]
  omega

/-- What was read before is ahead of the bytes that follow. -/
theorem foldl_ofBigEndian (field : Bytes) (acc : Nat) :
    field.foldl (fun n b => n * 256 + b.toNat) acc =
      acc * Nat.pow 256 field.length + ofBigEndian field := by
  simp only [Nat.pow_eq, ofBigEndian]
  induction field generalizing acc with
  | nil => simp
  | cons b field ih =>
    rw [List.foldl_cons, List.foldl_cons, ih, ih (0 * 256 + b.toNat), List.length_cons,
      Nat.pow_succ, Nat.add_mul, Nat.zero_mul, Nat.zero_add, Nat.mul_assoc, Nat.mul_comm 256,
      Nat.add_assoc]

/-- The first byte counts most. -/
theorem ofBigEndian_cons (b : UInt8) (field : Bytes) :
    ofBigEndian (b :: field) = b.toNat * Nat.pow 256 field.length + ofBigEndian field := by
  rw [ofBigEndian, List.foldl_cons, foldl_ofBigEndian, Nat.zero_mul, Nat.zero_add]

/-- A field has a value that fits in it. -/
theorem ofBigEndian_lt (field : Bytes) : ofBigEndian field < Nat.pow 256 field.length := by
  induction field with
  | nil => exact Nat.zero_lt_one
  | cons b field ih =>
    have byte : (b.toNat + 1) * 256 ^ field.length ≤ 256 * 256 ^ field.length :=
      Nat.mul_le_mul_right _ b.toNat_lt
    rw [Nat.pow_eq] at ih
    rw [Nat.add_mul, Nat.one_mul] at byte
    rw [ofBigEndian_cons, List.length_cons, Nat.pow_eq, Nat.pow_eq, Nat.pow_succ,
      Nat.mul_comm _ 256]
    omega

/-- Fields of one width that hold the same number are the same. -/
theorem ofBigEndian_inj {field other : Bytes} (width : field.length = other.length)
    (same : ofBigEndian field = ofBigEndian other) : field = other := by
  induction field generalizing other with
  | nil => exact (List.length_eq_zero_iff.mp width.symm).symm
  | cons b field ih =>
    cases other with
    | nil => cases width
    | cons b' other =>
      have width : field.length = other.length := Nat.succ.inj width
      have low := ofBigEndian_lt field
      have low' := ofBigEndian_lt other
      rw [← width] at low'
      have pos : 0 < Nat.pow 256 field.length := Nat.lt_of_le_of_lt (Nat.zero_le _) low
      rw [ofBigEndian_cons, ofBigEndian_cons, ← width] at same
      -- the bytes in front are the quotients, and what is left the remainders
      have quotient (n : Nat) {low : Nat} (small : low < Nat.pow 256 field.length) :
          (n * Nat.pow 256 field.length + low) / Nat.pow 256 field.length = n := by
        rw [Nat.mul_comm, Nat.mul_add_div pos, Nat.div_eq_of_lt small, Nat.add_zero]
      have front : b.toNat = b'.toNat := by
        rw [← quotient b.toNat low, same, quotient b'.toNat low']
      rw [front, Nat.add_left_cancel_iff] at same
      rw [UInt8.toNat_inj.mp front, ih width same]

/-- Bytes are the field of the value that is read from them. -/
theorem bigEndian_ofBigEndian (field : Bytes) :
    bigEndian field.length (ofBigEndian field) = field :=
  ofBigEndian_inj (length_bigEndian ..) (ofBigEndian_bigEndian (ofBigEndian_lt field))

end Bytes

/-- Lower-case hexadecimal digits of `n`, with zeros in front up to `width` digits. -/
def hexText (width n : Nat) : String :=
  let digits := Nat.toDigits 16 n
  String.ofList (List.replicate (width - digits.length) '0' ++ digits)

end PacketLink
