import PacketLink.InvalidArgument

/-!
# Header layouts

A packet starts with one big-endian header of one or two bytes. From the most significant bit it
holds the kind, the first flag, the last flag, a counter, and reserved bits that are zero. A
`Format` is what a caller asks for; a `Layout` is one that can hold all fields.
-/

namespace PacketLink

/-- Number of header bits that the kind and the two flags take. -/
def flagBits : Nat := 3

/-- A requested header size in bytes and counter width in bits. -/
structure Format where
  headerSize : Number
  counterBits : Number

/-- A header size and a counter width that leave room for every field. -/
structure Layout where
  headerBytes : Nat
  counterBits : Nat
  headerBytes_eq : headerBytes = 1 ∨ headerBytes = 2
  counterBits_pos : 0 < counterBits
  flags_fit : counterBits + flagBits ≤ 8 * headerBytes
  deriving DecidableEq

namespace Layout

/-- One header byte with a three-bit counter. -/
def default : Layout := ⟨1, 3, .inl rfl, by decide, by decide⟩

/-- Number of distinct counter values. -/
def counterSpace (layout : Layout) : Nat := Nat.pow 2 layout.counterBits

/-- Number of reserved bits below the counter. -/
def reservedBits (layout : Layout) : Nat :=
  8 * layout.headerBytes - flagBits - layout.counterBits

/-- Number of values that the reserved bits could have. -/
def reservedSpace (layout : Layout) : Nat := Nat.pow 2 layout.reservedBits

/-- A layout has at least one counter value. -/
theorem counterSpace_pos (layout : Layout) : 0 < layout.counterSpace :=
  Nat.two_pow_pos layout.counterBits

/-- There is at least one value of the reserved bits. -/
theorem reservedSpace_pos (layout : Layout) : 0 < layout.reservedSpace :=
  Nat.two_pow_pos layout.reservedBits

/-- Flags, counter and reserved bits fill the header. -/
theorem bits_eq (layout : Layout) :
    layout.reservedBits + layout.counterBits + flagBits = 8 * layout.headerBytes := by
  have := layout.flags_fit
  unfold reservedBits
  omega

def format (layout : Layout) : Format := ⟨layout.headerBytes, layout.counterBits⟩

end Layout

namespace Format

/-- The layout that a format describes; the header size is checked before the counter width. -/
def layout (format : Format) : Except InvalidArgument Layout :=
  match format.headerSize.toNat? with
  | some bytes =>
    if size : bytes = 1 ∨ bytes = 2 then
      match format.counterBits.toNat? with
      | some bits =>
        if width : 0 < bits ∧ bits + flagBits ≤ 8 * bytes then
          .ok ⟨bytes, bits, size, width.1, width.2⟩
        else .error (.counterWidth (8 * bytes - flagBits) format.counterBits)
      | none => .error (.counterWidth (8 * bytes - flagBits) format.counterBits)
    else .error (.headerSize format.headerSize)
  | none => .error (.headerSize format.headerSize)

/-- The signed 32-bit value of a one shifted left by the requested width, whatever it is: only the
low five bits of its integer part count, and the topmost bit is the sign. -/
def shiftedOne (format : Format) : Int :=
  let places := format.counterBits.lowFiveBits
  if places = 31 then -(Nat.pow 2 places) else Nat.pow 2 places

end Format

/-- A layout is the layout of its own format. -/
@[simp] theorem Layout.layout_format (layout : Layout) : layout.format.layout = .ok layout := by
  have size := layout.headerBytes_eq
  have width := And.intro layout.counterBits_pos layout.flags_fit
  simp [Layout.format, Format.layout, size, width]

/-- For the format of a layout, the shifted one is the number of counter values. -/
theorem Layout.shiftedOne_format (layout : Layout) :
    layout.format.shiftedOne = (layout.counterSpace : Int) := by
  have bits : layout.counterBits < 14 := by
    have fit := layout.flags_fit
    have bytes := layout.headerBytes_eq
    rw [flagBits] at fit
    omega
  have low : layout.format.counterBits.lowFiveBits = layout.counterBits := by
    simp only [Layout.format, Number.ofNat, Number.lowFiveBits, Number.truncated,
      Rat.num_natCast, Rat.den_natCast, Int.tdiv_one, Int.natCast_one]
    omega
  have short : layout.counterBits ≠ 31 := by omega
  simp [Format.shiftedOne, low, short, Layout.counterSpace]

end PacketLink
