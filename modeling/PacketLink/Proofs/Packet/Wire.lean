import Mathlib.Tactic.Lemma
import PacketLink.Packet.Codec

/-!
# Packets as bytes

`Fragment.wire` is the byte string of a fragment that carries a counter value. `encode_stamp` says
that encoding writes it whenever the packet fits and the counter is in range, and `decode_wire` that
decoding reads the packet back from it.
-/

namespace PacketLink

namespace Layout

/-- Flags, counter values and reserved values together are all the values of a header. -/
lemma spaces_mul (layout : Layout) :
    8 * layout.counterSpace * layout.reservedSpace = Nat.pow 256 layout.headerBytes := by
  have bits := layout.bits_eq
  rw [flagBits] at bits
  have power :
      (256 : Nat) ^ layout.headerBytes = 2 ^ (3 + layout.counterBits + layout.reservedBits) := by
    rw [show (256 : Nat) = 2 ^ 8 from rfl, ← Nat.pow_mul]
    congr 1
    omega
  simp only [counterSpace, reservedSpace, Nat.pow_eq, power, Nat.pow_add]

/-- Counter values are small enough to be added exactly. -/
lemma counterSpace_lt_exactLimit (layout : Layout) :
    layout.counterSpace < Binary64.exactLimit := by
  have fit := layout.flags_fit
  have bytes := layout.headerBytes_eq
  rw [flagBits] at fit
  simp only [counterSpace, Binary64.exactLimit, Binary64.precision, Nat.pow_eq]
  exact Nat.pow_lt_pow_right (by decide) (by omega)

variable (layout : Layout) (fragment : Fragment) {counter : Nat}

/-- The kind and the flags of a fragment as the top bits of its header. -/
def topBits (fragment : Fragment) : Nat :=
  (decide (fragment.kind = .control)).toNat * 4 + fragment.isFirst.toNat * 2 +
    fragment.isLast.toNat

/-- The kind and the flags take three bits. -/
lemma topBits_lt : topBits fragment < 8 := by
  have control := Bool.toNat_le (decide (fragment.kind = .control))
  have first := Bool.toNat_le fragment.isFirst
  have last := Bool.toNat_le fragment.isLast
  rw [topBits]
  omega

/-- A header is the flags, the counter and the reserved bits, from the top down. -/
lemma header_eq (counter : Nat) : layout.header fragment counter =
    (topBits fragment * layout.counterSpace + counter) * layout.reservedSpace := rfl

/-- A header fits in its bytes. -/
lemma header_lt (h : counter < layout.counterSpace) :
    layout.header fragment counter < Nat.pow 256 layout.headerBytes := by
  have top : (topBits fragment + 1) * layout.counterSpace ≤ 8 * layout.counterSpace :=
    Nat.mul_le_mul_right _ (topBits_lt fragment)
  rw [Nat.add_mul, Nat.one_mul] at top
  rw [header_eq, ← spaces_mul]
  exact Nat.mul_lt_mul_of_pos_right (by omega) layout.reservedSpace_pos

/-- The reserved bits of a header that is written are zero. -/
@[simp] lemma header_mod_reservedSpace (counter : Nat) :
    layout.header fragment counter % layout.reservedSpace = 0 := by
  rw [header_eq, Nat.mul_mod_left]

/-- The counter is read from the header as it was written. -/
lemma headerCounter_header (h : counter < layout.counterSpace) :
    layout.headerCounter (layout.header fragment counter) = counter := by
  rw [headerCounter, header_eq, Nat.mul_div_cancel _ layout.reservedSpace_pos, Nat.mul_comm,
    Nat.mul_add_mod, Nat.mod_eq_of_lt h]

/-- The flags are read from the header as they were written. -/
lemma headerFlags_header (h : counter < layout.counterSpace) :
    layout.headerFlags (layout.header fragment counter) = topBits fragment := by
  rw [headerFlags, header_eq, Nat.mul_div_cancel _ layout.reservedSpace_pos, Nat.mul_comm,
    Nat.mul_add_div layout.counterSpace_pos, Nat.div_eq_of_lt h, Nat.add_zero]

end Layout

namespace Fragment

variable (fragment : Fragment) (counter : Number)

/-- Stamping a fragment keeps its kind. -/
@[simp] lemma kind_stamp : (fragment.stamp counter).kind = fragment.kind := rfl

/-- Stamping a fragment keeps whether it is the first. -/
@[simp] lemma isFirst_stamp : (fragment.stamp counter).isFirst = fragment.isFirst := rfl

/-- Stamping a fragment keeps whether it is the last. -/
@[simp] lemma isLast_stamp : (fragment.stamp counter).isLast = fragment.isLast := rfl

/-- Stamping a fragment keeps its payload. -/
@[simp] lemma payload_stamp : (fragment.stamp counter).payload = fragment.payload := rfl

/-- Stamping a fragment gives it the counter. -/
@[simp] lemma counter_stamp : (fragment.stamp counter).counter = counter := rfl

end Fragment

/-- The bytes of a fragment that carries the counter value `counter`. -/
def Fragment.wire (layout : Layout) (counter : Nat) (fragment : Fragment) : Bytes :=
  Bytes.bigEndian layout.headerBytes (layout.header fragment counter) ++ fragment.payload

namespace Packet

variable {layout : Layout} {fragment : Fragment} {counter : Nat}

/-- A packet on the wire is its header and the payload of its fragment. -/
@[simp] lemma length_wire (layout : Layout) (counter : Nat) (fragment : Fragment) :
    (fragment.wire layout counter).length = layout.headerBytes + fragment.payload.length := by
  simp [Fragment.wire]

/-- A packet that fits and carries a counter value in range is written. -/
lemma encode_stamp {maxPacketSize : Number} (h : counter < layout.counterSpace)
    (fits : maxPacketSize.below (fragment.payload.length + layout.headerBytes : Nat) = false) :
    (fragment.stamp counter).encode layout maxPacketSize = .ok (fragment.wire layout counter) := by
  simp [encode, Fragment.stamp, Fragment.wire, fits, h]

/-- Only a packet that carries a counter value in range is written. -/
lemma eq_wire_of_encode {maxPacketSize : Number} {data : Bytes}
    (written : (fragment.stamp counter).encode layout maxPacketSize = .ok data) :
    counter < layout.counterSpace ∧ data = fragment.wire layout counter := by
  have value : (fragment.stamp counter).counter.toNat? = some counter := by simp [Fragment.stamp]
  unfold encode at written
  rw [value] at written
  dsimp only at written
  split at written
  · cases written
  · split at written
    · rename_i range
      cases written
      exact ⟨range, rfl⟩
    · cases written

/-- Only a packet that fits is written. -/
lemma below_length_of_encode {packet : Packet} {maxPacketSize : Number} {data : Bytes}
    (written : packet.encode layout maxPacketSize = .ok data) :
    maxPacketSize.below (data.length : Nat) = false := by
  unfold encode at written
  dsimp only at written
  split at written
  · cases written
  · rename_i fits
    split at written
    · split at written
      · cases written
        rw [List.length_append, Bytes.length_bigEndian, Nat.add_comm]
        exact Bool.eq_false_iff.mpr fits
      · cases written
    · cases written

/-- What was written is read back. -/
lemma decode_wire (h : counter < layout.counterSpace) :
    decode layout (fragment.wire layout counter) = .ok (fragment.stamp counter) := by
  have field : Bytes.ofBigEndian (Bytes.bigEndian layout.headerBytes
      (layout.header fragment counter)) = layout.header fragment counter :=
    Bytes.ofBigEndian_bigEndian (layout.header_lt fragment h)
  have head : (fragment.wire layout counter).take layout.headerBytes =
      Bytes.bigEndian layout.headerBytes (layout.header fragment counter) :=
    List.take_left' (Bytes.length_bigEndian _ _)
  have tail : (fragment.wire layout counter).drop layout.headerBytes = fragment.payload :=
    List.drop_left' (Bytes.length_bigEndian _ _)
  rw [decode, if_neg (by simp), head, tail, field]
  simp only [Layout.header_mod_reservedSpace, ne_eq, not_true_eq_false, if_false,
    Layout.headerFlags_header _ _ h, Layout.headerCounter_header _ _ h]
  congr 1
  rcases fragment with ⟨_ | _, _ | _, _ | _, payload⟩ <;> simp [Layout.topBits, Fragment.stamp]

/-- The counter that is read is a value of the layout. -/
lemma decode_counter {data : Bytes} {packet : Packet} (decoded : decode layout data = .ok packet) :
    ∃ n < layout.counterSpace, packet.counter = .ofNat n := by
  unfold decode at decoded
  split at decoded
  · cases decoded
  · dsimp only at decoded
    split at decoded
    · cases decoded
    · cases decoded
      exact ⟨_, Nat.mod_lt _ layout.counterSpace_pos, rfl⟩

end Packet

end PacketLink
