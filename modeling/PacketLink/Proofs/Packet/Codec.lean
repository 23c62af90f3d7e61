import PacketLink.Proofs.Number.Natural
import PacketLink.Proofs.Packet.Wire

/-!
# The packet codec

Both directions of the codec are described by the wire form of a fragment: `encode_eq_ok_iff` says
that encoding writes it for exactly the packets that fit, and `decode_eq_ok_iff` that decoding
accepts nothing else, since `exists_wire` finds the fragment for all bytes that are long enough and
have no reserved bit set. So the two are inverse to each other (`encode_iff_decode`). Main
statement: `wire_bijection`.
-/

namespace PacketLink

/-- The fragment with the kind and the flags of a number below eight. -/
def Fragment.ofFlags (flags : Nat) (payload : Bytes) : Fragment where
  kind := if flags / 4 % 2 = 1 then .control else .data
  isFirst := flags / 2 % 2 = 1
  isLast := flags % 2 = 1
  payload

namespace Layout

variable (layout : Layout) {header : Nat}

/-- Every number below eight is the top bits of a fragment. -/
lemma topBits_ofFlags {flags : Nat} (small : flags < 8) (payload : Bytes) :
    topBits (.ofFlags flags payload) = flags := by
  have all : ∀ flags < 8, topBits (.ofFlags flags []) = flags := by decide
  exact all flags small

/-- A header without reserved bits is made of its flags and its counter. -/
lemma header_headerCounter (clear : header % layout.reservedSpace = 0) {fragment : Fragment}
    (flags : topBits fragment = layout.headerFlags header) :
    layout.header fragment (layout.headerCounter header) = header := by
  rw [header_eq, flags, headerFlags, headerCounter, Nat.div_add_mod',
    Nat.div_mul_cancel (Nat.dvd_of_mod_eq_zero clear)]

/-- There are three flags. -/
lemma headerFlags_lt (small : header < Nat.pow 256 layout.headerBytes) :
    layout.headerFlags header < 8 := by
  rw [← spaces_mul, Nat.mul_comm] at small
  exact Nat.div_lt_of_lt_mul (Nat.mul_comm 8 _ ▸ Nat.div_lt_of_lt_mul small)

/-- No reserved bit of a header is set. -/
lemma reserved_eq_zero_iff : header % layout.reservedSpace = 0 ↔
    ∀ i < layout.reservedBits, header.testBit i = false := by
  rw [reservedSpace, Nat.pow_eq]
  constructor
  · intro clear i reserved
    have bit := Nat.testBit_mod_two_pow header layout.reservedBits i
    simpa [clear, reserved] using bit
  · intro clear
    apply Nat.eq_of_testBit_eq
    intro i
    rw [Nat.testBit_mod_two_pow, Nat.zero_testBit]
    by_cases reserved : i < layout.reservedBits
    · simp [clear i reserved]
    · simp [reserved]

end Layout

namespace Packet

variable {layout : Layout} {packet : Packet} {data : Bytes} {maxPacketSize : Number}

/-- Bytes that are long enough and have no reserved bit set are those of a fragment. -/
lemma exists_wire (long : layout.headerBytes ≤ data.length)
    (clear : Bytes.ofBigEndian (data.take layout.headerBytes) % layout.reservedSpace = 0) :
    ∃ fragment : Fragment, ∃ counter < layout.counterSpace,
      data = Fragment.wire layout counter fragment := by
  have width : (data.take layout.headerBytes).length = layout.headerBytes := by simpa using long
  have field := Bytes.bigEndian_ofBigEndian (data.take layout.headerBytes)
  have small := Bytes.ofBigEndian_lt (data.take layout.headerBytes)
  generalize Bytes.ofBigEndian (data.take layout.headerBytes) = header at *
  rw [width] at field small
  have flags := Layout.topBits_ofFlags (layout.headerFlags_lt small) (data.drop layout.headerBytes)
  refine ⟨.ofFlags (layout.headerFlags header) (data.drop layout.headerBytes),
    layout.headerCounter header, Nat.mod_lt _ layout.counterSpace_pos, ?_⟩
  rw [Fragment.wire, layout.header_headerCounter clear flags, field]
  exact (List.take_append_drop ..).symm

/-- What is read is what was written, and nothing else is read. -/
lemma decode_eq_ok_iff : decode layout data = .ok packet ↔
    ∃ fragment : Fragment, ∃ counter < layout.counterSpace,
      packet = fragment.stamp counter ∧ data = fragment.wire layout counter := by
  constructor
  · intro decoded
    have accepted : layout.headerBytes ≤ data.length ∧
        Bytes.ofBigEndian (data.take layout.headerBytes) % layout.reservedSpace = 0 := by
      unfold decode at decoded
      split at decoded
      · cases decoded
      · rename_i long
        dsimp only at decoded
        split at decoded
        · cases decoded
        · rename_i clear
          exact ⟨Nat.le_of_not_lt long, Decidable.not_not.mp clear⟩
    obtain ⟨fragment, counter, range, rfl⟩ := exists_wire accepted.1 accepted.2
    rw [decode_wire range] at decoded
    cases decoded
    exact ⟨fragment, counter, range, rfl, rfl⟩
  · rintro ⟨fragment, counter, range, rfl, rfl⟩
    exact decode_wire range

/-- What is written is the wire form, if the packet fits and its counter is in range. -/
lemma encode_eq_ok_iff : packet.encode layout maxPacketSize = .ok data ↔
    maxPacketSize.below (data.length : Nat) = false ∧
      ∃ fragment : Fragment, ∃ counter < layout.counterSpace,
        packet = fragment.stamp counter ∧ data = fragment.wire layout counter := by
  constructor
  · intro written
    refine ⟨below_length_of_encode written, packet.toFragment, ?_⟩
    cases value : packet.counter.toNat? with
    | none =>
      unfold encode at written
      rw [value] at written
      dsimp only at written
      split at written <;> cases written
    | some counter =>
      have same : packet = packet.toFragment.stamp counter := by
        rw [← Number.toNat?_eq_some_iff.mp value]
        rfl
      rw [same] at written
      obtain ⟨range, wire⟩ := eq_wire_of_encode written
      exact ⟨counter, range, same, wire⟩
  · rintro ⟨fits, fragment, counter, range, rfl, rfl⟩
    refine encode_stamp range ?_
    rwa [length_wire, Nat.add_comm] at fits

/-- A packet is written as the bytes that it is read from, as long as they fit. -/
lemma encode_iff_decode : packet.encode layout maxPacketSize = .ok data ↔
    maxPacketSize.below (data.length : Nat) = false ∧ decode layout data = .ok packet := by
  rw [encode_eq_ok_iff, decode_eq_ok_iff]

/-! ## What is written -/

/-- A packet is its header and then its payload. -/
lemma length_of_encode (written : packet.encode layout maxPacketSize = .ok data) :
    data.length = layout.headerBytes + packet.payload.length := by
  obtain ⟨_, fragment, counter, _, rfl, rfl⟩ := encode_eq_ok_iff.mp written
  exact length_wire ..

/-- A packet is written when it fits and its counter is a value of the layout. -/
lemma exists_encode_iff (isNumber : maxPacketSize ≠ .nan) :
    (∃ data, packet.encode layout maxPacketSize = .ok data) ↔
      maxPacketSize.AtLeast (packet.payload.length + layout.headerBytes) ∧
        ∃ n < layout.counterSpace, packet.counter = .ofNat n := by
  constructor
  · rintro ⟨data, written⟩
    have length := length_of_encode written
    obtain ⟨fits, fragment, counter, range, rfl, _⟩ := encode_eq_ok_iff.mp written
    rw [Number.not_below_iff isNumber, length, Nat.add_comm] at fits
    exact ⟨fits, counter, range, rfl⟩
  · rintro ⟨fits, counter, range, same⟩
    have stamped : packet = packet.toFragment.stamp counter := by
      rw [← same]
      rfl
    rw [stamped]
    exact ⟨_, encode_stamp range fits.not_below⟩

/-! ## What is read -/

/-- Bytes that are fewer than a header are no packet. -/
lemma decode_of_short (short : data.length < layout.headerBytes) :
    decode layout data = .error (.truncatedHeader layout.headerBytes data.length) :=
  if_pos short

/-- Bytes with a bit set that is reserved are no packet. -/
lemma decode_of_reserved (long : layout.headerBytes ≤ data.length) {i : Nat}
    (reserved : i < layout.reservedBits)
    (bit : (Bytes.ofBigEndian (data.take layout.headerBytes)).testBit i = true) :
    decode layout data = .error (.reservedBits layout.headerBytes
      (Bytes.ofBigEndian (data.take layout.headerBytes))) := by
  have spoilt : Bytes.ofBigEndian (data.take layout.headerBytes) % layout.reservedSpace ≠ 0 := by
    intro clear
    cases bit.symm.trans (layout.reserved_eq_zero_iff.mp clear i reserved)
  rw [decode, if_neg (Nat.not_lt.mpr long)]
  exact if_pos spoilt

/-- Bytes are read when they hold a header without reserved bits. -/
lemma exists_decode_iff : (∃ packet, decode layout data = .ok packet) ↔
    layout.headerBytes ≤ data.length ∧ ∀ i < layout.reservedBits,
      (Bytes.ofBigEndian (data.take layout.headerBytes)).testBit i = false := by
  constructor
  · rintro ⟨packet, decoded⟩
    have long : layout.headerBytes ≤ data.length := by
      by_contra short
      cases (decode_of_short (Nat.lt_of_not_le short)).symm.trans decoded
    refine ⟨long, fun i reserved => Bool.eq_false_iff.mpr fun bit => ?_⟩
    cases (decode_of_reserved long reserved bit).symm.trans decoded
  · rintro ⟨long, clear⟩
    obtain ⟨fragment, counter, range, rfl⟩ :=
      exists_wire long (layout.reserved_eq_zero_iff.mpr clear)
    exact ⟨_, decode_wire range⟩

/-! ## Both directions -/

/-- Encoding and decoding are inverse to each other between the packets that fit and the bytes that
hold a header without reserved bits. A packet is written exactly when header and payload fit and its
counter is a value of the layout; it is read back from what was written, and it is the only one that
is written so. Bytes are refused as too short, or for a reserved bit of a whole header. -/
theorem wire_bijection (layout : Layout) :
    (∀ (packet : Packet) (maxPacketSize : Number), maxPacketSize ≠ .nan →
      ((∃ data, packet.encode layout maxPacketSize = .ok data) ↔
        maxPacketSize.AtLeast (packet.payload.length + layout.headerBytes) ∧
          ∃ n < layout.counterSpace, packet.counter = .ofNat n)) ∧
      (∀ (packet : Packet) (maxPacketSize : Number) (data : Bytes), maxPacketSize ≠ .nan →
        packet.encode layout maxPacketSize = .ok data →
          data.length = layout.headerBytes + packet.payload.length ∧
            maxPacketSize.AtLeast data.length ∧ decode layout data = .ok packet) ∧
      (∀ data : Bytes, (∃ packet, decode layout data = .ok packet) ↔
        layout.headerBytes ≤ data.length ∧ ∀ i < layout.reservedBits,
          (Bytes.ofBigEndian (data.take layout.headerBytes)).testBit i = false) ∧
      (∀ data : Bytes, data.length < layout.headerBytes →
        decode layout data = .error (.truncatedHeader layout.headerBytes data.length)) ∧
      (∀ (data : Bytes) (i : Nat), layout.headerBytes ≤ data.length → i < layout.reservedBits →
        (Bytes.ofBigEndian (data.take layout.headerBytes)).testBit i = true →
          decode layout data = .error (.reservedBits layout.headerBytes
            (Bytes.ofBigEndian (data.take layout.headerBytes)))) ∧
      ∀ (data : Bytes) (packet : Packet) (maxPacketSize : Number),
        decode layout data = .ok packet → maxPacketSize.AtLeast data.length →
          packet.encode layout maxPacketSize = .ok data := by
  refine ⟨fun packet maxPacketSize isNumber => exists_encode_iff isNumber,
    fun packet maxPacketSize data isNumber written => ?_, fun data => exists_decode_iff,
    fun data short => decode_of_short short,
    fun data i long reserved bit => decode_of_reserved long reserved bit,
    fun data packet maxPacketSize decoded fits => ?_⟩
  · obtain ⟨fits, decoded⟩ := encode_iff_decode.mp written
    exact ⟨length_of_encode written, (Number.not_below_iff isNumber _).mp fits, decoded⟩
  · exact encode_iff_decode.mpr ⟨fits.not_below, decoded⟩

/-- The last packet of a control message with the counter 5 and two bytes of payload. -/
def trailer : Packet := ⟨⟨.control, false, true, [1, 2]⟩, 5⟩

/-- The last packet of a control message is written and read, and neither too few bytes nor a
reserved bit are. -/
theorem wire_bijection_trailer :
    (Number.ofNat 3) ≠ .nan ∧ trailer.encode .default 3 = .ok [0xb4, 1, 2] ∧
      decode .default [0xb4, 1, 2] = .ok trailer ∧ (Number.posInf).AtLeast 3 ∧
      trailer.encode .default .posInf = .ok [0xb4, 1, 2] ∧
      decode .default [] = .error (.truncatedHeader 1 0) ∧
      decode .default [0xb5, 1, 2] = .error (.reservedBits 1 0xb5) := by
  obtain ⟨_, written, _, short, reserved, rewritten⟩ := wire_bijection .default
  have encoded : trailer.encode .default 3 = .ok [0xb4, 1, 2] := by decide
  obtain ⟨_, _, decoded⟩ := written trailer 3 _ (by decide) encoded
  exact ⟨by decide, encoded, decoded, trivial, rewritten _ _ .posInf decoded trivial,
    short [] (by decide), reserved [0xb5, 1, 2] 0 (by decide) (by decide) (by decide)⟩

end Packet

end PacketLink
