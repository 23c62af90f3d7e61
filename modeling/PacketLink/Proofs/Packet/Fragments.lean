import PacketLink.Fragmentation
import PacketLink.Proofs.Number.Natural
import PacketLink.Proofs.Number.Quotient
import PacketLink.Proofs.Packet.Wire

/-!
# Fragments of a message

`Framed` says of a fragment list that it is one whole message: every fragment has the same kind, the
first one alone is flagged as first and the last one alone as last. `Message.framed_fragments` and
`Message.joined_fragments` say that cutting a message gives such a list, with nothing lost, and
`Message.length_fragments` that it has as many fragments as packets were counted.
`Message.encode_fragment` says that each of them can be written.
-/

namespace PacketLink

/-- The fragments of one whole message of a kind, in order. -/
structure Framed (kind : Kind) (fragments : List Fragment) : Prop where
  ne_nil : fragments ≠ []
  kind_eq : ∀ {i : Nat} {f : Fragment}, fragments[i]? = some f → f.kind = kind
  isFirst_eq : ∀ {i : Nat} {f : Fragment}, fragments[i]? = some f → f.isFirst = decide (i = 0)
  isLast_eq : ∀ {i : Nat} {f : Fragment},
    fragments[i]? = some f → f.isLast = decide (i + 1 = fragments.length)

/-- The payloads of fragments, one behind the other. -/
def joined (fragments : List Fragment) : Bytes := (fragments.map (·.payload)).flatten

/-- The number of payload bytes in fragments. -/
def totalLength (fragments : List Fragment) : Nat := (fragments.map (·.payload.length)).sum

/-- What is joined is as long as its parts. -/
@[simp] lemma length_joined (fragments : List Fragment) :
    (joined fragments).length = totalLength fragments := by
  induction fragments with
  | nil => rfl
  | cons f fragments ih => simpa [joined, totalLength] using ih

/-- The first fragments hold at most as many bytes as all of them. -/
lemma totalLength_take_le (fragments : List Fragment) (i : Nat) :
    totalLength (fragments.take i) ≤ totalLength fragments := by
  have whole : totalLength fragments =
      totalLength (fragments.take i) + totalLength (fragments.drop i) := by
    rw [totalLength, totalLength, totalLength, ← List.sum_append, ← List.map_append,
      List.take_append_drop]
  omega

/-- One more fragment behind the first ones. -/
lemma mapIdx_take_succ {α : Type} {fragments : List Fragment} {i : Nat} {f : Fragment}
    (get : fragments[i]? = some f) (g : Nat → Fragment → α) :
    (fragments.take (i + 1)).mapIdx g = (fragments.take i).mapIdx g ++ [g i f] := by
  obtain ⟨bound, _⟩ := List.getElem?_eq_some_iff.mp get
  rw [List.take_add_one, get, Option.toList_some, List.mapIdx_concat, List.length_take,
    Nat.min_eq_left (Nat.le_of_lt bound)]

namespace Framed

variable {kind : Kind} {fragments : List Fragment}

/-- A message has a first packet. -/
lemma length_pos (framed : Framed kind fragments) : 0 < fragments.length :=
  List.length_pos_iff.mpr framed.ne_nil

end Framed

section Slices

variable (size : ChunkSize)

/-- An empty payload is one slice, too. -/
lemma slices_ne_nil (payload : Bytes) : slices size payload ≠ [] := by
  rw [slices_eq]
  split <;> simp

/-- Induction over a payload, one slice at a time. -/
lemma slices_induction {motive : Bytes → Prop}
    (last : ∀ payload, payload.drop size.val = [] → motive payload)
    (more : ∀ payload, payload.drop size.val ≠ [] → motive (payload.drop size.val) →
      motive payload)
    (payload : Bytes) : motive payload := by
  induction bound : payload.length using Nat.strongRecOn generalizing payload with
  | ind n ih =>
    by_cases rest : payload.drop size.val = []
    · exact last payload rest
    · apply more payload rest
      have cut := List.length_pos_iff.mpr rest
      have := size.property
      exact ih _ (by rw [List.length_drop] at cut ⊢; omega) _ rfl

/-- The slices are the payload, in order. -/
@[simp] lemma flatten_slices (payload : Bytes) : (slices size payload).flatten = payload := by
  induction payload using slices_induction size with
  | last payload rest => simp [slices_eq size payload, rest]
  | more payload rest ih =>
    rw [slices_eq, if_neg rest, List.flatten_cons, ih, List.take_append_drop]

/-- No slice is larger than its packet allows. -/
lemma length_le_of_mem_slices {payload slice : Bytes} (h : slice ∈ slices size payload) :
    slice.length ≤ size.val := by
  induction payload using slices_induction size with
  | last payload rest =>
    rw [slices_eq, if_pos rest, List.mem_singleton] at h
    rw [h]
    exact List.drop_eq_nil_iff.mp rest
  | more payload rest ih =>
    rw [slices_eq, if_neg rest, List.mem_cons] at h
    cases h with
    | inl h =>
      rw [h, List.length_take]
      exact Nat.min_le_left _ _
    | inr h => exact ih h

/-- There are as many slices as packets were counted. -/
lemma length_slices (payload : Bytes) :
    (slices size payload).length = size.packetCount payload.length := by
  have pos := size.property
  induction payload using slices_induction size with
  | last payload rest =>
    have short : payload.length ≤ size.val := List.drop_eq_nil_iff.mp rest
    have one : (payload.length + size.val - 1) / size.val ≤ 1 := by
      rw [Nat.div_le_iff_le_mul_add_pred pos]
      omega
    rw [slices_eq, if_pos rest, ChunkSize.packetCount, Nat.max_eq_left one, List.length_singleton]
  | more payload rest ih =>
    -- without its first slice the payload has one packet less
    have long : size.val < payload.length :=
      Nat.lt_of_not_le fun short => rest (List.drop_eq_nil_iff.mpr short)
    have later : 0 < (payload.length - size.val + size.val - 1) / size.val :=
      Nat.div_pos (by omega) pos
    have step : payload.length + size.val - 1 =
        (payload.length - size.val + size.val - 1) + size.val := by omega
    rw [slices_eq, if_neg rest, List.length_cons, ih, List.length_drop, ChunkSize.packetCount,
      ChunkSize.packetCount, step, Nat.add_div_right _ pos]
    omega

end Slices

namespace Message

variable (message : Message) (size : ChunkSize)

/-- The packet in one place carries the slice there, and is first or last by its place. -/
lemma getElem?_fragments (i : Nat) :
    (message.fragments size)[i]? = ((slices size message.payload)[i]?).map fun payload =>
      { kind := message.kind, isFirst := i = 0,
        isLast := i + 1 = (slices size message.payload).length, payload } := by
  simp [fragments, ofSlices, Option.map]

/-- A message has as many packets as its length takes. -/
lemma length_fragments :
    (message.fragments size).length = size.packetCount message.payload.length := by
  simp [fragments, ofSlices, length_slices]

/-- Cutting a message gives a whole message. -/
lemma framed_fragments : Framed message.kind (message.fragments size) := by
  have count : (message.fragments size).length = (slices size message.payload).length := by
    simp [fragments, ofSlices]
  refine ⟨?_, ?_, ?_, ?_⟩
  · rw [← List.length_pos_iff, count, List.length_pos_iff]
    exact slices_ne_nil size message.payload
  all_goals
    intro i f h
    rw [getElem?_fragments, Option.map_eq_some_iff] at h
    obtain ⟨payload, _, rfl⟩ := h
    simp [count]

/-- The payloads of the fragments are the slices. -/
lemma map_payload_fragments :
    (message.fragments size).map (·.payload) = slices size message.payload := by
  apply List.ext_getElem?
  intro i
  rw [List.getElem?_map, getElem?_fragments, Option.map_map]
  simp [Function.comp_def]

/-- Cutting a message loses nothing. -/
@[simp] lemma joined_fragments : joined (message.fragments size) = message.payload := by
  rw [joined, map_payload_fragments, flatten_slices]

/-- A fragment holds at most as many bytes as a packet has room for. -/
lemma length_payload_le {i : Nat} {f : Fragment} (h : (message.fragments size)[i]? = some f) :
    f.payload.length ≤ size.val := by
  rw [getElem?_fragments, Option.map_eq_some_iff] at h
  obtain ⟨payload, slice, rfl⟩ := h
  exact length_le_of_mem_slices size (List.mem_of_getElem? slice)

end Message

/-! ## Counting packets -/

/-- Packets are counted with rounded numbers, and the count is exact all the same. -/
theorem ChunkSize.countPackets_ofNat (size : ChunkSize) {length : Nat}
    (short : length < Binary64.exactLimit) :
    size.countPackets (length : Nat) = (size.packetCount length : Nat) := by
  by_cases small : size.val ≤ Binary64.exactLimit
  · have number : size.number = .finite size.val := Number.ofRat_natCast small
    simp only [countPackets, number]
    rw [Number.ceilDiv_ofNat size.property short small]
    exact Number.max_ofNat 1 _
  · -- a chunk beyond the exact numbers is rounded, but not below any payload
    have large : Binary64.exactLimit < size.val := Nat.lt_of_not_le small
    have one : size.packetCount length = 1 := by
      have : (length + size.val - 1) / size.val < 2 :=
        (Nat.div_lt_iff_lt_mul size.property).mpr (by omega)
      unfold packetCount
      omega
    rw [one]
    cases number : size.number with
    | finite chunk =>
      have room : (length : ℚ) ≤ chunk :=
        le_trans (by exact_mod_cast short.le) (Number.exactLimit_le_ofRat large number)
      have pos : 0 < chunk :=
        lt_of_lt_of_le (by norm_num [Binary64.exactLimit]) (Number.exactLimit_le_ofRat large number)
      obtain ⟨r, parts, le⟩ := Number.ceilDiv_le_one pos room
      simp only [countPackets, number]
      rw [parts, Number.max_one_of_le le]
      rfl
    | _ => simp only [countPackets, number]; rfl

/-! ## Room for fragments -/

namespace Layout

variable {layout : Layout} {maxPacketSize : Number} {size : ChunkSize} {bytes : Int}

/-- A size that is no integer is refused. -/
lemma chunkSize_of_broken (broken : ¬maxPacketSize.IsInteger) :
    layout.chunkSize maxPacketSize = .error (.maxPacketSizeNotInteger maxPacketSize) := by
  have none : maxPacketSize.toInt? = none := by simpa [Number.IsInteger] using broken
  simp only [chunkSize, none]

/-- A size that leaves no room behind the header is refused. -/
lemma chunkSize_of_tight (tight : bytes ≤ layout.headerBytes) :
    layout.chunkSize (.ofInt bytes) =
      .error (.chunkSizeTooSmall (.ofInt bytes) layout.headerBytes) := by
  have none : ¬0 < (bytes - layout.headerBytes).toNat := by omega
  simp only [chunkSize, Number.toInt?_ofInt, dif_neg none]

/-- The room for payload is what the header leaves of an integer. -/
lemma chunkSize_ofInt (layout : Layout) (size : ChunkSize) :
    layout.chunkSize (.ofInt (layout.headerBytes + size.val)) = .ok size := by
  have left : (layout.headerBytes + size.val - layout.headerBytes : Int).toNat = size.val := by
    omega
  simp only [chunkSize, Number.toInt?_ofInt, left, dif_pos size.property]

/-- A packet size is no integer, or leaves no room behind the header, or leaves some. -/
lemma room_cases (layout : Layout) (maxPacketSize : Number) :
    ¬maxPacketSize.IsInteger ∨
      (∃ bytes : Int, maxPacketSize = .ofInt bytes ∧ bytes ≤ layout.headerBytes) ∨
      ∃ size : ChunkSize, maxPacketSize = .ofInt (layout.headerBytes + size.val) := by
  cases read : maxPacketSize.toInt? with
  | none => exact .inl (by simp [Number.IsInteger, read])
  | some bytes =>
    have integer := Number.eq_ofInt read
    obtain tight | room := le_or_gt bytes (layout.headerBytes : Int)
    · exact .inr (.inl ⟨bytes, integer, tight⟩)
    · refine .inr (.inr ⟨⟨(bytes - layout.headerBytes).toNat, by omega⟩, ?_⟩)
      rw [integer, Int.toNat_of_nonneg (by omega), add_sub_cancel]

/-- Every integer above the header size leaves room for payload. -/
lemma chunkSize_of_room (integer : maxPacketSize.toInt? = some bytes)
    (room : layout.headerBytes < bytes) :
    ∃ size, layout.chunkSize maxPacketSize = .ok size := by
  have pos : 0 < (bytes - layout.headerBytes).toNat := by omega
  exact ⟨⟨_, pos⟩, by simp only [chunkSize, integer, dif_pos pos]⟩

/-- A size that is accepted leaves the room behind the header. -/
lemma chunkSize_eq_ok (h : layout.chunkSize maxPacketSize = .ok size) :
    ∃ bytes, maxPacketSize.toInt? = some bytes ∧ (size.val : Int) = bytes - layout.headerBytes := by
  obtain broken | ⟨bytes, rfl, tight⟩ | ⟨other, rfl⟩ := layout.room_cases maxPacketSize
  · rw [chunkSize_of_broken broken] at h
    cases h
  · rw [chunkSize_of_tight tight] at h
    cases h
  · rw [chunkSize_ofInt] at h
    cases h
    exact ⟨_, Number.toInt?_ofInt _, by omega⟩

end Layout

variable {layout : Layout} {maxPacketSize : Number} {size : ChunkSize}

/-- A packet with a header and at most one chunk of payload fits. -/
lemma Layout.below_chunk (h : layout.chunkSize maxPacketSize = .ok size) {length : Nat}
    (short : length ≤ size.val) :
    maxPacketSize.below (length + layout.headerBytes : Nat) = false := by
  obtain ⟨bytes, integer, room⟩ := chunkSize_eq_ok h
  rw [Number.eq_ofInt integer, Number.below_ofInt_ofNat, decide_eq_false_iff_not]
  omega

/-- Every fragment of a message can be written with a counter value in range. -/
lemma Message.encode_fragment (h : layout.chunkSize maxPacketSize = .ok size)
    {message : Message} {i counter : Nat} {f : Fragment}
    (get : (message.fragments size)[i]? = some f) (range : counter < layout.counterSpace) :
    (f.stamp counter).encode layout maxPacketSize = .ok (f.wire layout counter) :=
  Packet.encode_stamp range (Layout.below_chunk h (message.length_payload_le size get))

end PacketLink
