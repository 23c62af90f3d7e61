import Mathlib.Algebra.Order.Floor.Semifield
import Mathlib.Data.Rat.Floor
import Mathlib.Order.Bounds.Basic
import PacketLink.Proofs.Write.Request

/-!
# What a message is cut into

`Cut` says of slices, without a rule for making them, that they are a payload in chunks: nothing is
lost, every slice but the last is full, and the last one is empty only when the payload is.
`cut_iff` says that a payload has exactly one such cut. `Partition` is the same for the fragments of
a message. Main statement: `Message.fragments_partition`, by which the fragments of a message, the
packets counted for it and the limit on them agree.
-/

namespace PacketLink

/-! ## Slices of a payload -/

/-- A payload in slices of `chunk` bytes, of which the last one may be shorter. -/
structure Cut (chunk : Nat) (payload : Bytes) (slices : List Bytes) : Prop where
  ne_nil : slices ≠ []
  flatten_eq : slices.flatten = payload
  full : ∀ slice ∈ slices.dropLast, slice.length = chunk
  last_le : ∀ slice ∈ slices.getLast?, slice.length ≤ chunk
  last_eq_nil_iff : ∀ slice ∈ slices.getLast?, slice = [] ↔ payload = []

namespace Cut

variable {chunk : Nat} {payload slice next : Bytes} {later : List Bytes}

/-- One slice is a cut of a payload that it is the whole of. -/
lemma singleton_iff : Cut chunk payload [slice] ↔ slice = payload ∧ payload.length ≤ chunk := by
  refine ⟨fun cut => ?_, fun ⟨same, short⟩ => ?_⟩
  · have same : slice = payload := by simpa using cut.flatten_eq
    exact ⟨same, same ▸ cut.last_le slice rfl⟩
  · subst same
    exact ⟨by simp, by simp, by simp, by simpa using short, by simp⟩

/-- A slice that is not the last one is full, and something is left behind it. -/
lemma cons_iff (pos : 0 < chunk) :
    Cut chunk payload (slice :: next :: later) ↔
      slice.length = chunk ∧ ∃ rest, rest ≠ [] ∧ payload = slice ++ rest ∧
        Cut chunk rest (next :: later) := by
  have last : (slice :: next :: later).getLast? = (next :: later).getLast? :=
    List.getLast?_cons_cons
  refine ⟨fun cut => ?_, fun ⟨full, rest, more, whole, cut⟩ => ?_⟩
  · have full : slice.length = chunk := cut.full slice (by simp)
    have whole : payload = slice ++ (next :: later).flatten := by
      rw [← cut.flatten_eq, List.flatten_cons]
    have some_ : payload ≠ [] := by
      rw [whole]
      exact List.append_ne_nil_of_left_ne_nil (List.length_pos_iff.mp (full ▸ pos)) _
    -- the last slice is one of those behind the first, so these are not all empty
    obtain ⟨final, final_eq⟩ : ∃ final, (next :: later).getLast? = some final :=
      ⟨_, List.getLast?_eq_some_getLast (by simp)⟩
    have final_ne : final ≠ [] := fun empty =>
      some_ ((cut.last_eq_nil_iff final (last ▸ final_eq)).mp empty)
    have more : (next :: later).flatten ≠ [] := fun none =>
      final_ne (List.flatten_eq_nil_iff.mp none final (List.mem_of_getLast? final_eq))
    refine ⟨full, _, more, whole, by simp, rfl, fun f mem => ?_, fun f mem => ?_, fun f mem => ?_⟩
    · exact cut.full f (by simpa using .inr mem)
    · exact cut.last_le f (last ▸ mem)
    · obtain rfl := Option.some.inj (final_eq.symm.trans mem)
      exact iff_of_false final_ne more
  · have some_ : payload ≠ [] := by
      rw [whole]
      exact List.append_ne_nil_of_right_ne_nil _ more
    refine ⟨by simp, ?_, fun f mem => ?_, fun f mem => ?_, fun f mem => ?_⟩
    · rw [List.flatten_cons, cut.flatten_eq, whole]
    · rw [List.dropLast_cons_cons, List.mem_cons] at mem
      cases mem with
      | inl mem => exact mem ▸ full
      | inr mem => exact cut.full f mem
    · exact cut.last_le f (last ▸ mem)
    · exact (cut.last_eq_nil_iff f (last ▸ mem)).trans (iff_of_false more some_)

end Cut

/-- A payload has exactly one cut, its slices. -/
lemma cut_iff (size : ChunkSize) {payload : Bytes} {payloads : List Bytes} :
    Cut size.val payload payloads ↔ payloads = slices size payload := by
  induction payloads generalizing payload with
  | nil => exact iff_of_false (fun cut => cut.ne_nil rfl) (slices_ne_nil size payload).symm
  | cons slice later ih =>
    cases later with
    | nil =>
      rw [Cut.singleton_iff, slices_eq]
      split
      · rename_i rest
        simpa using fun _ => List.drop_eq_nil_iff.mp rest
      · rename_i rest
        refine iff_of_false (fun ⟨_, short⟩ => rest (List.drop_eq_nil_iff.mpr short)) fun same => ?_
        exact slices_ne_nil size _ (List.cons.inj same).2.symm
    | cons next later =>
      rw [Cut.cons_iff size.property, slices_eq]
      split
      · rename_i rest
        refine iff_of_false ?_ (by simp)
        rintro ⟨full, behind, more, rfl, -⟩
        rw [← full, List.drop_left] at rest
        exact more rest
      · rename_i rest
        constructor
        · rintro ⟨full, behind, more, rfl, cut⟩
          rw [← full, List.take_left, List.drop_left, ih.mp cut]
        · intro same
          obtain ⟨taken, dropped⟩ := List.cons.inj same
          have long : size.val ≤ payload.length :=
            Nat.le_of_not_le fun short => rest (List.drop_eq_nil_iff.mpr short)
          refine ⟨?_, _, rest, ?_, ih.mpr dropped⟩
          · rw [taken, List.length_take, Nat.min_eq_left long]
          · rw [taken, List.take_append_drop]

/-! ## Fragments of a message -/

/-- A message in fragments of `chunk` bytes, of which the last one may be shorter. -/
structure Partition (chunk : Nat) (message : Message) (fragments : List Fragment) : Prop where
  framed : Framed message.kind fragments
  cut : Cut chunk message.payload (fragments.map (·.payload))

/-- The fragments of a whole message are its slices with the first and the last one flagged. -/
lemma Framed.eq_ofSlices {kind : Kind} {fragments : List Fragment}
    (framed : Framed kind fragments) :
    fragments = Message.ofSlices kind (fragments.map (·.payload)) := by
  apply List.ext_getElem?
  intro i
  rw [Message.ofSlices, List.getElem?_mapIdx, List.getElem?_map, List.length_map]
  cases get : fragments[i]? with
  | none => rfl
  | some f =>
    rw [Option.map_some, Option.map_some, ← framed.kind_eq get, ← framed.isFirst_eq get,
      ← framed.isLast_eq get]

namespace Message

variable (message : Message) (size : ChunkSize)

/-- A message has exactly one partition, its fragments. -/
lemma partition_iff {fragments : List Fragment} :
    Partition size.val message fragments ↔ fragments = message.fragments size := by
  refine ⟨fun partition => ?_, fun same => ?_⟩
  · rw [partition.framed.eq_ofSlices, (cut_iff size).mp partition.cut, Message.fragments]
  · subst same
    exact ⟨message.framed_fragments size, (cut_iff size).mpr (message.map_payload_fragments size)⟩

end Message

/-! ## Counted packets -/

namespace ChunkSize

variable (size : ChunkSize) {length : Nat}

/-- The counted packets are enough for a payload, and fewer are not. -/
lemma packetCount_le_iff {n : Nat} :
    size.packetCount length ≤ n ↔ 0 < n ∧ length ≤ n * size.val := by
  have pos := size.property
  rw [packetCount, Nat.max_le, Nat.div_le_iff_le_mul_add_pred pos, Nat.mul_comm]
  exact and_congr Iff.rfl (by omega)

/-- The number of packets is the length divided by what one carries, rounded up, and at least one.
-/
lemma packetCount_eq_ceil (length : Nat) :
    size.packetCount length = max 1 ⌈(length : ℚ) / size.val⌉₊ := by
  have pos : (0 : ℚ) < size.val := Nat.cast_pos.mpr size.property
  refine eq_of_forall_ge_iff fun n => ?_
  rw [packetCount_le_iff, max_le_iff, Nat.ceil_le, div_le_iff₀ pos]
  exact and_congr_right fun _ => by exact_mod_cast Iff.rfl

/-- No smaller number of packets can carry the message. -/
lemma isLeast_packetCount (length : Nat) :
    IsLeast {n | 0 < n ∧ length ≤ n * size.val} (size.packetCount length) :=
  ⟨size.packetCount_le_iff.mp le_rfl, fun _ enough => size.packetCount_le_iff.mpr enough⟩

end ChunkSize

/-- Once there is room for payload, a request is refused for the number of its packets only. -/
lemma WriteRequest.create_of_chunkSize {layout : Layout} {maxPacketSize : Number}
    {size : ChunkSize} (chunk : layout.chunkSize maxPacketSize = .ok size) (id : Nat)
    (maxPacketCount : Number) (signal : Option String) (message : Message) :
    create id layout maxPacketSize maxPacketCount signal message =
      if maxPacketCount.below (message.fragments size).length then
        .error (.tooManyPackets (message.fragments size).length maxPacketCount)
      else
        .ok
          { id, layout, maxPacketSize, signal, kind := message.kind,
            fragments := message.fragments size, status := .pending, sentCount := 0 } := by
  simp only [create, chunk, message.length_fragments]

/-- Where a packet has room for payload, a message has one partition into chunks of that room, its
fragments. There are as many of them as packets are counted for the message, which is the least
number of chunks that hold it, and a request for the message is refused exactly when that is more
than the limit. -/
theorem Message.fragments_partition (layout : Layout) (message : Message) {maxPacketSize : Number}
    {bytes : Int} (integer : maxPacketSize.toInt? = some bytes)
    (room : layout.headerBytes < bytes) :
    ∃ size : ChunkSize, layout.chunkSize maxPacketSize = .ok size ∧
      (size.val : Int) = bytes - layout.headerBytes ∧
      (∀ fragments, Partition size.val message fragments ↔ fragments = message.fragments size) ∧
      (message.payload.length < Binary64.exactLimit →
        size.countPackets (message.payload.length : Nat) =
          ((message.fragments size).length : Nat)) ∧
      (message.fragments size).length = max 1 ⌈(message.payload.length : ℚ) / size.val⌉₊ ∧
      IsLeast {n | 0 < n ∧ message.payload.length ≤ n * size.val}
        (message.fragments size).length ∧
      ∀ id maxPacketCount signal,
        (∀ error,
          WriteRequest.create id layout maxPacketSize maxPacketCount signal message =
              .error error ↔
            maxPacketCount.below (message.fragments size).length = true ∧
              error = .tooManyPackets (message.fragments size).length maxPacketCount) ∧
        (maxPacketCount.below (message.fragments size).length = false →
          ∃ request,
            WriteRequest.create id layout maxPacketSize maxPacketCount signal message =
                .ok request ∧
              request.fragments = message.fragments size) := by
  obtain ⟨size, chunk⟩ := Layout.chunkSize_of_room integer room
  have count := message.length_fragments size
  obtain ⟨_, same, val⟩ := Layout.chunkSize_eq_ok chunk
  obtain rfl := Option.some.inj (integer.symm.trans same)
  refine ⟨size, chunk, val, fun _ => message.partition_iff size,
    fun short => ?_, ?_, ?_, fun id maxPacketCount signal => ?_⟩
  · rw [size.countPackets_ofNat short, count]
  · rw [count, size.packetCount_eq_ceil]
  · rw [count]
    exact size.isLeast_packetCount _
  · rw [WriteRequest.create_of_chunkSize chunk]
    cases maxPacketCount.below (message.fragments size).length with
    | false => exact ⟨by simp, fun _ => ⟨_, rfl, rfl⟩⟩
    | true => exact ⟨fun error => by simp [eq_comm], fun within => by cases within⟩

/-- Five bytes in packets of three, one of them the header. -/
theorem Message.fragments_partition_odd :
    (3 : Number).toInt? = some 3 ∧ (Layout.default.headerBytes : Int) < 3 ∧
      ∃ size : ChunkSize, Layout.default.chunkSize 3 = .ok size ∧ (size.val : Int) = 3 - 1 ∧
        (∀ fragments, Partition size.val ⟨.data, [1, 2, 3, 4, 5]⟩ fragments ↔
          fragments = [⟨.data, true, false, [1, 2]⟩, ⟨.data, false, false, [3, 4]⟩,
            ⟨.data, false, true, [5]⟩]) := by
  have integer : (3 : Number).toInt? = some 3 := by decide +kernel
  have room : (Layout.default.headerBytes : Int) < 3 := by decide
  obtain ⟨size, chunk, two, partition, -⟩ :=
    Message.fragments_partition .default ⟨.data, [1, 2, 3, 4, 5]⟩ integer room
  refine ⟨integer, room, size, chunk, two, fun fragments => (partition fragments).trans ?_⟩
  have val : size.val = 2 := Int.ofNat_inj.mp two
  have size_eq : size = ⟨2, by decide⟩ := Subtype.ext val
  have cut : Message.fragments ⟨.data, [1, 2, 3, 4, 5]⟩ ⟨2, by decide⟩ =
      [⟨.data, true, false, [1, 2]⟩, ⟨.data, false, false, [3, 4]⟩,
        ⟨.data, false, true, [5]⟩] := by
    decide +kernel
  rw [size_eq, cut]

end PacketLink
