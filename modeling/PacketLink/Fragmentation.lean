import PacketLink.Packet.Basic
import PacketLink.Packet.Layout

/-!
# Fragmentation of messages

A message is cut into slices of one fixed size, the last one possibly shorter; an empty message is
one empty slice. Slices become fragments by flagging the first and the last. Main statement:
`slices_eq` unfolds the cutting one slice at a time.
-/

namespace PacketLink

/-- Bytes for one of the two streams. -/
structure Message where
  kind : Kind
  payload : Bytes
  deriving DecidableEq, Inhabited

/-- Most packets that an outbound message may need, unless the caller sets another limit. -/
def defaultMaxPacketCount : Nat := 4096

/-- Number of payload bytes that a packet has room for; at least one. -/
abbrev ChunkSize := { n : Nat // 0 < n }

/-- The room that a packet of at most `maxPacketSize` bytes leaves after the header. -/
def Layout.chunkSize (layout : Layout) (maxPacketSize : Number) :
    Except InvalidArgument ChunkSize :=
  match maxPacketSize.toInt? with
  | none => .error (.maxPacketSizeNotInteger maxPacketSize)
  | some bytes =>
    if room : 0 < (bytes - layout.headerBytes).toNat then
      .ok ⟨(bytes - layout.headerBytes).toNat, room⟩
    else .error (.chunkSizeTooSmall maxPacketSize layout.headerBytes)

namespace ChunkSize

/-- The chunk size as a number that callers can calculate with. -/
def number (size : ChunkSize) : Number := .ofRat (size.val : Rat)

/-- Number of packets for a payload of so many bytes, which need not be a whole number. -/
def countPackets (size : ChunkSize) (payloadLength : Number) : Number :=
  match size.number with
  | .finite chunk => Number.max 1 (payloadLength.ceilDiv chunk)
  | _ => 1

/-- Number of packets for a payload of `length` bytes. -/
def packetCount (size : ChunkSize) (length : Nat) : Nat :=
  max 1 ((length + size.val - 1) / size.val)

end ChunkSize

/-- The slices of `payload`, behind the slices that `earlier` holds newest first. -/
def slicesAfter (size : ChunkSize) (earlier : List Bytes) (payload : Bytes) : List Bytes :=
  match _rest : payload.drop size.val with
  | [] => (payload :: earlier).reverse
  | b :: bs => slicesAfter size (payload.take size.val :: earlier) (b :: bs)
termination_by payload.length
decreasing_by
  have cut := congrArg List.length _rest
  have := size.property
  simp only [List.length_drop, List.length_cons] at cut
  simp only [List.length_cons]
  omega

/-- Cut a payload into slices of `size` bytes. -/
def slices (size : ChunkSize) (payload : Bytes) : List Bytes := slicesAfter size [] payload

/-- The slices that were cut earlier come first, in order. -/
theorem slicesAfter_eq (size : ChunkSize) (earlier : List Bytes) (payload : Bytes) :
    slicesAfter size earlier payload = earlier.reverse ++ slices size payload := by
  unfold slices
  induction bound : payload.length using Nat.strongRecOn generalizing earlier payload with
  | ind n ih =>
    rw [slicesAfter.eq_def size earlier, slicesAfter.eq_def size []]
    split
    · simp
    · rename_i b bs rest
      have shorter : (b :: bs).length < n := by
        have := size.property
        rw [← rest, List.length_drop, bound]
        have := congrArg List.length rest
        simp only [List.length_drop, List.length_cons] at this
        omega
      rw [ih _ shorter _ _ rfl, ih _ shorter [_] _ rfl]
      simp

/-- One slice at a time: the last slice is reached when nothing is left behind it. -/
theorem slices_eq (size : ChunkSize) (payload : Bytes) :
    slices size payload =
      if payload.drop size.val = [] then [payload]
      else payload.take size.val :: slices size (payload.drop size.val) := by
  rw [slices, slicesAfter]
  split
  · simp_all
  · rename_i b bs rest
    rw [slicesAfter_eq, rest]
    simp

namespace Message

/-- The slices of a message with the first and the last one flagged. -/
def ofSlices (kind : Kind) (payloads : List Bytes) : List Fragment :=
  let count := payloads.length
  payloads.mapIdx fun i payload => { kind, isFirst := i = 0, isLast := i + 1 = count, payload }

/-- Cut a message into fragments whose payloads have at most `size` bytes. -/
def fragments (message : Message) (size : ChunkSize) : List Fragment :=
  ofSlices message.kind (slices size message.payload)

end Message

end PacketLink
