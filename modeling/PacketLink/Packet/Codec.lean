import PacketLink.Packet.Basic
import PacketLink.Packet.Layout

/-!
# Wire form of packets

The header of a packet is one number: the kind, the first flag, the last flag and the counter above
the reserved bits. `Packet.encode` writes header and payload, `Packet.decode` reads them back and
refuses bytes that are too short or have a reserved bit set.
-/

namespace PacketLink

/-- Why bytes are no packet. -/
inductive Malformed where
  | truncatedHeader (expected got : Nat)
  | reservedBits (headerBytes header : Nat)
  deriving DecidableEq

namespace Malformed

/-- The two ways in which bytes fail to be a packet. -/
inductive Code where
  | truncatedHeader
  | reservedBits
  deriving DecidableEq

def Code.name : Code → String
  | .truncatedHeader => "truncated_header"
  | .reservedBits => "reserved_bits"

def code : Malformed → Code
  | truncatedHeader .. => .truncatedHeader
  | reservedBits .. => .reservedBits

def message : Malformed → String
  | truncatedHeader expected got =>
    s!"Packet too short: expected at least {expected} bytes, got {got}"
  | reservedBits headerBytes header =>
    s!"Reserved header bits set: 0x{hexText (2 * headerBytes) header}"

end Malformed

namespace Layout

variable (layout : Layout)

/-- The header of a fragment that carries the counter value `counter`. -/
def header (fragment : Fragment) (counter : Nat) : Nat :=
  let control := decide (fragment.kind = .control)
  let flags := control.toNat * 4 + fragment.isFirst.toNat * 2 + fragment.isLast.toNat
  (flags * layout.counterSpace + counter) * layout.reservedSpace

/-- The counter in a header. -/
def headerCounter (header : Nat) : Nat := header / layout.reservedSpace % layout.counterSpace

/-- The kind and the two flags in a header, as a number below eight. -/
def headerFlags (header : Nat) : Nat := header / layout.reservedSpace / layout.counterSpace

end Layout

namespace Packet

/-- Write a packet of at most `maxPacketSize` bytes; the size is checked before the counter. -/
def encode (layout : Layout) (maxPacketSize : Number) (packet : Packet) :
    Except InvalidArgument Bytes :=
  let size := packet.payload.length + layout.headerBytes
  if maxPacketSize.below size then
    .error (.payloadTooLarge size maxPacketSize)
  else
    match packet.counter.toNat? with
    | some counter =>
      if counter < layout.counterSpace then
        .ok (Bytes.bigEndian layout.headerBytes (layout.header packet.toFragment counter) ++
          packet.payload)
      else .error (.counterOutOfRange packet.counter layout.counterSpace)
    | none => .error (.counterOutOfRange packet.counter layout.counterSpace)

/-- Read a packet. -/
def decode (layout : Layout) (data : Bytes) : Except Malformed Packet :=
  if data.length < layout.headerBytes then
    .error (.truncatedHeader layout.headerBytes data.length)
  else
    let header := Bytes.ofBigEndian (data.take layout.headerBytes)
    if header % layout.reservedSpace ≠ 0 then
      .error (.reservedBits layout.headerBytes header)
    else
      let flags := layout.headerFlags header
      .ok {
        kind := if flags / 4 % 2 = 1 then .control else .data
        isFirst := flags / 2 % 2 = 1
        isLast := flags % 2 = 1
        payload := data.drop layout.headerBytes
        counter := layout.headerCounter header }

end Packet

end PacketLink
