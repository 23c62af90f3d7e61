import PacketLink.Number.Numeral

/-!
# Invalid arguments

Why a header layout, a packet size, a payload or a counter is refused.
-/

namespace PacketLink

/-- The causes for which framing refuses an argument. -/
inductive InvalidArgument where
  /-- A header takes one or two bytes. -/
  | headerSize (got : Number)
  /-- The counter has at least one bit and leaves room for the flags. -/
  | counterWidth (most : Nat) (got : Number)
  /-- A packet with its header is larger than the link accepts. -/
  | payloadTooLarge (size : Nat) (limit : Number)
  /-- A counter is not a natural number below the number of counter values. -/
  | counterOutOfRange (counter : Number) (space : Nat)
  /-- Packet sizes are whole numbers. -/
  | maxPacketSizeNotInteger (got : Number)
  /-- The header leaves no room for payload. -/
  | chunkSizeTooSmall (maxPacketSize : Number) (headerBytes : Nat)
  deriving DecidableEq

def InvalidArgument.message : InvalidArgument → String
  | .headerSize got => s!"Header size must be 1 or 2 bytes, got {got.text}"
  | .counterWidth most got =>
    s!"Counter width must be between 1 and {most} bits, got {got.text}"
  | .payloadTooLarge size limit =>
    s!"Packet of {size} bytes exceeds max packet size {limit.text}"
  | .counterOutOfRange counter space => s!"Counter {counter.text} is outside [0, {space - 1}]"
  | .maxPacketSizeNotInteger got => s!"Max packet size must be an integer, got {got.text}"
  | .chunkSizeTooSmall maxPacketSize headerBytes =>
    s!"Max packet size {maxPacketSize.text} leaves no room for payload " ++
      s!"after a {headerBytes}-byte header"

end PacketLink
