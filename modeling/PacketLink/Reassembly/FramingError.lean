import PacketLink.Packet.Codec

/-!
# Framing errors

How a stream of packets fails to be a stream of messages.
-/

namespace PacketLink

/-- A violation of the order of packets within a stream. -/
inductive FramingError where
  /-- A first packet arrived while a message was in progress. -/
  | unexpectedFirstPacket
  /-- A packet that is not a first one arrived while no message was in progress. -/
  | unexpectedContinuation (counter : Number)
  | sequenceGap (expected actual : Number)
  | messageTooLarge (limit size : Number)
  /-- Bytes that are no packet; `reason` says why in words. -/
  | malformedPacket (code : Malformed.Code) (reason : String)
  deriving DecidableEq

namespace FramingError

/-- The short name of a framing error. -/
def name : FramingError → String
  | unexpectedFirstPacket => "unexpected_first_packet"
  | unexpectedContinuation _ => "unexpected_continuation"
  | sequenceGap .. => "sequence_gap"
  | messageTooLarge .. => "message_too_large"
  | malformedPacket .. => "malformed_packet"

/-- A framing error as a sentence for a log. -/
def describe : FramingError → String
  | unexpectedFirstPacket => "First packet received while a message was still in progress"
  | unexpectedContinuation counter =>
    s!"Continuation packet (counter {counter.text}) received with no message in progress"
  | sequenceGap expected actual => s!"Expected counter {expected.text}, got {actual.text}"
  | messageTooLarge limit size =>
    s!"Message of {size.text} bytes exceeds the limit of {limit.text}"
  | malformedPacket code reason => s!"Malformed packet ({code.name}): {reason}"

/-- The framing error that undecodable bytes cause. -/
def ofMalformed (cause : Malformed) : FramingError := malformedPacket cause.code cause.message

end FramingError

end PacketLink
