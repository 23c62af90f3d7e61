import PacketLink.Reassembly.FramingError

/-!
# Reassembly of messages

A reassembler follows one inbound stream. It holds something only between a first packet and the
matching last packet. A framing error drops what it holds; a first packet in the middle of a
message also starts the next message.
-/

namespace PacketLink

/-- Most bytes of an inbound message, unless the caller sets another limit. -/
def defaultMaxMessageSize : Nat := 1024 * 1024

/-- What one packet led to. -/
inductive Reception where
  | pending
  | complete (data : Bytes)
  /-- A framing error; `data` is a message that the same packet began and ended. -/
  | error (error : FramingError) (data : Option Bytes)
  deriving DecidableEq

/-- A message of which some packets have arrived. -/
structure Progress where
  /-- The payloads so far, newest first. -/
  chunks : List Bytes
  receivedBytes : Nat
  /-- The counter that the next packet has to carry. -/
  expected : Number
  deriving DecidableEq

namespace Progress

/-- Nothing has arrived and any payload may come, with the counter of `packet`. -/
def beginWith (packet : Packet) : Progress := ⟨[], 0, packet.counter⟩

/-- The bytes held, in order of arrival. -/
def data (progress : Progress) : Bytes := progress.chunks.reverse.flatten

end Progress

/-- The state of one inbound stream. -/
structure Reassembler where
  layout : Layout
  /-- Most bytes of a message. -/
  maxMessageSize : Number
  progress : Option Progress

namespace Reassembler

/-- A reassembler with no message in progress. -/
def new (layout : Layout) (maxMessageSize : Number) : Reassembler := ⟨layout, maxMessageSize, none⟩

/-- Drop a message in progress. -/
def reset (r : Reassembler) : Reassembler := { r with progress := none }

def inProgress (r : Reassembler) : Bool := r.progress.isSome

/-- Number of payload bytes held. -/
def pendingBytes (r : Reassembler) : Nat := (r.progress.map (·.receivedBytes)).getD 0

/-- The counter that the next packet has to carry, if a message is in progress. -/
def expectedCounter (r : Reassembler) : Option Number := r.progress.map (·.expected)

/-- Add a packet to a message in progress. The counter is checked before the size. -/
def accept (r : Reassembler) (progress : Progress) (packet : Packet) : Reassembler × Reception :=
  let size := progress.receivedBytes + packet.payload.length
  if !packet.counter.same progress.expected then
    (r.reset, .error (.sequenceGap progress.expected packet.counter) none)
  else if r.maxMessageSize.below size then
    (r.reset, .error (.messageTooLarge r.maxMessageSize size) none)
  else
    let grown : Progress :=
      { chunks := packet.payload :: progress.chunks
        receivedBytes := size
        expected := (packet.counter.add 1).rem r.layout.counterSpace }
    if packet.isLast then (r.reset, .complete grown.data)
    else ({ r with progress := some grown }, .pending)

/-- What is reported when a message in progress was given up for the one that `outcome` is about. -/
def interrupted : Reception → Reception
  | .complete data => .error .unexpectedFirstPacket (some data)
  | _ => .error .unexpectedFirstPacket none

/-- Process one packet. -/
def receive (r : Reassembler) (packet : Packet) : Reassembler × Reception :=
  match packet.isFirst, r.progress with
  | true, none => r.accept (.beginWith packet) packet
  | true, some _ =>
    let (next, outcome) := r.accept (.beginWith packet) packet
    (next, interrupted outcome)
  | false, some progress => r.accept progress packet
  | false, none => (r, .error (.unexpectedContinuation packet.counter) none)

/-- Decode bytes and process the packet; bytes that are no packet drop a message in progress. -/
def receiveBytes (r : Reassembler) (data : Bytes) : Reassembler × Reception :=
  match Packet.decode r.layout data with
  | .ok packet => r.receive packet
  | .error cause => (r.reset, .error (.ofMalformed cause) none)

end Reassembler

end PacketLink
