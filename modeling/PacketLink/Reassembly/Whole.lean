import PacketLink.Reassembly.Reassembler

/-!
# Reassembly of a whole packet list

A list of packets that is exactly one message is turned back into its payload. Any other list is
refused with the first reason that a reassembler meets.
-/

namespace PacketLink

/-- Why a packet list is not exactly one message. -/
inductive ReassembleError where
  /-- The packet at `index` broke the framing. -/
  | framing (index : Nat) (error : FramingError)
  /-- A message ended `count` packets before the list did. -/
  | trailingPackets (count : Nat)
  /-- None of the `count` packets ended a message. -/
  | incomplete (count : Nat)
  deriving DecidableEq

def ReassembleError.message : ReassembleError → String
  | framing index error => s!"Packet {index} broke framing: {error.name}"
  | trailingPackets count => s!"{count} packets follow the last packet"
  | incomplete count => s!"No last packet among {count} packets"

/-- Feed the packets to `r`, the first of them being number `index` of the list. -/
def Reassembler.whole (r : Reassembler) (index : Nat) :
    List Packet → Except ReassembleError Bytes
  | [] => .error (.incomplete index)
  | packet :: rest =>
    match r.receive packet with
    | (next, .pending) => next.whole (index + 1) rest
    | (_, .complete data) =>
      if rest = [] then .ok data else .error (.trailingPackets rest.length)
    | (_, .error error _) => .error (.framing index error)

/-- The payload of the one message that a packet list is. -/
def reassemble (layout : Layout) (packets : List Packet) : Except ReassembleError Bytes :=
  (Reassembler.new layout defaultMaxMessageSize).whole 0 packets

end PacketLink
