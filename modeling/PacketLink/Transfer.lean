import PacketLink.Counter
import PacketLink.Fragmentation
import PacketLink.Packet.Codec
import PacketLink.Reassembly.Whole

/-!
# Transfer of message streams

Writing messages one after the other as the bytes of their packets, and feeding the bytes of packets
to a reassembler.
-/

namespace PacketLink

/-- The packets written so far, newest first, and the counter for the next one. -/
structure Wire where
  packets : List Bytes
  counter : Counter

namespace Wire

/-- Stamp a fragment with the next counter and write it. -/
def write (wire : Wire) (layout : Layout) (maxPacketSize : Number) (fragment : Fragment) :
    Except InvalidArgument Wire :=
  let (value, counter) := wire.counter.next
  match (fragment.stamp value).encode layout maxPacketSize with
  | .ok packet => .ok ⟨packet :: wire.packets, counter⟩
  | .error cause => .error cause

/-- Cut a message into fragments and write them. -/
def writeMessage (wire : Wire) (layout : Layout) (maxPacketSize : Number) (message : Message) :
    Except InvalidArgument Wire :=
  match layout.chunkSize maxPacketSize with
  | .ok size =>
    (message.fragments size).foldlM (fun wire fragment => wire.write layout maxPacketSize fragment)
      wire
  | .error cause => .error cause

end Wire

/-- The packets of a stream of messages, and the counter for the packet after them. -/
def transmit (layout : Layout) (maxPacketSize : Number) (counter : Counter)
    (messages : List Message) : Except InvalidArgument (List Bytes × Counter) :=
  match messages.foldlM (fun wire message => wire.writeMessage layout maxPacketSize message)
      (Wire.mk [] counter) with
  | .ok wire => .ok (wire.packets.reverse, wire.counter)
  | .error cause => .error cause

namespace Reassembler

/-- Process the bytes of several packets; the answers stand in front of those in `earlier`, which
are held newest first. -/
def receiveAfter (earlier : List Reception) (r : Reassembler) :
    List Bytes → Reassembler × List Reception
  | [] => (r, earlier.reverse)
  | data :: rest =>
    let answer := r.receiveBytes data
    receiveAfter (answer.2 :: earlier) answer.1 rest

/-- Process the bytes of several packets; one answer for each. -/
def receiveAll (r : Reassembler) (packets : List Bytes) : Reassembler × List Reception :=
  receiveAfter [] r packets

/-- The answers to earlier packets come first, in order. -/
theorem receiveAfter_eq (earlier : List Reception) (r : Reassembler) (packets : List Bytes) :
    receiveAfter earlier r packets =
      ((r.receiveAll packets).1, earlier.reverse ++ (r.receiveAll packets).2) := by
  unfold receiveAll
  induction packets generalizing earlier r with
  | nil => simp [receiveAfter]
  | cons data rest ih =>
    simp only [receiveAfter]
    rw [ih, ih [_]]
    simp

/-- Without packets nothing is received. -/
@[simp] theorem receiveAll_nil (r : Reassembler) : r.receiveAll [] = (r, []) := rfl

/-- One packet at a time. -/
theorem receiveAll_cons (r : Reassembler) (data : Bytes) (rest : List Bytes) :
    r.receiveAll (data :: rest) =
      (((r.receiveBytes data).1.receiveAll rest).1,
        (r.receiveBytes data).2 :: ((r.receiveBytes data).1.receiveAll rest).2) := by
  simp only [receiveAll, receiveAfter]
  rw [receiveAfter_eq]
  simp [receiveAll]

end Reassembler

end PacketLink
