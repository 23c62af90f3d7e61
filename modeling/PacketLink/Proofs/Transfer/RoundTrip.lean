import Mathlib.Logic.Function.Iterate
import PacketLink.Proofs.Reassembly.Following
import PacketLink.Transfer

/-!
# Streams of messages arrive whole

Outbound and inbound framing compose to the identity on whole streams of messages. `transmit_eq`
names the packets that a stream of messages is written as, `receiveAll_wires` says what a
reassembler answers to the packets of one message. Main statement: `receiveAll_transmit`.
-/

namespace PacketLink

namespace Counter

/-- Drawing `n` values one after the other. -/
lemma iterate_next (counter : Counter) (n : Nat) :
    Nat.iterate (fun c => c.next.2) n counter = counter.advance n := by
  induction n generalizing counter with
  | zero => rw [Function.iterate_zero_apply, advance_zero]
  | succ n ih => rw [Function.iterate_succ_apply, ih, next, advance_advance, Nat.add_comm]

end Counter

/-- The bytes of fragments that carry successive counter values from `counter` on. -/
def wires (layout : Layout) (counter : Nat) : List Fragment → List Bytes
  | [] => []
  | f :: fragments =>
    f.wire layout (counter % layout.counterSpace) :: wires layout (counter + 1) fragments

/-- Only the remainder of the first counter value matters. -/
@[simp] lemma wires_mod (layout : Layout) (counter : Nat) (fragments : List Fragment) :
    wires layout (counter % layout.counterSpace) fragments = wires layout counter fragments := by
  induction fragments generalizing counter with
  | nil => rfl
  | cons f fragments ih =>
    rw [wires, wires, Nat.mod_mod, ← ih (counter % layout.counterSpace + 1), Nat.mod_add_mod, ih]

/-- The bytes of all packets of messages, with successive counter values from `counter` on. -/
def messageWires (layout : Layout) (size : ChunkSize) (counter : Nat) : List Message → List Bytes
  | [] => []
  | message :: messages =>
    wires layout counter (message.fragments size) ++
      messageWires layout size (counter + (message.fragments size).length) messages

/-- Counters that are the same around the range lead to the same bytes. -/
@[simp] lemma messageWires_mod (layout : Layout) (size : ChunkSize) (counter : Nat)
    (messages : List Message) :
    messageWires layout size (counter % layout.counterSpace) messages =
      messageWires layout size counter messages := by
  induction messages generalizing counter with
  | nil => rfl
  | cons message messages ih =>
    rw [messageWires, messageWires, wires_mod, ← ih (counter % layout.counterSpace + _),
      Nat.mod_add_mod, ih]

/-- The number of packets that messages take. -/
def packetTotal (size : ChunkSize) (messages : List Message) : Nat :=
  (messages.map fun message => (message.fragments size).length).sum

/-! ## Writing -/

namespace Wire

variable {layout : Layout} {maxPacketSize : Number} {size : ChunkSize} {wire : Wire}

/-- Writing fragments that fit puts their bytes behind those written before. -/
lemma foldlM_write {fragments : List Fragment}
    (fits : ∀ f ∈ fragments, ∀ v < layout.counterSpace,
      (f.stamp v).encode layout maxPacketSize = .ok (f.wire layout v))
    (space : wire.counter.space = layout.counterSpace) :
    fragments.foldlM (fun wire f => wire.write layout maxPacketSize f) wire =
      .ok ⟨(wires layout wire.counter.value fragments).reverse ++ wire.packets,
        wire.counter.advance fragments.length⟩ := by
  induction fragments generalizing wire with
  | nil => simp [wires, pure, Except.pure]
  | cons f fragments ih =>
    have range : wire.counter.value < layout.counterSpace := space ▸ wire.counter.value_lt
    have written : wire.write layout maxPacketSize f =
        .ok ⟨f.wire layout wire.counter.value :: wire.packets, wire.counter.advance 1⟩ := by
      simp [write, Counter.next, fits f List.mem_cons_self _ range]
    have value :
        (wire.counter.advance 1).value = (wire.counter.value + 1) % layout.counterSpace := by
      rw [Counter.value_advance, space]
    rw [List.foldlM_cons, written]
    change fragments.foldlM _ _ = _
    rw [@ih ⟨f.wire layout wire.counter.value :: wire.packets, wire.counter.advance 1⟩
      (fun g hg => fits g (List.mem_cons_of_mem f hg)) space, value, wires_mod, wires,
      Nat.mod_eq_of_lt range, Counter.advance_advance, List.length_cons, Nat.add_comm 1]
    simp

/-- Writing a message puts the bytes of its packets behind those written before. -/
lemma writeMessage_eq (chunk : layout.chunkSize maxPacketSize = .ok size)
    (space : wire.counter.space = layout.counterSpace) (message : Message) :
    wire.writeMessage layout maxPacketSize message =
      .ok ⟨(wires layout wire.counter.value (message.fragments size)).reverse ++ wire.packets,
        wire.counter.advance (message.fragments size).length⟩ := by
  rw [writeMessage, chunk]
  refine foldlM_write (fun f hf v range => ?_) space
  obtain ⟨i, get⟩ := List.mem_iff_getElem?.mp hf
  exact Message.encode_fragment chunk get range

/-- Writing several messages puts the bytes of all their packets behind those written before. -/
lemma foldlM_writeMessage (chunk : layout.chunkSize maxPacketSize = .ok size)
    (space : wire.counter.space = layout.counterSpace) (messages : List Message) :
    messages.foldlM (fun wire message => wire.writeMessage layout maxPacketSize message) wire =
      .ok ⟨(messageWires layout size wire.counter.value messages).reverse ++ wire.packets,
        wire.counter.advance (packetTotal size messages)⟩ := by
  induction messages generalizing wire with
  | nil => simp [messageWires, packetTotal, pure, Except.pure]
  | cons message messages ih =>
    have value : (wire.counter.advance (message.fragments size).length).value =
        (wire.counter.value + (message.fragments size).length) % layout.counterSpace := by
      rw [Counter.value_advance, space]
    rw [List.foldlM_cons, writeMessage_eq chunk space]
    change messages.foldlM _ _ = _
    rw [@ih ⟨(wires layout wire.counter.value (message.fragments size)).reverse ++ wire.packets,
        wire.counter.advance (message.fragments size).length⟩ space, value, messageWires_mod,
      messageWires, Counter.advance_advance]
    simp [packetTotal]

end Wire

/-- The packets of a stream of messages, and the counter behind them. -/
lemma transmit_eq {layout : Layout} {maxPacketSize : Number} {size : ChunkSize} {counter : Counter}
    (chunk : layout.chunkSize maxPacketSize = .ok size)
    (space : counter.space = layout.counterSpace) (messages : List Message) :
    transmit layout maxPacketSize counter messages =
      .ok (messageWires layout size counter.value messages,
        counter.advance (packetTotal size messages)) := by
  rw [transmit, Wire.foldlM_writeMessage chunk space]
  simp

/-! ## Receiving -/

/-- What a reassembler answers to the packets of one message, in order. -/
def Message.answers (size : ChunkSize) (message : Message) : List Reception :=
  List.replicate ((message.fragments size).length - 1) .pending ++ [.complete message.payload]

namespace Reassembler

variable {r : Reassembler} {kind : Kind}

/-- Packets are received in two parts, one after the other. -/
lemma receiveAll_append (r : Reassembler) (front rest : List Bytes) :
    r.receiveAll (front ++ rest) =
      (((r.receiveAll front).1.receiveAll rest).1,
        (r.receiveAll front).2 ++ ((r.receiveAll front).1.receiveAll rest).2) := by
  induction front generalizing r with
  | nil => simp
  | cons data front ih => simp only [List.cons_append, receiveAll_cons, ih]

/-- The rest of a message of which some fragments have been followed. -/
lemma receiveAll_wires_rest (arrived rest : List Fragment) (counter : Nat)
    (framed : Framed kind (arrived ++ rest)) (more : rest ≠ [])
    (fits : r.maxMessageSize.below (totalLength (arrived ++ rest) : Nat) = false)
    (held : r.progress =
      if arrived = [] then none
      else some (.awaiting (arrived ++ rest) arrived.length (counter % r.layout.counterSpace))) :
    r.receiveAll (wires r.layout counter rest) =
      (r.reset,
        List.replicate (rest.length - 1) .pending ++ [.complete (joined (arrived ++ rest))]) := by
  -- on the fragments to come: what has arrived moves from one list to the other
  induction rest generalizing arrived counter r with
  | nil => exact absurd rfl more
  | cons f rest ih =>
    have range := Nat.mod_lt counter r.layout.counterSpace_pos
    have get : (arrived ++ f :: rest)[arrived.length]? = some f := by simp
    have small := Number.not_below_of_le (totalLength_take_le _ (arrived.length + 1)) fits
    have step : r.receiveBytes (f.wire r.layout (counter % r.layout.counterSpace)) =
        r.accept (.awaiting (arrived ++ f :: rest) arrived.length
          (counter % r.layout.counterSpace)) (f.stamp (counter % r.layout.counterSpace : Nat)) := by
      rw [receiveBytes, Packet.decode_wire range]
      cases arrived with
      | nil => exact (receive_first framed get).trans (if_neg (by simp [held]))
      | cons g arrived => exact receive_later framed get (by simp) (by simpa using held)
    rw [accept_awaiting framed get range, small] at step
    rw [wires, receiveAll_cons, step]
    cases rest with
    | nil => simp [wires]
    | cons g rest =>
      rw [List.append_cons] at framed fits ⊢
      have later := ih (r := { r with progress := some (.awaiting ((arrived ++ [f]) ++ g :: rest)
          (arrived.length + 1) ((counter + 1) % r.layout.counterSpace)) })
        (arrived ++ [f]) (counter + 1) framed (by simp) fits (by simp)
      simp only [← List.append_cons, reset, List.length_cons, Nat.add_sub_cancel] at later
      simp [later, reset, List.replicate_succ]

/-- The packets of one message, received with nothing held before. -/
lemma receiveAll_wires {size : ChunkSize} {message : Message} {counter : Nat}
    (fits : r.maxMessageSize.below message.payload.length = false) (idle : r.progress = none) :
    r.receiveAll (wires r.layout counter (message.fragments size)) = (r, message.answers size) := by
  have framed := message.framed_fragments size
  have total : totalLength (message.fragments size) = message.payload.length := by
    rw [← length_joined, Message.joined_fragments]
  rw [← total] at fits
  have same : r.reset = r := by
    rw [reset, ← idle]
  rw [receiveAll_wires_rest [] (message.fragments size) counter framed framed.ne_nil fits idle,
    same, Message.answers, List.nil_append, Message.joined_fragments]

/-- The packets of several messages, received with nothing held before. -/
lemma receiveAll_messageWires {size : ChunkSize} {messages : List Message} {counter : Nat}
    (fits : ∀ m ∈ messages, r.maxMessageSize.below m.payload.length = false)
    (idle : r.progress = none) :
    r.receiveAll (messageWires r.layout size counter messages) =
      (r, messages.flatMap (·.answers size)) := by
  induction messages generalizing counter with
  | nil => simp [messageWires]
  | cons message messages ih =>
    rw [messageWires, receiveAll_append, receiveAll_wires (fits message List.mem_cons_self) idle,
      ih fun m hm => fits m (List.mem_cons_of_mem message hm)]
    simp

end Reassembler

/-- Writing messages with a counter from which values have been drawn before, and giving all their
bytes to a new reassembler, answers every message of `n` packets with `n - 1` times pending and then
the payload of the message. Nothing is held afterwards, and the counter has moved on by one for each
packet. -/
theorem receiveAll_transmit (layout : Layout) (maxPacketSize maxMessageSize : Number) {bytes : Int}
    (integer : maxPacketSize.toInt? = some bytes) (room : layout.headerBytes < bytes)
    (skipped : Nat) (messages : List Message)
    (fits : ∀ m ∈ messages, maxMessageSize.below m.payload.length = false) :
    ∃ size packets counter,
      layout.chunkSize maxPacketSize = .ok size ∧
      transmit layout maxPacketSize (Nat.iterate (fun c => c.next.2) skipped (.start layout))
        messages = .ok (packets, counter) ∧
      (Reassembler.new layout maxMessageSize).receiveAll packets =
        (Reassembler.new layout maxMessageSize, messages.flatMap fun m =>
          List.replicate ((m.fragments size).length - 1) .pending ++ [.complete m.payload]) ∧
      counter.value =
        (skipped + (messages.map fun m => (m.fragments size).length).sum) %
          layout.counterSpace := by
  obtain ⟨size, chunk⟩ := Layout.chunkSize_of_room integer room
  let counter := (Counter.start layout).advance skipped
  refine ⟨size, messageWires layout size counter.value messages,
    counter.advance (packetTotal size messages), chunk, ?_, ?_, ?_⟩
  · rw [Counter.iterate_next]
    exact transmit_eq chunk rfl messages
  · exact Reassembler.receiveAll_messageWires (r := .new layout maxMessageSize) fits rfl
  · simp [counter, Counter.start, packetTotal]

/-- Three messages of three, one and one packets, the counter wrapping around inside the first. -/
theorem receiveAll_transmit_wrapping :
    (3 : Number).toInt? = some 3 ∧ (Layout.default.headerBytes : Int) < 3 ∧
    (∀ m ∈ [Message.mk .data [1, 2, 3, 4, 5], ⟨.control, []⟩, ⟨.data, [6]⟩],
      (5 : Number).below m.payload.length = false) ∧
    ∃ size packets counter,
      Layout.default.chunkSize 3 = .ok size ∧
      transmit .default 3 (Nat.iterate (fun c => c.next.2) 6 (.start .default))
        [⟨.data, [1, 2, 3, 4, 5]⟩, ⟨.control, []⟩, ⟨.data, [6]⟩] = .ok (packets, counter) ∧
      (Reassembler.new .default 5).receiveAll packets =
        (Reassembler.new .default 5,
          [Message.mk .data [1, 2, 3, 4, 5], ⟨.control, []⟩, ⟨.data, [6]⟩].flatMap fun m =>
            List.replicate ((m.fragments size).length - 1) .pending ++ [.complete m.payload]) ∧
      counter.value = (6 + ([Message.mk .data [1, 2, 3, 4, 5], ⟨.control, []⟩, ⟨.data, [6]⟩].map
        fun m => (m.fragments size).length).sum) % Layout.default.counterSpace := by
  have integer : (3 : Number).toInt? = some 3 := by decide
  have room : (Layout.default.headerBytes : Int) < 3 := by decide
  have fits : ∀ m ∈ [Message.mk .data [1, 2, 3, 4, 5], ⟨.control, []⟩, ⟨.data, [6]⟩],
      (5 : Number).below m.payload.length = false := by decide
  exact ⟨integer, room, fits, receiveAll_transmit .default 3 5 integer room 6 _ fits⟩

end PacketLink
