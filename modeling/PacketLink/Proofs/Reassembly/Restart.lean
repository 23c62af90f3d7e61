import PacketLink.Proofs.Reassembly.Delivery

/-!
# Messages that are interrupted

A first packet that arrives while a message is in progress ends that message and should start the
next one. `Takes.interrupts_iff` says when the error of an interruption is reported, `Takes.starts`
what the packet has started then, and `Takes.of_overflows` what becomes of a packet that makes its
message larger than the limit. Main statement: `Reassembler.receive_restart`, by which an
interruption hides a packet that alone is too large.
-/

namespace PacketLink

namespace Reassembler

variable {r : Reassembler} {held : Progress} {packet : Packet} {next : Option Progress}
  {answer : Reception} {counter : Nat}

/-- No message is in progress when nothing is held. -/
lemma inProgress_eq_false : r.inProgress = false ↔ r.progress = none := by
  rw [inProgress, Option.isSome_eq_false_iff, Option.isNone_iff_eq_none]

/-- `packet` has started a message: either it is the whole of it and is handed out as `data`, or the
reassembler has it in progress, with nothing but the packet. -/
def Starts (r : Reassembler) (packet : Packet) (counter : Nat) (data : Option Bytes) : Prop :=
  if packet.isLast then data = some packet.payload ∧ r.inProgress = false
  else data = none ∧ r.inProgress = true ∧ r.pendingBytes = packet.payload.length ∧
    r.expectedCounter = some (.ofNat ((counter + 1) % r.layout.counterSpace))

/-- `packet` is the next one of a message that is then larger than the limit, with so many bytes. -/
def Overflows (r : Reassembler) (packet : Packet) (size : Nat) : Prop :=
  ∃ held ∈ r.basis packet, packet.counter.same held.expected = true ∧
    size = held.receivedBytes + packet.payload.length ∧ r.exceeds held packet = true

/-- A first packet that the limit allows starts a message. -/
lemma Accepts.starts (accepts : r.Accepts (.beginWith packet) packet next answer)
    (carries : packet.counter = .ofNat counter) (range : counter < r.layout.counterSpace)
    (fits : r.exceeds (.beginWith packet) packet = false) :
    Starts { r with progress := next } packet counter answer.data? := by
  cases accepts with
  | gap astray =>
    rw [carries, Progress.beginWith_eq carries] at astray
    simp [Progress.holding] at astray
  | tooLarge _ large =>
    rw [fits] at large
    cases large
  | whole _ _ last =>
    rw [Starts, if_pos last]
    exact ⟨rfl, rfl⟩
  | more _ _ unfinished =>
    rw [Starts, if_neg (by simp [unfinished])]
    refine ⟨rfl, rfl, Nat.zero_add _, ?_⟩
    exact congrArg some (packet.next_eq carries range)

/-- A packet that makes its message too large is dropped together with what is held. -/
lemma Accepts.of_exceeds (accepts : r.Accepts held packet next answer)
    (goesOn : packet.counter.same held.expected = true) (large : r.exceeds held packet = true) :
    next = none ∧ answer = .error (.messageTooLarge r.maxMessageSize
      (held.receivedBytes + packet.payload.length : Nat)) none := by
  cases accepts with
  | gap astray =>
    rw [goesOn] at astray
    cases astray
  | tooLarge => exact ⟨rfl, rfl⟩
  | whole _ fits _ | more _ fits _ =>
    rw [large] at fits
    cases fits

/-- Adding a packet is never answered with the error of an interruption. -/
lemma Accepts.ne_interruption (accepts : r.Accepts held packet next answer)
    (data : Option Bytes) : answer ≠ .error .unexpectedFirstPacket data := by
  cases accepts <;> simp

namespace Takes

variable {data : Option Bytes} {size : Nat}

/-- The error of an interruption is reported exactly when a first packet interrupts a message. -/
lemma interrupts_iff (takes : r.Takes packet next answer) :
    (∃ data, answer = .error .unexpectedFirstPacket data) ↔
      packet.isFirst = true ∧ r.inProgress = true := by
  cases takes with
  | begins idle _ accepts =>
    rw [inProgress_eq_false.mpr idle]
    simp [accepts.ne_interruption]
  | @restarts _ inner busy first _ =>
    refine iff_of_true ?_ ⟨first, busy⟩
    cases inner <;> exact ⟨_, rfl⟩
  | continues _ later accepts => simp [later, accepts.ne_interruption]
  | stray _ later => simp [later]

/-- A packet that interrupts a message has started the next one, if the limit allows it. -/
lemma starts (takes : r.Takes packet next answer)
    (interrupts : answer = .error .unexpectedFirstPacket data)
    (carries : packet.counter = .ofNat counter) (range : counter < r.layout.counterSpace) :
    if r.maxMessageSize.below packet.payload.length then data = none ∧ next = none
    else Starts { r with progress := next } packet counter data := by
  cases takes with
  | begins _ _ accepts | continues _ _ accepts =>
    exact absurd interrupts (accepts.ne_interruption _)
  | stray => cases interrupts
  | restarts busy first accepts =>
    -- the error hides how the packet was taken, but not the message
    have same := accepts.data?_interrupted
    rw [interrupts] at same
    have alone : r.exceeds (.beginWith packet) packet =
        r.maxMessageSize.below packet.payload.length := by
      rw [exceeds, Progress.beginWith, Nat.zero_add]
    split
    · rename_i large
      obtain ⟨dropped, rfl⟩ := accepts.of_exceeds (by simp [carries, Progress.beginWith])
        (alone.trans large)
      exact ⟨same, dropped⟩
    · rename_i fits
      have begun := accepts.starts carries range (alone.trans (Bool.eq_false_of_not_eq_true fits))
      rwa [← same] at begun

/-- A packet that makes its message too large leaves nothing behind. -/
lemma of_overflows (takes : r.Takes packet next answer) (overflows : r.Overflows packet size) :
    next = none ∧ answer =
      if packet.isFirst && r.inProgress then .error .unexpectedFirstPacket none
      else .error (.messageTooLarge r.maxMessageSize size) none := by
  obtain ⟨held, mem, goesOn, rfl, large⟩ := overflows
  cases takes with
  | begins idle first accepts =>
    rw [basis, if_pos first] at mem
    cases mem
    rw [inProgress_eq_false.mpr idle, Bool.and_false]
    exact accepts.of_exceeds goesOn large
  | restarts busy first accepts =>
    rw [basis, if_pos first] at mem
    cases mem
    obtain ⟨dropped, rfl⟩ := accepts.of_exceeds goesOn large
    rw [first, busy]
    exact ⟨dropped, rfl⟩
  | continues busy later accepts =>
    rw [basis, later, busy] at mem
    cases mem
    rw [later, Bool.false_and]
    exact accepts.of_exceeds goesOn large
  | stray idle later =>
    rw [basis, later, idle] at mem
    cases mem

end Takes

/-- The error of an interruption is reported exactly when a first packet finds a message in
progress. Then the packet has started the next message, unless it alone is larger than the limit: it
is dropped, and nothing tells so. Every other packet that makes its message too large is dropped
with the error that says so. -/
theorem receive_restart (r : Reassembler) {packet : Packet} {counter : Nat}
    (carries : packet.counter = .ofNat counter) (range : counter < r.layout.counterSpace) :
    ((∃ data, (r.receive packet).2 = .error .unexpectedFirstPacket data) ↔
      packet.isFirst = true ∧ r.inProgress = true) ∧
    (∀ data, (r.receive packet).2 = .error .unexpectedFirstPacket data →
      if r.maxMessageSize.below packet.payload.length then
        data = none ∧ (r.receive packet).1.inProgress = false
      else Starts (r.receive packet).1 packet counter data) ∧
    ∀ size, r.Overflows packet size →
      (r.receive packet).1.inProgress = false ∧
        (r.receive packet).2 =
          if packet.isFirst && r.inProgress then .error .unexpectedFirstPacket none
          else .error (.messageTooLarge r.maxMessageSize size) none := by
  have takes := r.takes_receive packet
  refine ⟨takes.interrupts_iff, fun data answer => ?_, fun size overflows => ?_⟩
  · rw [inProgress_eq_false, receive_fst]
    exact takes.starts answer carries range
  · rw [inProgress_eq_false]
    exact takes.of_overflows overflows

/-- The beginning of a message, with two bytes at most. -/
def interruptible : Reassembler :=
  (new .default 2).after [.receive ⟨⟨.data, true, false, [1]⟩, 6⟩]

/-- The next message starts with the last counter, so the first one follows. -/
theorem receive_restart_wrapping :
    let packet : Packet := ⟨⟨.data, true, false, [2]⟩, 7⟩
    (packet.counter = .ofNat 7 ∧ 7 < interruptible.layout.counterSpace) ∧
      (interruptible.receive packet).2 = .error .unexpectedFirstPacket none ∧
      Starts (interruptible.receive packet).1 packet 7 none := by
  intro packet
  have range : 7 < interruptible.layout.counterSpace := by decide
  have answer : (interruptible.receive packet).2 = .error .unexpectedFirstPacket none := by
    decide +kernel
  exact ⟨⟨rfl, range⟩, answer, (interruptible.receive_restart rfl range).2.1 none answer⟩

/-- A packet that alone is too large is reported as an interruption and not as too large, and it has
not started anything. -/
theorem receive_restart_oversize :
    let packet : Packet := ⟨⟨.data, true, false, [2, 3, 4]⟩, 7⟩
    interruptible.Overflows packet 3 ∧
      (interruptible.receive packet).2 = .error .unexpectedFirstPacket none ∧
      ¬Starts (interruptible.receive packet).1 packet 7 none :=
  ⟨⟨_, rfl, by decide +kernel, rfl, by decide +kernel⟩, by decide +kernel,
    fun starts => by cases starts.2.1⟩

end Reassembler

end PacketLink
