import PacketLink.Proofs.Number.Natural
import PacketLink.Proofs.Packet.Wire
import PacketLink.Reassembly.Reassembler

/-!
# What one packet does

What a reassembler makes of one packet, whatever it holds. `Accepts` has one case for each way in
which adding a packet to what is held can end, and `Takes` one for each state in which a reassembler
can be given a packet; both are about any counter. `accept_eq` is for counters in range.
`receive_eq` says what a packet is added to: nothing when it begins a message, and what the
reassembler holds otherwise. `data?_receive_iff` names the answers that carry a message.
-/

namespace PacketLink

/-- The message that an answer of a reassembler carries. -/
def Reception.data? : Reception → Option Bytes
  | .pending => none
  | .complete data => some data
  | .error _ data => data

/-- The counter that has to follow the one of `packet`. -/
def Packet.next (layout : Layout) (packet : Packet) : Number :=
  (packet.counter.add 1).rem layout.counterSpace

/-- The counter that has to follow is the next one, around the end of the range. -/
lemma Packet.next_eq {layout : Layout} {packet : Packet} {counter : Nat}
    (carries : packet.counter = .ofNat counter) (range : counter < layout.counterSpace) :
    packet.next layout = .ofNat ((counter + 1) % layout.counterSpace) := by
  rw [next, carries, Number.next_eq range layout.counterSpace_lt_exactLimit]

namespace Reassembler

/-- What is held once `packet` has been added. -/
def grown (r : Reassembler) (held : Progress) (packet : Packet) : Progress where
  chunks := packet.payload :: held.chunks
  receivedBytes := held.receivedBytes + packet.payload.length
  expected := packet.next r.layout

/-- With `packet`, the message that is held is larger than the limit. -/
def exceeds (r : Reassembler) (held : Progress) (packet : Packet) : Bool :=
  r.maxMessageSize.below (held.receivedBytes + packet.payload.length : Nat)

/-- What can become of a packet that is added to `held`: what is held afterwards, and the answer. -/
inductive Accepts (r : Reassembler) (held : Progress) (packet : Packet) :
    Option Progress → Reception → Prop
  | gap (astray : packet.counter.same held.expected = false) :
    Accepts r held packet none (.error (.sequenceGap held.expected packet.counter) none)
  | tooLarge (goesOn : packet.counter.same held.expected = true)
    (large : r.exceeds held packet = true) :
    Accepts r held packet none (.error (.messageTooLarge r.maxMessageSize
      (held.receivedBytes + packet.payload.length : Nat)) none)
  | whole (goesOn : packet.counter.same held.expected = true)
    (fits : r.exceeds held packet = false) (last : packet.isLast = true) :
    Accepts r held packet none (.complete (held.data ++ packet.payload))
  | more (goesOn : packet.counter.same held.expected = true)
    (fits : r.exceeds held packet = false) (unfinished : packet.isLast = false) :
    Accepts r held packet (some (r.grown held packet)) .pending

/-- What can become of a packet that is handed over. -/
inductive Takes (r : Reassembler) (packet : Packet) : Option Progress → Reception → Prop
  | begins {next : Option Progress} {answer : Reception} (idle : r.progress = none)
    (first : packet.isFirst = true) (accepts : r.Accepts (.beginWith packet) packet next answer) :
    Takes r packet next answer
  | restarts {next : Option Progress} {answer : Reception} (busy : r.inProgress = true)
    (first : packet.isFirst = true) (accepts : r.Accepts (.beginWith packet) packet next answer) :
    Takes r packet next (interrupted answer)
  | continues {held : Progress} {next : Option Progress} {answer : Reception}
    (busy : r.progress = some held) (later : packet.isFirst = false)
    (accepts : r.Accepts held packet next answer) : Takes r packet next answer
  | stray (idle : r.progress = none) (later : packet.isFirst = false) :
    Takes r packet none (.error (.unexpectedContinuation packet.counter) none)

variable {r : Reassembler} {held : Progress} {packet : Packet} {next : Option Progress}
  {answer : Reception}

/-- What a packet does to a message in progress is one of the cases. -/
lemma accepts_accept (r : Reassembler) (held : Progress) (packet : Packet) :
    r.Accepts held packet (r.accept held packet).1.progress (r.accept held packet).2 := by
  have data : Progress.data (r.grown held packet) = held.data ++ packet.payload := by
    simp [Progress.data, grown]
  unfold accept
  dsimp only
  split
  · rename_i astray
    exact .gap (by simpa using astray)
  · rename_i goesOn
    rw [Bool.not_eq_true', Bool.not_eq_false] at goesOn
    split
    · exact .tooLarge goesOn ‹_›
    · rename_i fits
      rw [Bool.not_eq_true] at fits
      split
      · exact data ▸ .whole goesOn fits ‹_›
      · rename_i unfinished
        exact .more goesOn fits (by simpa using unfinished)

/-- What a packet does to a reassembler is one of the cases. -/
lemma takes_receive (r : Reassembler) (packet : Packet) :
    r.Takes packet (r.receive packet).1.progress (r.receive packet).2 := by
  unfold receive
  split
  · exact .begins ‹_› ‹_› (r.accepts_accept ..)
  · rename_i first busy
    exact .restarts (by rw [inProgress, busy, Option.isSome_some]) first (r.accepts_accept ..)
  · exact .continues ‹_› ‹_› (r.accepts_accept ..)
  · rename_i later idle
    dsimp only
    rw [idle]
    exact .stray idle later

/-- An interruption changes the error of an answer, never its message. -/
lemma Accepts.data?_interrupted (accepts : r.Accepts held packet next answer) :
    (interrupted answer).data? = answer.data? := by
  cases accepts <;> rfl

variable {progress : Progress} {counter : Nat}

/-- Adding a packet that carries a counter value in range. -/
lemma accept_eq (carries : packet.counter = .ofNat counter)
    (range : counter < r.layout.counterSpace) :
    r.accept progress packet =
      if progress.expected ≠ .ofNat counter then
        (r.reset, .error (.sequenceGap progress.expected (.ofNat counter)) none)
      else if r.maxMessageSize.below (progress.receivedBytes + packet.payload.length : Nat) then
        (r.reset, .error (.messageTooLarge r.maxMessageSize
          (progress.receivedBytes + packet.payload.length : Nat)) none)
      else if packet.isLast then (r.reset, .complete (progress.data ++ packet.payload))
      else
        ({ r with
            progress := some
              { chunks := packet.payload :: progress.chunks
                receivedBytes := progress.receivedBytes + packet.payload.length
                expected := .ofNat ((counter + 1) % r.layout.counterSpace) } },
          .pending) := by
  have next := Number.next_eq range r.layout.counterSpace_lt_exactLimit
  have grown : Progress.data ⟨packet.payload :: progress.chunks,
      progress.receivedBytes + packet.payload.length,
      .ofNat ((counter + 1) % r.layout.counterSpace)⟩ = progress.data ++ packet.payload := by
    simp [Progress.data]
  have gap : (!(Number.ofNat counter).same progress.expected) = true ↔
      progress.expected ≠ .ofNat counter := by
    rw [Bool.not_eq_true', ← Bool.not_eq_true, Number.same_ofNat_iff]
  simp only [accept, carries, next, grown, gap]

/-- What a packet makes of what is held, when there is something to make of it. -/
lemma accept_iff (carries : packet.counter = .ofNat counter)
    (range : counter < r.layout.counterSpace) :
    (∀ next, (r.accept progress packet).1.progress = some next ↔
      progress.expected = .ofNat counter ∧ packet.isLast = false ∧
        r.maxMessageSize.below (progress.receivedBytes + packet.payload.length : Nat) = false ∧
        next = ⟨packet.payload :: progress.chunks,
          progress.receivedBytes + packet.payload.length,
          .ofNat ((counter + 1) % r.layout.counterSpace)⟩) ∧
    (∀ data, (r.accept progress packet).2.data? = some data ↔
      progress.expected = .ofNat counter ∧ packet.isLast = true ∧
        r.maxMessageSize.below (progress.receivedBytes + packet.payload.length : Nat) = false ∧
        data = progress.data ++ packet.payload) := by
  rw [accept_eq carries range]
  by_cases same : progress.expected = .ofNat counter
  · cases r.maxMessageSize.below (progress.receivedBytes + packet.payload.length : Nat) <;>
      cases packet.isLast <;> simp [same, reset, Reception.data?, eq_comm]
  · simp [same, reset, Reception.data?]

/-- Adding a packet changes what is held and nothing else. -/
lemma accept_fst (r : Reassembler) (progress : Progress) (packet : Packet) :
    (r.accept progress packet).1 =
      { r with progress := (r.accept progress packet).1.progress } := by
  unfold accept
  dsimp only
  split
  · rfl
  · split
    · rfl
    · split <;> rfl

/-- What a packet goes on with: nothing when it begins a message, and what is held else. -/
def basis (r : Reassembler) (packet : Packet) : Option Progress :=
  if packet.isFirst then some (.beginWith packet) else r.progress

/-- Adding a packet is never answered with an error and a message. -/
lemma accept_snd (r : Reassembler) (progress : Progress) (packet : Packet) :
    (r.accept progress packet).2 = .pending ∨
      (∃ data, (r.accept progress packet).2 = .complete data) ∨
      ∃ error, (r.accept progress packet).2 = .error error none := by
  have accepts := r.accepts_accept progress packet
  generalize (r.accept progress packet).1.progress = next at accepts
  generalize (r.accept progress packet).2 = answer at accepts ⊢
  cases accepts <;> simp

/-- A packet is added to what it goes on with, and dropped when there is no such thing. -/
lemma receive_eq (r : Reassembler) (packet : Packet) :
    (r.receive packet).1.progress =
        (r.basis packet).bind (fun progress => (r.accept progress packet).1.progress) ∧
      (r.receive packet).2.data? =
        (r.basis packet).bind fun progress => (r.accept progress packet).2.data? := by
  unfold receive basis
  cases packet.isFirst <;> cases held : r.progress
  · exact ⟨held, rfl⟩
  · exact ⟨rfl, rfl⟩
  · exact ⟨rfl, rfl⟩
  · exact ⟨rfl, (r.accepts_accept ..).data?_interrupted⟩

/-- A message comes with an error only when its packet interrupted another message. -/
lemma data?_receive_iff (r : Reassembler) (packet : Packet) (data : Bytes) :
    (r.receive packet).2.data? = some data ↔
      (r.receive packet).2 = .complete data ∨
        (r.receive packet).2 = .error .unexpectedFirstPacket (some data) := by
  unfold receive
  split
  · obtain answer | ⟨data, answer⟩ | ⟨error, answer⟩ := r.accept_snd (.beginWith packet) packet <;>
      simp [answer, Reception.data?]
  · obtain answer | ⟨data, answer⟩ | ⟨error, answer⟩ := r.accept_snd (.beginWith packet) packet <;>
      simp [answer, interrupted, Reception.data?]
  · rename_i progress _ _
    obtain answer | ⟨data, answer⟩ | ⟨error, answer⟩ := r.accept_snd progress packet <;>
      simp [answer, Reception.data?]
  · simp [Reception.data?]

/-- What a packet does to what is held changes nothing else. -/
lemma receive_fst (r : Reassembler) (packet : Packet) :
    (r.receive packet).1 = { r with progress := (r.receive packet).1.progress } := by
  unfold receive
  split
  · exact r.accept_fst _ packet
  · exact r.accept_fst _ packet
  · exact r.accept_fst _ packet
  · rfl

end Reassembler

end PacketLink
