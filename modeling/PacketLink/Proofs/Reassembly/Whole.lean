import PacketLink.Proofs.Reassembly.Delivery
import PacketLink.Reassembly.Whole

/-!
# The four ends of a packet list

A list of packets is read as far as it is an open run, that is nothing or the beginning of one
message. What stops the reading is the end of the list, the end of the message, or a packet that
breaks the framing: `Continues` says when a packet goes on with an open run, and `Breaks` names the
error of one that does not. `Ending` puts the four ends side by side. Main statement:
`reassemble_spec`, by which every list has one of them and reassembly answers with that one.
-/

namespace PacketLink

/-- Nothing, or the beginning of one message. -/
def OpenRun (layout : Layout) (packets : List Packet) : Prop :=
  packets = [] ∨ Segment layout defaultMaxMessageSize false packets

/-- The packets of exactly one message. -/
def IsMessage (layout : Layout) (packets : List Packet) : Prop :=
  Segment layout defaultMaxMessageSize true packets

/-- A packet carries a counter value of the layout. -/
def Packet.InRange (layout : Layout) (packet : Packet) : Prop :=
  ∃ n < layout.counterSpace, packet.counter = .ofNat n

/-- Whether the counter of a packet is in range can be decided. -/
instance (layout : Layout) (packet : Packet) : Decidable (packet.InRange layout) :=
  inferInstanceAs (Decidable (∃ n < layout.counterSpace, packet.counter = .ofNat n))

/-- A packet is the next one of an open run, unless it is too large. -/
def Continues (layout : Layout) (run : List Packet) (packet : Packet) : Prop :=
  match run.getLast? with
  | none => packet.isFirst = true
  | some last => packet.isFirst = false ∧ last.Precedes layout packet

/-- The error of a packet that does not make an open run longer. -/
inductive Breaks (layout : Layout) (run : List Packet) (packet : Packet) : FramingError → Prop
  | interruption (more : run ≠ []) (first : packet.isFirst = true) :
    Breaks layout run packet .unexpectedFirstPacket
  | stray (empty : run = []) (later : packet.isFirst = false) :
    Breaks layout run packet (.unexpectedContinuation packet.counter)
  | gap {last : Packet} {n : Nat} (ends : run.getLast? = some last)
    (later : packet.isFirst = false) (counted : last.counter = .ofNat n)
    (missed : packet.counter ≠ .ofNat ((n + 1) % layout.counterSpace)) :
    Breaks layout run packet
      (.sequenceGap (.ofNat ((n + 1) % layout.counterSpace)) packet.counter)
  | overflow (continues : Continues layout run packet)
    (large : defaultMaxMessageSize < (content (run ++ [packet])).length) :
    Breaks layout run packet
      (.messageTooLarge defaultMaxMessageSize (content (run ++ [packet])).length)

/-- What stops the reading of a packet list, and the answer that stands for it. -/
inductive Ending (layout : Layout) : List Packet → Except ReassembleError Bytes → Prop
  | message {packets : List Packet} (message : IsMessage layout packets) :
    Ending layout packets (.ok (content packets))
  | trailing {packets rest : List Packet} (message : IsMessage layout packets)
    (more : rest ≠ []) : Ending layout (packets ++ rest) (.error (.trailingPackets rest.length))
  | incomplete {packets : List Packet} (openRun : OpenRun layout packets) :
    Ending layout packets (.error (.incomplete packets.length))
  | framing {run rest : List Packet} {packet : Packet} {error : FramingError}
    (openRun : OpenRun layout run) (breaks : Breaks layout run packet error) :
    Ending layout (run ++ packet :: rest) (.error (.framing run.length error))

variable {layout : Layout} {run packets : List Packet} {packet : Packet} {error : FramingError}

/-- The limit for messages compares as a natural number. -/
lemma below_defaultMaxMessageSize (n : Nat) :
    Number.below (defaultMaxMessageSize : Nat) (n : Nat) = decide (defaultMaxMessageSize < n) :=
  Number.below_ofNat ..

/-! ## One more packet of a run -/

/-- At the beginning only a first packet continues. -/
@[simp] lemma continues_nil : Continues layout [] packet ↔ packet.isFirst = true := Iff.rfl

/-- Behind a packet only one that follows it continues. -/
@[simp] lemma continues_snoc {before : List Packet} {last : Packet} :
    Continues layout (before ++ [last]) packet ↔
      packet.isFirst = false ∧ last.Precedes layout packet := by
  rw [Continues, List.getLast?_concat]

namespace OpenRun

/-- A packet makes a run longer when it goes on with it and the message is not too large then. -/
lemma segment_snoc_iff (openRun : OpenRun layout run) {whole : Bool} :
    Segment layout defaultMaxMessageSize whole (run ++ [packet]) ↔
      Continues layout run packet ∧ packet.isLast = whole ∧
        (content (run ++ [packet])).length ≤ defaultMaxMessageSize := by
  obtain rfl | ⟨before, last, rfl⟩ := List.eq_nil_or_concat' run
  · rw [List.nil_append, Segment.singleton_iff, content_singleton, below_defaultMaxMessageSize,
      decide_eq_false_iff_not, Nat.not_lt, continues_nil]
  · have begun := openRun.resolve_left (by simp)
    rw [Segment.snoc_iff, below_defaultMaxMessageSize, decide_eq_false_iff_not, Nat.not_lt,
      continues_snoc]
    tauto

/-- Without its last packet an open run is one, and so is a message. -/
lemma of_segment {whole : Bool}
    (segment : Segment layout defaultMaxMessageSize whole (run ++ [packet])) :
    OpenRun layout run := by
  obtain rfl | ⟨before, last, rfl⟩ := List.eq_nil_or_concat' run
  · exact .inl rfl
  · exact .inr (Segment.snoc_iff.mp segment).1

/-- The beginning of an open run is one. -/
lemma of_append {later : List Packet} (openRun : OpenRun layout (run ++ later)) :
    OpenRun layout run := by
  induction later using List.reverseRec with
  | nil => rwa [List.append_nil] at openRun
  | append_singleton later packet ih =>
    rw [← List.append_assoc] at openRun
    exact ih (of_segment (openRun.resolve_left (by simp)))

/-- An open run goes on with a packet that follows, fits and is not the last. -/
lemma snoc_iff (openRun : OpenRun layout run) :
    OpenRun layout (run ++ [packet]) ↔
      Continues layout run packet ∧ packet.isLast = false ∧
        (content (run ++ [packet])).length ≤ defaultMaxMessageSize := by
  rw [OpenRun, or_iff_right (by simp), openRun.segment_snoc_iff]

end OpenRun

/-- A packet that does not go on with an open run breaks the framing. -/
lemma exists_breaks (range : ∀ p ∈ run, p.InRange layout)
    (wrong : ¬Continues layout run packet) : ∃ error, Breaks layout run packet error := by
  cases ends : run.getLast? with
  | none =>
    rw [Continues, ends] at wrong
    exact ⟨_, .stray (List.getLast?_eq_none_iff.mp ends) (by simpa using wrong)⟩
  | some last =>
    obtain ⟨n, _, carries⟩ := range last (List.mem_of_getLast? ends)
    simp only [Continues, ends, not_and] at wrong
    cases first : packet.isFirst with
    | true =>
      refine ⟨_, .interruption ?_ first⟩
      rintro rfl
      cases ends
    | false => exact ⟨_, .gap ends first carries fun next => wrong first ⟨n, carries, next⟩⟩

/-! ## Reading a run -/

namespace Reassembler

/-- The reassembler that has read an open run. -/
def amid (layout : Layout) (run : List Packet) : Reassembler where
  layout
  maxMessageSize := defaultMaxMessageSize
  progress := run.getLast?.bind fun last => last.counter.toNat?.map fun n =>
    .holding run ((n + 1) % layout.counterSpace)

/-- In the middle of a run a reassembler holds it and waits for the next counter. -/
lemma amid_snoc {before : List Packet} {last : Packet} {n : Nat}
    (counted : last.counter = .ofNat n) :
    amid layout (before ++ [last]) =
      ⟨layout, defaultMaxMessageSize,
        some (.holding (before ++ [last]) ((n + 1) % layout.counterSpace))⟩ := by
  simp [amid, counted]

/-- A packet that carries the expected counter is added to what is held. -/
lemma accept_holding (progress : Option Progress) {n : Nat} (carries : packet.counter = .ofNat n)
    (range : n < layout.counterSpace) :
    accept ⟨layout, defaultMaxMessageSize, progress⟩ (.holding run n) packet =
      if defaultMaxMessageSize < (content (run ++ [packet])).length then
        (amid layout [], .error (.messageTooLarge defaultMaxMessageSize
          (content (run ++ [packet])).length) none)
      else if packet.isLast then (amid layout [], .complete (content (run ++ [packet])))
      else (amid layout (run ++ [packet]), .pending) := by
  have size : (content (run ++ [packet])).length =
      (Progress.holding run n).receivedBytes + packet.payload.length := by
    simp [Progress.holding]
  have expected : (Progress.holding run n).expected = .ofNat n := rfl
  rw [accept_eq carries range, if_neg (not_not_intro expected), below_defaultMaxMessageSize,
    Progress.data_holding, amid_snoc carries, Progress.holding_snoc run packet n, size]
  simp only [decide_eq_true_eq, content_append, content_singleton]
  rfl

/-- What becomes of a packet that goes on with a run. -/
lemma receive_of_continues (continues : Continues layout run packet)
    (range : packet.InRange layout) :
    (amid layout run).receive packet =
      if defaultMaxMessageSize < (content (run ++ [packet])).length then
        (amid layout [], .error (.messageTooLarge defaultMaxMessageSize
          (content (run ++ [packet])).length) none)
      else if packet.isLast then (amid layout [], .complete (content (run ++ [packet])))
      else (amid layout (run ++ [packet]), .pending) := by
  obtain ⟨n, range, carries⟩ := range
  obtain rfl | ⟨before, last, rfl⟩ := List.eq_nil_or_concat' run
  · rw [continues_nil] at continues
    rw [← accept_holding none carries range, ← Progress.beginWith_eq carries]
    simp only [receive, continues, amid, List.getLast?_nil, Option.bind_none]
  · obtain ⟨later, m, counted, follows⟩ := continues_snoc.mp continues
    obtain rfl := Number.ofNat_injective (carries.symm.trans follows)
    rw [← accept_holding (amid layout (before ++ [last])).progress carries range,
      amid_snoc counted]
    simp only [receive, later]

/-- A packet that breaks the framing is answered with its error. -/
lemma receive_of_breaks (earlier : ∀ p ∈ run, p.InRange layout)
    (range : packet.InRange layout) (breaks : Breaks layout run packet error) :
    ∃ next data, (amid layout run).receive packet = (next, .error error data) := by
  cases breaks with
  | interruption more first =>
    obtain ⟨before, last, rfl⟩ := (List.eq_nil_or_concat' run).resolve_left more
    obtain ⟨n, _, carries⟩ := earlier last (by simp)
    rw [amid_snoc carries]
    simp only [receive, first]
    obtain answer | ⟨data, answer⟩ | ⟨error, answer⟩ := accept_snd _ (.beginWith packet) packet
    all_goals exact ⟨_, _, Prod.ext rfl (by rw [answer]; rfl)⟩
  | stray empty later =>
    subst empty
    exact ⟨_, _, by simp only [receive, later, amid]; rfl⟩
  | gap ends later carries missed =>
    obtain ⟨before, rfl⟩ := List.getLast?_eq_some_iff.mp ends
    obtain ⟨m, range, here⟩ := range
    rw [amid_snoc carries]
    refine ⟨amid layout [], none, ?_⟩
    simp only [receive, later]
    rw [accept_eq here range, if_pos fun same => missed (here.trans same.symm), here]
    rfl
  | overflow continues large =>
    rw [receive_of_continues continues range, if_pos large]
    exact ⟨_, _, rfl⟩

/-- An open run is read without an answer. -/
lemma whole_append (openRun : OpenRun layout run) (range : ∀ p ∈ run, p.InRange layout)
    (rest : List Packet) :
    (new layout defaultMaxMessageSize).whole 0 (run ++ rest) =
      (amid layout run).whole run.length rest := by
  induction run using List.reverseRec generalizing rest with
  | nil => rfl
  | append_singleton run packet ih =>
    have before := OpenRun.of_append openRun
    obtain ⟨continues, unfinished, small⟩ := before.snoc_iff.mp openRun
    have received := receive_of_continues continues (range packet (by simp))
    rw [if_neg (Nat.not_lt.mpr small), unfinished, if_neg (by simp)] at received
    rw [List.append_assoc, List.singleton_append,
      ih before fun p mem => range p (List.mem_append_left _ mem), whole, received,
      List.length_append, List.length_singleton]

end Reassembler

/-! ## The ends of a list -/

/-- Where framing breaks there is no message to go on with. -/
lemma Breaks.not_segment (openRun : OpenRun layout run) (breaks : Breaks layout run packet error)
    (whole : Bool) : ¬Segment layout defaultMaxMessageSize whole (run ++ [packet]) := by
  rw [openRun.segment_snoc_iff]
  rintro ⟨continues, -, small⟩
  cases breaks with
  | interruption more first =>
    obtain ⟨before, last, rfl⟩ := (List.eq_nil_or_concat' run).resolve_left more
    rw [continues_snoc, first] at continues
    cases continues.1
  | stray empty later =>
    rw [empty, continues_nil, later] at continues
    cases continues
  | gap ends later counted missed =>
    obtain ⟨before, rfl⟩ := List.getLast?_eq_some_iff.mp ends
    obtain ⟨-, m, carries, next⟩ := continues_snoc.mp continues
    obtain rfl := Number.ofNat_injective (counted.symm.trans carries)
    exact missed next
  | overflow _ large => exact Nat.not_le.mpr large small

/-- Where framing breaks the run is no longer open. -/
lemma Breaks.not_openRun (openRun : OpenRun layout run) (breaks : Breaks layout run packet error) :
    ¬OpenRun layout (run ++ [packet]) := fun longer =>
  breaks.not_segment openRun false (longer.resolve_left (by simp))

/-- A packet breaks the framing when with it an open run is neither an open run nor a message. -/
lemma OpenRun.exists_breaks_iff (openRun : OpenRun layout run)
    (range : ∀ p ∈ run, p.InRange layout) :
    (∃ error, Breaks layout run packet error) ↔
      ¬OpenRun layout (run ++ [packet]) ∧ ¬IsMessage layout (run ++ [packet]) := by
  constructor
  · rintro ⟨error, breaks⟩
    exact ⟨breaks.not_openRun openRun, breaks.not_segment openRun true⟩
  · rintro ⟨stuck, unfinished⟩
    by_cases continues : Continues layout run packet
    · refine ⟨_, .overflow continues (Nat.lt_of_not_le fun small => ?_)⟩
      cases last : packet.isLast with
      | true => exact unfinished (openRun.segment_snoc_iff.mpr ⟨continues, last, small⟩)
      | false => exact stuck (openRun.snoc_iff.mpr ⟨continues, last, small⟩)
    · exact exists_breaks range continues

/-- Nothing beyond a packet that breaks the framing is part of an open run. -/
lemma Breaks.length_le (openRun : OpenRun layout run) (breaks : Breaks layout run packet error)
    {rest longer : List Packet} (begins : longer <+: run ++ packet :: rest)
    (isOpen : OpenRun layout longer) : longer.length ≤ run.length := by
  refine Nat.le_of_not_lt fun more => ?_
  have within : run ++ [packet] <+: run ++ packet :: rest :=
    (List.prefix_append_right_inj run).mpr (by simp)
  obtain ⟨later, rfl⟩ := List.prefix_of_prefix_length_le within begins
    (by simpa using Nat.succ_le_of_lt more)
  exact breaks.not_openRun openRun isOpen.of_append

/-- Every list can be read to one of the four ends. -/
lemma OpenRun.exists_ending (openRun : OpenRun layout run) {rest : List Packet}
    (range : ∀ p ∈ run ++ rest, p.InRange layout) :
    ∃ result, Ending layout (run ++ rest) result := by
  induction rest generalizing run with
  | nil => exact ⟨_, by rw [List.append_nil]; exact .incomplete openRun⟩
  | cons packet rest ih =>
    have earlier : ∀ p ∈ run, p.InRange layout := fun p mem => range p (List.mem_append_left _ mem)
    have split : run ++ packet :: rest = run ++ [packet] ++ rest := by simp
    by_cases longer : OpenRun layout (run ++ [packet])
    · rw [split] at range ⊢
      exact ih longer range
    · by_cases message : IsMessage layout (run ++ [packet])
      · rw [split]
        by_cases none : rest = []
        · exact ⟨_, by rw [none, List.append_nil]; exact .message message⟩
        · exact ⟨_, .trailing message none⟩
      · obtain ⟨error, breaks⟩ := (openRun.exists_breaks_iff earlier).mpr ⟨longer, message⟩
        exact ⟨_, .framing openRun breaks⟩

/-- The answer to a list that begins with a whole message. -/
lemma IsMessage.reassemble_append (message : IsMessage layout packets)
    (range : ∀ p ∈ packets, p.InRange layout) (rest : List Packet) :
    reassemble layout (packets ++ rest) =
      if rest = [] then .ok (content packets) else .error (.trailingPackets rest.length) := by
  obtain ⟨run, packet, rfl⟩ := (List.eq_nil_or_concat' packets).resolve_left message.ne_nil
  have openRun := OpenRun.of_segment message
  obtain ⟨continues, last, small⟩ := openRun.segment_snoc_iff.mp message
  have received := Reassembler.receive_of_continues continues (range packet (by simp))
  rw [if_neg (Nat.not_lt.mpr small), if_pos last] at received
  rw [reassemble, List.append_assoc, List.singleton_append,
    Reassembler.whole_append openRun fun p mem => range p (List.mem_append_left _ mem),
    Reassembler.whole, received]

/-- Reassembly answers with the end that it reads to. -/
lemma Ending.reassemble_eq {result : Except ReassembleError Bytes}
    (ending : Ending layout packets result) (range : ∀ p ∈ packets, p.InRange layout) :
    reassemble layout packets = result := by
  cases ending with
  | message message =>
    have answer := message.reassemble_append range []
    rwa [List.append_nil, if_pos rfl] at answer
  | trailing message more =>
    rw [message.reassemble_append fun p mem => range p (List.mem_append_left _ mem), if_neg more]
  | incomplete openRun =>
    have answer := Reassembler.whole_append openRun range []
    rwa [List.append_nil] at answer
  | framing openRun breaks =>
    rename_i run rest packet error
    have earlier : ∀ p ∈ run, p.InRange layout := fun p mem => range p (List.mem_append_left _ mem)
    obtain ⟨next, data, received⟩ :=
      Reassembler.receive_of_breaks earlier (range packet (by simp)) breaks
    rw [reassemble, Reassembler.whole_append openRun earlier, Reassembler.whole, received]

/-- Reassembling a list gives a result exactly when the list ends so. -/
lemma reassemble_eq_iff {result : Except ReassembleError Bytes}
    (range : ∀ p ∈ packets, p.InRange layout) :
    reassemble layout packets = result ↔ Ending layout packets result := by
  refine ⟨fun answer => ?_, fun ending => ending.reassemble_eq range⟩
  obtain ⟨result', ending⟩ : ∃ result', Ending layout packets result' :=
    OpenRun.exists_ending (.inl rfl : OpenRun layout []) range
  rwa [← answer, ending.reassemble_eq range]

/-- A list of packets is given back as a payload exactly when it is one message. It is refused for
what follows a message, for being an open run, or for the packet that stops the longest open run it
begins with from being longer or a message. -/
theorem reassemble_spec (layout : Layout) {packets : List Packet}
    (range : ∀ p ∈ packets, p.InRange layout) :
    (∀ data, reassemble layout packets = .ok data ↔
      IsMessage layout packets ∧ data = content packets) ∧
    (∀ count, reassemble layout packets = .error (.trailingPackets count) ↔
      ∃ message rest, packets = message ++ rest ∧ rest ≠ [] ∧ IsMessage layout message ∧
        count = rest.length) ∧
    (∀ count, reassemble layout packets = .error (.incomplete count) ↔
      OpenRun layout packets ∧ count = packets.length) ∧
    ∀ index error, reassemble layout packets = .error (.framing index error) ↔
      ∃ run packet rest, packets = run ++ packet :: rest ∧ index = run.length ∧
        OpenRun layout run ∧
        (∀ longer, longer <+: packets → OpenRun layout longer → longer.length ≤ run.length) ∧
        ¬OpenRun layout (run ++ [packet]) ∧ ¬IsMessage layout (run ++ [packet]) ∧
        Breaks layout run packet error := by
  simp only [reassemble_eq_iff range]
  refine ⟨fun data => ⟨?_, ?_⟩, fun count => ⟨?_, ?_⟩, fun count => ⟨?_, ?_⟩,
    fun index error => ⟨?_, ?_⟩⟩
  · rintro ⟨message⟩
    exact ⟨message, rfl⟩
  · rintro ⟨message, rfl⟩
    exact .message message
  · rintro ⟨⟩
    exact ⟨_, _, rfl, ‹_›, ‹_›, rfl⟩
  · rintro ⟨message, rest, rfl, more, whole, rfl⟩
    exact .trailing whole more
  · rintro ⟨⟩
    exact ⟨‹_›, rfl⟩
  · rintro ⟨openRun, rfl⟩
    exact .incomplete openRun
  · intro ending
    cases ending with
    | framing openRun breaks =>
      exact ⟨_, _, _, rfl, rfl, openRun, fun _ => breaks.length_le openRun,
        breaks.not_openRun openRun, breaks.not_segment openRun true, breaks⟩
  · rintro ⟨run, packet, rest, rfl, rfl, openRun, -, -, -, breaks⟩
    exact .framing openRun breaks

/-- A message of two packets around the end of the counter, with a stray packet behind it. -/
def wrapped : List Packet :=
  [⟨⟨.data, true, false, [1]⟩, 7⟩, ⟨⟨.data, false, true, [2]⟩, 0⟩, ⟨⟨.data, false, false, [3]⟩, 5⟩]

/-- The message ends the reading, so the stray packet is trailing and breaks no framing. -/
theorem reassemble_spec_wrapped :
    (∀ p ∈ wrapped, p.InRange .default) ∧
      ∃ message rest, wrapped = message ++ rest ∧ rest ≠ [] ∧ IsMessage .default message ∧
        1 = rest.length := by
  have range : ∀ p ∈ wrapped, p.InRange .default := by decide
  have trailing : reassemble .default wrapped = .error (.trailingPackets 1) := by decide +kernel
  exact ⟨range, ((reassemble_spec .default range).2.1 1).mp trailing⟩

end PacketLink
