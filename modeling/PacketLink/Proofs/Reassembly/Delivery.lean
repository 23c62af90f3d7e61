import Mathlib.Data.List.Chain
import Mathlib.Data.List.Induction
import PacketLink.Proofs.Reassembly.Reception

/-!
# What a reassembler delivers

A reassembler may be given packets, bytes and resets in any order. `Segment` says of packets,
without a reassembler, that they are one message in order, or the beginning of one. `Holds` is what
every call keeps: what the reassembler has in hand is the segment that ends what it heard. Main
statement: `Reassembler.delivers_iff`, by which a call delivers a message exactly when the calls up
to it end with the packets of that message.
-/

namespace PacketLink

/-- The payloads of packets, one behind the other. -/
def content (packets : List Packet) : Bytes := (packets.map (·.payload)).flatten

/-- No packets have no content. -/
@[simp] lemma content_nil : content [] = [] := rfl

/-- The content of packets is that of both parts. -/
@[simp] lemma content_append (packets later : List Packet) :
    content (packets ++ later) = content packets ++ content later := by
  simp [content]

/-- The content of one packet is its payload. -/
@[simp] lemma content_singleton (packet : Packet) : content [packet] = packet.payload := by
  simp [content]

/-- The counter of `next` is the one after the counter of `packet`, wrapped around. -/
def Packet.Precedes (layout : Layout) (packet next : Packet) : Prop :=
  ∃ n : Nat, packet.counter = .ofNat n ∧ next.counter = .ofNat ((n + 1) % layout.counterSpace)

/-- The packets of one message of at most `limit` bytes, in order: the first one alone is flagged as
first, the counters follow each other, and no packet but the last one is flagged as last. That one
is flagged when the message is `whole`. -/
structure Segment (layout : Layout) (limit : Number) (whole : Bool) (packets : List Packet) :
    Prop where
  ne_nil : packets ≠ []
  first : ∀ packet ∈ packets.head?, packet.isFirst = true
  later : ∀ packet ∈ packets.tail, packet.isFirst = false
  last : ∀ packet ∈ packets.getLast?, packet.isLast = whole
  earlier : ∀ packet ∈ packets.dropLast, packet.isLast = false
  precedes : packets.IsChain (Packet.Precedes layout)
  fits : limit.below (content packets).length = false

namespace Segment

variable {layout : Layout} {limit : Number} {whole : Bool} {packets : List Packet}
  {packet last : Packet}

/-- One packet alone. -/
lemma singleton_iff :
    Segment layout limit whole [packet] ↔
      packet.isFirst = true ∧ packet.isLast = whole ∧
        limit.below packet.payload.length = false := by
  refine ⟨fun segment => ?_, fun ⟨first, last, fits⟩ => ?_⟩
  · exact ⟨segment.first packet rfl, segment.last packet rfl, by simpa using segment.fits⟩
  · refine ⟨by simp, ?_, by simp, ?_, by simp, .singleton _, by simpa using fits⟩
    · simpa using first
    · simpa using last

/-- One more packet behind the beginning of a message. -/
lemma snoc_iff :
    Segment layout limit whole (packets ++ [last] ++ [packet]) ↔
      Segment layout limit false (packets ++ [last]) ∧ last.Precedes layout packet ∧
        packet.isFirst = false ∧ packet.isLast = whole ∧
        limit.below (content (packets ++ [last] ++ [packet])).length = false := by
  have chain : (packets ++ [last] ++ [packet]).IsChain (Packet.Precedes layout) ↔
      (packets ++ [last]).IsChain (Packet.Precedes layout) ∧ last.Precedes layout packet := by
    rw [List.isChain_append]
    simp
  have head : (packets ++ [last] ++ [packet]).head? = (packets ++ [last]).head? :=
    List.head?_append_of_ne_nil _ (by simp)
  have tail : (packets ++ [last] ++ [packet]).tail = (packets ++ [last]).tail ++ [packet] :=
    List.tail_append_of_ne_nil (by simp)
  refine ⟨fun segment => ?_, fun ⟨segment, follows, later, ends, fits⟩ => ?_⟩
  · obtain ⟨before, follows⟩ := chain.mp segment.precedes
    have later := tail ▸ segment.later
    have earlier : ∀ p ∈ packets ++ [last], p.isLast = false := by
      simpa using segment.earlier
    have shorter : (content (packets ++ [last])).length ≤
        (content (packets ++ [last] ++ [packet])).length := by
      rw [content_append _ [packet], List.length_append]
      exact Nat.le_add_right ..
    have fits := Number.not_below_of_le shorter segment.fits
    refine ⟨⟨by simp, head ▸ segment.first, fun p mem => ?_, ?_, fun p mem => ?_, before, fits⟩,
      follows, later packet (by simp), segment.last packet (by simp), segment.fits⟩
    · exact later p (List.mem_append_left _ mem)
    · simpa using earlier last (by simp)
    · exact earlier p (List.dropLast_subset _ mem)
  · refine ⟨by simp, head ▸ segment.first, ?_, by simpa using ends, ?_,
      chain.mpr ⟨segment.precedes, follows⟩, fits⟩
    · rw [tail]
      simpa [or_imp, forall_and] using ⟨segment.later, later⟩
    · have open_ := segment.last last (by simp)
      have earlier := segment.earlier
      rw [List.dropLast_concat] at earlier ⊢
      simpa [or_imp, forall_and] using ⟨earlier, open_⟩

end Segment

/-- What is held after `packets`, when the next packet has to carry the counter `expected`. -/
def Progress.holding (packets : List Packet) (expected : Nat) : Progress where
  chunks := (packets.map (·.payload)).reverse
  receivedBytes := (content packets).length
  expected := .ofNat expected

/-- A message in progress has the content of the packets that it holds. -/
lemma Progress.data_holding (packets : List Packet) (expected : Nat) :
    (holding packets expected).data = content packets := by
  rw [data, holding, List.reverse_reverse, content]

/-- One more packet behind those that are held. -/
lemma Progress.holding_snoc (packets : List Packet) (packet : Packet) (counter expected : Nat) :
    holding (packets ++ [packet]) expected =
      { chunks := packet.payload :: (holding packets counter).chunks
        receivedBytes := (holding packets counter).receivedBytes + packet.payload.length
        expected := .ofNat expected } := by
  simp [holding]

/-- A message begins without packets, for the counter of the first one. -/
lemma Progress.beginWith_eq {packet : Packet} {counter : Nat}
    (carries : packet.counter = .ofNat counter) :
    beginWith packet = holding [] counter := by
  rw [beginWith, carries]
  rfl

namespace Reassembler

/-- What can be done to a reassembler. -/
inductive Call where
  | receive (packet : Packet)
  | receiveBytes (data : Bytes)
  | reset

/-- The packet that a call hands over, unless it is a reset or its bytes are no packet. -/
def Call.packet? (layout : Layout) : Call → Option Packet
  | .receive packet => some packet
  | .receiveBytes data => (Packet.decode layout data).toOption
  | .reset => none

/-- One call, with its answer; a reset has none. -/
def call (r : Reassembler) : Call → Reassembler × Option Reception
  | .receive packet => ((r.receive packet).1, some (r.receive packet).2)
  | .receiveBytes data => ((r.receiveBytes data).1, some (r.receiveBytes data).2)
  | .reset => (r.reset, none)

/-- The reassembler after some calls. -/
def after (r : Reassembler) (calls : List Call) : Reassembler :=
  calls.foldl (fun r call => (r.call call).1) r

/-- The answers to some calls, in order. -/
def answers (r : Reassembler) : List Call → List (Option Reception)
  | [] => []
  | call :: calls => (r.call call).2 :: (r.call call).1.answers calls

/-- A packet that a call hands over as such carries a counter value of the layout. -/
def Call.InRange (layout : Layout) : Call → Prop
  | .receive packet => ∃ n < layout.counterSpace, packet.counter = .ofNat n
  | _ => True

/-- Whether the counter of a call is in range can be decided. -/
instance (layout : Layout) : (call : Call) → Decidable (call.InRange layout)
  | .receive packet =>
    inferInstanceAs (Decidable (∃ n < layout.counterSpace, packet.counter = .ofNat n))
  | .receiveBytes _ => inferInstanceAs (Decidable True)
  | .reset => inferInstanceAs (Decidable True)

variable {r : Reassembler} {progress : Progress} {packet : Packet} {counter : Nat}

/-! ## What was heard -/

/-- What a reassembler holds is the beginning of a message that ends what it heard. -/
def Holds (r : Reassembler) (heard : List (Option Packet)) : Prop :=
  ∀ progress, r.progress = some progress ↔ ∃ packets last n,
    (packets ++ [last]).map some <:+ heard ∧
      Segment r.layout r.maxMessageSize false (packets ++ [last]) ∧
      last.counter = .ofNat n ∧
      progress = .holding (packets ++ [last]) ((n + 1) % r.layout.counterSpace)

variable {heard : List (Option Packet)}

/-- A packet ends a segment of what was heard exactly when it can be added to what it goes on
with. -/
lemma Holds.segment_iff (holds : Holds r heard) (carries : packet.counter = .ofNat counter)
    {whole : Bool} {motive : Progress → Prop} :
    (∃ packets, packets.map some <:+ heard ∧
        Segment r.layout r.maxMessageSize whole (packets ++ [packet]) ∧
        motive (.holding packets counter)) ↔
      ∃ progress ∈ r.basis packet, progress.expected = .ofNat counter ∧ packet.isLast = whole ∧
        r.maxMessageSize.below (progress.receivedBytes + packet.payload.length : Nat) = false ∧
        motive progress := by
  have size (packets : List Packet) : (content (packets ++ [packet])).length =
      (Progress.holding packets counter).receivedBytes + packet.payload.length := by
    simp [Progress.holding]
  constructor
  · rintro ⟨packets, ends, segment, h⟩
    obtain rfl | ⟨packets, last, rfl⟩ := List.eq_nil_or_concat' packets
    · obtain ⟨first, last, fits⟩ := Segment.singleton_iff.mp segment
      refine ⟨.holding [] counter, ?_, rfl, last, by simpa [Progress.holding] using fits, h⟩
      simp [basis, first, Progress.beginWith_eq carries]
    · obtain ⟨before, ⟨n, counted, follows⟩, later, last, fits⟩ := Segment.snoc_iff.mp segment
      obtain rfl := Number.ofNat_injective (carries.symm.trans follows)
      refine ⟨_, ?_, rfl, last, by rwa [← size], h⟩
      rw [basis, later]
      exact (holds _).mpr ⟨packets, _, n, ends, before, counted, rfl⟩
  · rintro ⟨progress, mem, waits, last, fits, h⟩
    unfold basis at mem
    split at mem
    · rename_i first
      cases mem
      rw [Progress.beginWith_eq carries] at fits h
      refine ⟨[], List.nil_suffix, Segment.singleton_iff.mpr ⟨first, last, ?_⟩, h⟩
      simpa [Progress.holding] using fits
    · rename_i later
      obtain ⟨packets, final, n, ends, before, counted, rfl⟩ := (holds progress).mp mem
      obtain rfl := Number.ofNat_injective waits
      refine ⟨packets ++ [final], ends, Segment.snoc_iff.mpr ⟨before, ⟨n, counted, carries⟩, ?_,
        last, ?_⟩, h⟩
      · simpa using later
      · rwa [← size] at fits

/-- The packets that end what was heard, when a packet was heard last. -/
lemma map_snoc_suffix {packets : List Packet} {last : Packet} :
    (packets ++ [last]).map some <:+ heard ++ [some packet] ↔
      packets.map some <:+ heard ∧ last = packet := by
  rw [List.suffix_concat_iff, List.map_append, List.map_singleton]
  constructor
  · rintro (none | ⟨rest, same, ends⟩)
    · simp at none
    · obtain ⟨rfl, last⟩ := List.append_singleton_inj.mp same
      exact ⟨ends, Option.some.inj last⟩
  · rintro ⟨ends, rfl⟩
    exact .inr ⟨_, rfl, ends⟩

/-- A segment of what was heard, when a packet was heard last, ends with that packet. -/
lemma exists_segment_snoc {layout : Layout} {limit : Number} {whole : Bool}
    {motive : List Packet → Prop} :
    (∃ packets, packets.map some <:+ heard ++ [some packet] ∧ Segment layout limit whole packets ∧
        motive packets) ↔
      ∃ packets, packets.map some <:+ heard ∧
        Segment layout limit whole (packets ++ [packet]) ∧ motive (packets ++ [packet]) := by
  constructor
  · rintro ⟨packets, ends, segment, h⟩
    obtain rfl | ⟨packets, last, rfl⟩ := List.eq_nil_or_concat' packets
    · exact absurd rfl segment.ne_nil
    · obtain ⟨before, rfl⟩ := map_snoc_suffix.mp ends
      exact ⟨packets, before, segment, h⟩
  · rintro ⟨packets, ends, segment, h⟩
    exact ⟨_, map_snoc_suffix.mpr ⟨ends, rfl⟩, segment, h⟩

/-- No segment ends with a reset or with bytes that are no packet. -/
lemma not_map_suffix_none {packets : List Packet} (more : packets ≠ []) :
    ¬packets.map some <:+ heard ++ [none] := by
  intro ends
  obtain empty | ⟨rest, same, _⟩ := List.suffix_concat_iff.mp ends
  · exact more (List.map_eq_nil_iff.mp empty)
  · have mem : none ∈ packets.map some := by simp [same]
    simp at mem

/-- A packet is heard: what is held afterwards is the segment that ends with it, and a message is
delivered when that is whole. -/
lemma Holds.receive (holds : Holds r heard)
    (range : ∃ n < r.layout.counterSpace, packet.counter = .ofNat n) :
    Holds (r.receive packet).1 (heard ++ [some packet]) ∧
      ∀ data, (r.receive packet).2.data? = some data ↔ ∃ packets,
        packets.map some <:+ heard ++ [some packet] ∧
          Segment r.layout r.maxMessageSize true packets ∧ data = content packets := by
  obtain ⟨counter, range, carries⟩ := range
  have grown (packets : List Packet) := Progress.holding_snoc packets packet counter
    ((counter + 1) % r.layout.counterSpace)
  have spelled (packets : List Packet) : content (packets ++ [packet]) =
      (Progress.holding packets counter).data ++ packet.payload := by
    simp [Progress.data_holding]
  constructor
  · intro progress
    rw [(receive_eq r packet).1, receive_fst]
    simp only [Option.bind_eq_some_iff, (accept_iff carries range).1]
    refine (holds.segment_iff carries).symm.trans ⟨?_, ?_⟩
    · rintro ⟨packets, ends, segment, rfl⟩
      exact ⟨packets, packet, counter, map_snoc_suffix.mpr ⟨ends, rfl⟩, segment, carries,
        (grown packets).symm⟩
    · rintro ⟨packets, last, n, ends, segment, counted, rfl⟩
      obtain ⟨before, rfl⟩ := map_snoc_suffix.mp ends
      obtain rfl := Number.ofNat_injective (carries.symm.trans counted)
      exact ⟨packets, before, segment, grown packets⟩
  · intro data
    rw [exists_segment_snoc]
    simp only [(receive_eq r packet).2, Option.bind_eq_some_iff, (accept_iff carries range).2,
      spelled]
    exact (holds.segment_iff carries).symm

/-- Nothing is held when what was heard ends with no packet. -/
lemma holds_of_idle (idle : r.progress = none)
    (silent : ∀ packets, packets ≠ [] → ¬packets.map some <:+ heard) : Holds r heard := by
  intro progress
  constructor
  · intro held
    cases idle.symm.trans held
  · rintro ⟨packets, last, n, ends, _⟩
    exact absurd ends (silent _ (by simp))

/-! ## Calls -/

/-- A call changes nothing but the message in progress. -/
lemma call_fst (r : Reassembler) (call : Call) :
    (r.call call).1 = { r with progress := (r.call call).1.progress } := by
  cases call with
  | receive packet => exact receive_fst r packet
  | receiveBytes data =>
    simp only [Reassembler.call, receiveBytes]
    split
    · exact receive_fst r _
    · rfl
  | reset => rfl

/-- One more call: it delivers a message exactly when what was heard ends with the packets of that
message. -/
lemma Holds.call (holds : Holds r heard) (call : Call) (range : call.InRange r.layout) :
    Holds (r.call call).1 (heard ++ [call.packet? r.layout]) ∧
      ∀ data, (r.call call).2.bind Reception.data? = some data ↔ ∃ packets,
        packets.map some <:+ heard ++ [call.packet? r.layout] ∧
          Segment r.layout r.maxMessageSize true packets ∧ data = content packets := by
  -- a reset and bytes that are no packet have the same effect
  have dropped : Holds r.reset (heard ++ [none]) ∧
      ∀ data, none = some data ↔ ∃ packets, packets.map some <:+ heard ++ [none] ∧
        Segment r.layout r.maxMessageSize true packets ∧ data = content packets := by
    refine ⟨holds_of_idle rfl fun packets => not_map_suffix_none, fun data => ⟨?_, ?_⟩⟩
    · exact fun answer => by cases answer
    · rintro ⟨packets, ends, segment, _⟩
      exact absurd ends (not_map_suffix_none segment.ne_nil)
  cases call with
  | receive packet => exact holds.receive range
  | receiveBytes data =>
    simp only [Reassembler.call, receiveBytes, Call.packet?]
    cases decoded : Packet.decode r.layout data with
    | ok packet => exact holds.receive (Packet.decode_counter decoded)
    | error cause => exact dropped
  | reset => exact dropped

/-- Calls go on from where those before them have come to. -/
lemma after_append (r : Reassembler) (calls later : List Call) :
    r.after (calls ++ later) = (r.after calls).after later := List.foldl_append

/-- Calls are answered in two parts, one after the other. -/
lemma answers_append (r : Reassembler) (calls later : List Call) :
    r.answers (calls ++ later) = r.answers calls ++ (r.after calls).answers later := by
  induction calls generalizing r with
  | nil => rfl
  | cons call calls ih => simp only [List.cons_append, answers, after, List.foldl_cons, ih]

/-- Calls change nothing but the message in progress. -/
lemma after_fst (r : Reassembler) (calls : List Call) :
    r.after calls = { r with progress := (r.after calls).progress } := by
  induction calls using List.reverseRec with
  | nil => rfl
  | append_singleton calls call ih =>
    have step : r.after (calls ++ [call]) = ((r.after calls).call call).1 := after_append ..
    rw [step, call_fst, ih]

/-- Each call is answered by the reassembler after the calls before it. -/
lemma getElem?_answers (r : Reassembler) (calls : List Call) (j : Nat) :
    (r.answers calls)[j]? = calls[j]?.map fun call => ((r.after (calls.take j)).call call).2 := by
  induction calls generalizing r j with
  | nil => rfl
  | cons call calls ih =>
    cases j with
    | zero => rfl
    | succ j => exact ih (r.call call).1 j

/-- A reassembler that held nothing holds the beginning of a message that ends what it heard. -/
lemma holds_after (idle : r.progress = none) {calls : List Call}
    (range : ∀ call ∈ calls, call.InRange r.layout) :
    Holds (r.after calls) (calls.map (Call.packet? r.layout)) := by
  induction calls using List.reverseRec with
  | nil => exact holds_of_idle idle fun packets more ends => by simp_all
  | append_singleton calls call ih =>
    have before := ih fun earlier mem => range earlier (List.mem_append_left _ mem)
    have layout : (r.after calls).layout = r.layout := by rw [after_fst]
    have last := (before.call call (by rw [layout]; exact range call (by simp))).1
    rw [layout] at last
    rwa [after_append, List.map_append]

/-- A call delivers a message with an error only when it interrupts another one. -/
lemma data?_call_iff (r : Reassembler) (call : Call) (data : Bytes) :
    (r.call call).2.bind Reception.data? = some data ↔
      (r.call call).2 = some (.complete data) ∨
        (r.call call).2 = some (.error .unexpectedFirstPacket (some data)) := by
  have received (packet : Packet) := r.data?_receive_iff packet data
  cases call with
  | receive packet => simpa [Reassembler.call] using received packet
  | receiveBytes bytes =>
    simp only [Reassembler.call, receiveBytes]
    split
    · simpa using received _
    · simp [Reception.data?]
  | reset => simp [Reassembler.call]

/-- The packets that end the first calls are those of the calls from some place on. -/
lemma map_suffix_take_iff {layout : Layout} {calls : List Call} {j : Nat}
    (bound : j < calls.length) {packets : List Packet} (more : packets ≠ []) :
    packets.map some <:+ (calls.take (j + 1)).map (Call.packet? layout) ↔
      ∃ i ≤ j, ((calls.take (j + 1)).drop i).map (Call.packet? layout) = packets.map some := by
  constructor
  · intro ends
    have positive := List.length_pos_iff.mpr more
    refine ⟨j + 1 - packets.length, by omega, ?_⟩
    have same := List.suffix_iff_eq_drop.mp ends
    rw [List.length_map, List.length_map, List.length_take, Nat.min_eq_left bound] at same
    rw [List.map_drop, ← same]
  · rintro ⟨i, _, same⟩
    rw [← same, List.map_drop]
    exact List.drop_suffix ..

/-- The answer to a call carries a message exactly when the calls up to it end with the packets of
that message. -/
lemma data?_answer_iff (idle : r.progress = none) {calls : List Call}
    (range : ∀ call ∈ calls, call.InRange r.layout) {j : Nat} (bound : j < calls.length)
    (data : Bytes) :
    ((r.after (calls.take j)).call calls[j]).2.bind Reception.data? = some data ↔
      ∃ i ≤ j, ∃ packets,
        ((calls.take (j + 1)).drop i).map (Call.packet? r.layout) = packets.map some ∧
          Segment r.layout r.maxMessageSize true packets ∧ data = content packets := by
  have before : Holds (r.after (calls.take j)) ((calls.take j).map (Call.packet? r.layout)) :=
    holds_after idle fun call mem => range call (List.mem_of_mem_take mem)
  have layout : (r.after (calls.take j)).layout = r.layout := by rw [after_fst]
  have limit : (r.after (calls.take j)).maxMessageSize = r.maxMessageSize := by rw [after_fst]
  have heard : (calls.take j).map (Call.packet? r.layout) ++ [calls[j].packet? r.layout] =
      (calls.take (j + 1)).map (Call.packet? r.layout) := by
    rw [List.take_succ_eq_append_getElem bound, List.map_append, List.map_singleton]
  have step := (before.call calls[j] (by rw [layout]; exact range _ (by simp))).2 data
  rw [layout, limit, heard] at step
  refine step.trans ⟨?_, ?_⟩
  · rintro ⟨packets, ends, segment, rfl⟩
    obtain ⟨i, le, same⟩ := (map_suffix_take_iff bound segment.ne_nil).mp ends
    exact ⟨i, le, packets, same, segment, rfl⟩
  · rintro ⟨i, le, packets, same, segment, rfl⟩
    exact ⟨packets, (map_suffix_take_iff bound segment.ne_nil).mpr ⟨i, le, same⟩, segment, rfl⟩

/-- A call delivers a message exactly when the calls up to it end with the packets of that message,
with no reset and no other bytes among them. -/
theorem delivers_iff (layout : Layout) (maxMessageSize : Number) {calls : List Call}
    (range : ∀ call ∈ calls, call.InRange layout) {j : Nat} (bound : j < calls.length)
    (data : Bytes) :
    let answer := ((new layout maxMessageSize).answers calls)[j]?
    (answer = some (some (.complete data)) ∨
        answer = some (some (.error .unexpectedFirstPacket (some data)))) ↔
      ∃ i ≤ j, ∃ packets,
        ((calls.take (j + 1)).drop i).map (Call.packet? layout) = packets.map some ∧
          Segment layout maxMessageSize true packets ∧ data = content packets := by
  intro answer
  have last : answer =
      some (((new layout maxMessageSize).after (calls.take j)).call calls[j]).2 :=
    (getElem?_answers ..).trans (by rw [List.getElem?_eq_getElem bound]; rfl)
  rw [last, Option.some_inj, Option.some_inj, ← data?_call_iff]
  exact data?_answer_iff rfl range bound data

/-- A continuation of nothing, a message of two packets around the end of the counter, the beginning
of another one, and a message of one packet that interrupts it. -/
def noisy : List Call :=
  [.receive ⟨⟨.data, false, false, [9]⟩, 5⟩, .receive ⟨⟨.data, true, false, [1]⟩, 7⟩,
    .receiveBytes [32, 2], .receive ⟨⟨.data, true, false, [3, 4]⟩, 3⟩,
    .receive ⟨⟨.control, true, true, [5]⟩, 1⟩]

/-- Both messages are delivered, the second one with an error. -/
theorem delivers_noisy :
    (∀ call ∈ noisy, call.InRange .default) ∧ 2 < noisy.length ∧ 4 < noisy.length ∧
      (∃ i ≤ 2, ∃ packets,
        ((noisy.take 3).drop i).map (Call.packet? .default) = packets.map some ∧
          Segment .default 3 true packets ∧ [1, 2] = content packets) ∧
      ∃ i ≤ 4, ∃ packets,
        ((noisy.take 5).drop i).map (Call.packet? .default) = packets.map some ∧
          Segment .default 3 true packets ∧ [5] = content packets := by
  have range : ∀ call ∈ noisy, call.InRange .default := by decide
  have bound : 4 < noisy.length := by decide
  have first : ((new .default 3).answers noisy)[2]? = some (some (.complete [1, 2])) := by
    decide +kernel
  have second : ((new .default 3).answers noisy)[4]? =
      some (some (.error .unexpectedFirstPacket (some [5]))) := by
    decide +kernel
  exact ⟨range, by decide, bound, (delivers_iff .default 3 range (by decide) _).mp (.inl first),
    (delivers_iff .default 3 range bound _).mp (.inr second)⟩

end Reassembler

end PacketLink
