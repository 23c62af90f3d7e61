import PacketLink.Proofs.Reassembly.Gathering

/-!
# How many packets a message has

The limit of a reassembler is one on bytes. Every packet of a message begins it, brings at least one
byte, or is a filler that does neither (`length_le`), so only fillers can make a message longer than
its limit and its first packet allow. `Takes.later_of_pending` says that packets which are answered
one after the other with `pending` belong to one message, and `Reassembler.exists_fillers` that a
message in progress takes fillers without end. Main statement: `Reassembler.pending_bounded`.
-/

namespace PacketLink

/-- A packet that goes on with a message and brings nothing. -/
def Packet.isFiller (packet : Packet) : Bool := !packet.isFirst && packet.payload.isEmpty

/-- Every packet is a first one, brings a byte, or is a filler. -/
lemma length_le (packets : List Packet) :
    packets.length ≤ packets.countP (·.isFirst) + (content packets).length +
      packets.countP (·.isFiller) := by
  induction packets with
  | nil => exact Nat.le_refl 0
  | cons packet packets ih =>
    have one : 1 ≤ (if packet.isFirst then 1 else 0) + packet.payload.length +
        (if packet.isFiller then 1 else 0) := by
      unfold Packet.isFiller
      cases packet.isFirst <;> cases packet.payload <;> simp
    have size : (content (packet :: packets)).length =
        packet.payload.length + (content packets).length := by simp [content]
    simp only [List.length_cons, List.countP_cons, size]
    omega

/-- Only the first packet of a strand is flagged as first. -/
lemma Strand.countP_isFirst {layout : Layout} {limit : Number} {before : List Packet}
    {last : Packet} (strand : Strand layout limit before last) :
    (before ++ [last]).countP (·.isFirst) = 1 := by
  induction strand with
  | first first _ => simp [first]
  | next _ _ later _ _ ih =>
    rw [List.countP_append, ih]
    simp [later]

namespace Reassembler

variable {r : Reassembler} {held : Progress} {packet : Packet} {packets : List Packet}
  {heard : List (Option Packet)} {calls run : List Call} {limit : ℚ}

/-- Each of these calls is answered that more is awaited. -/
def Pending (r : Reassembler) (run : List Call) : Prop :=
  ∀ answer ∈ r.answers run, answer = some .pending

/-- A run is pending when all its calls are. -/
lemma pending_concat {call : Call} :
    r.Pending (run ++ [call]) ↔ r.Pending run ∧ ((r.after run).call call).2 = some .pending := by
  rw [Pending, answers_append, List.forall_mem_append]
  exact and_congr_right' List.forall_mem_singleton

/-! ## The packets of a run -/

/-- While a message is in progress, a packet after which more is awaited goes on with it. -/
lemma Takes.later_of_pending {next : Option Progress} (takes : r.Takes packet next .pending)
    (busy : r.inProgress = true) : packet.isFirst = false := by
  generalize answered : Reception.pending = answer at takes
  cases takes with
  | begins idle _ _ =>
    rw [inProgress, idle] at busy
    cases busy
  | @restarts _ inner _ _ _ => cases inner <;> cases answered
  | continues _ later _ => exact later
  | stray => cases answered

/-- A call after which more is awaited hands over a packet. -/
lemma exists_packet {call : Call} (more : (r.call call).2 = some .pending) :
    ∃ packet, call.packet? r.layout = some packet := by
  cases here : call.packet? r.layout with
  | some packet => exact ⟨packet, rfl⟩
  | none =>
    obtain ⟨_, answer | ⟨cause, answer⟩⟩ := call_of_none here
    all_goals
      rw [answer] at more
      cases more

/-- A packet after which more is awaited is collected. -/
lemma collect_of_pending {call : Call} (more : (r.call call).2 = some .pending)
    (here : call.packet? r.layout = some packet) (packets : List Packet) :
    r.collect packets call = (if packet.isFirst then [] else packets) ++ [packet] := by
  rw [collect, accepted?, call_pending more, Call.begins, here]
  rfl

/-- The packets of calls after which more is awaited are the last ones that were collected. -/
lemma exists_collected (r : Reassembler) (pending : (r.after calls).Pending run) :
    ∃ earlier later, run.map (Call.packet? r.layout) = later.map some ∧
      r.collected (calls ++ run) = earlier ++ later ∧
      (run ≠ [] → (r.after (calls ++ run)).inProgress = true) := by
  induction run using List.reverseRec with
  | nil => exact ⟨r.collected calls, [], rfl, by simp, fun none => absurd rfl none⟩
  | append_singleton run call ih =>
    obtain ⟨before, more⟩ := pending_concat.mp pending
    obtain ⟨earlier, later, packets, collected, busy⟩ := ih before
    rw [← after_append] at more
    obtain ⟨packet, here⟩ := exists_packet more
    have grows := collect_of_pending more here (r.collected (calls ++ run))
    have layout : (r.after (calls ++ run)).layout = r.layout := by rw [after_fst]
    rw [layout] at here
    have heard : (run ++ [call]).map (Call.packet? r.layout) = (later ++ [packet]).map some := by
      rw [List.map_append, List.map_append, packets, List.map_singleton, List.map_singleton, here]
    have still : (r.after (calls ++ run ++ [call])).inProgress = true := by
      rw [after_append]
      exact call_pending more
    rw [← List.append_assoc, collected_concat, grows]
    cases first : packet.isFirst with
    | false =>
      refine ⟨earlier, later ++ [packet], heard, ?_, fun _ => still⟩
      rw [if_neg (by decide), collected, List.append_assoc]
    | true =>
      -- only the first packet of the run can begin the message
      have alone : run = [] := by
        by_contra others
        rw [call_of_packet (layout ▸ here)] at more
        have takes := (r.after (calls ++ run)).takes_receive packet
        rw [Option.some.inj more] at takes
        rw [takes.later_of_pending (busy others)] at first
        cases first
      subst alone
      obtain rfl : later = [] := by simpa using packets.symm
      exact ⟨[], [packet], heard, rfl, fun _ => still⟩

/-- The packets that were collected last are no more than the limit allows, but for fillers. -/
lemma Gathers.length_le (gathers : r.Gathers heard packets) (busy : r.inProgress = true)
    (finite : r.maxMessageSize = .finite limit) {earlier later : List Packet}
    (split : packets = earlier ++ later) :
    (later.length : ℚ) ≤ limit + 1 + later.countP (·.isFiller) := by
  obtain ⟨held, busy⟩ := Option.isSome_iff_exists.mp busy
  obtain ⟨_, before, last, whole, strand, _, _⟩ := gathers held busy
  rw [whole] at split
  have firsts : later.countP (·.isFirst) ≤ 1 := by
    have all := strand.countP_isFirst
    rw [split, List.countP_append] at all
    omega
  have bytes : ((content later).length : ℚ) ≤ limit := by
    have fits := (Number.not_below_iff (by simp [finite]) _).mp strand.fits
    rw [finite, split, content_append, List.length_append] at fits
    have all : ((content earlier).length + (content later).length : ℕ) ≤ limit := fits
    push_cast at all
    linarith [Nat.cast_nonneg (α := ℚ) (content earlier).length]
  have count := PacketLink.length_le later
  have count : (later.length : ℚ) ≤
      later.countP (·.isFirst) + (content later).length + later.countP (·.isFiller) := by
    exact_mod_cast count
  have firsts : (later.countP (·.isFirst) : ℚ) ≤ 1 := by exact_mod_cast firsts
  linarith

/-! ## Fillers -/

/-- The filler with this counter. -/
def filler (counter : Nat) : Packet := ⟨⟨.data, false, false, []⟩, .ofNat counter⟩

/-- A message in progress goes on with the filler that carries the expected counter, and holds as
many bytes as before. -/
lemma receive_filler {counter : Nat} (busy : r.progress = some held)
    (expected : held.expected = .ofNat counter) (range : counter < r.layout.counterSpace)
    (fits : r.maxMessageSize.below (held.receivedBytes : Nat) = false) :
    r.receive (filler counter) =
      ({ r with progress := some ⟨[] :: held.chunks, held.receivedBytes,
          .ofNat ((counter + 1) % r.layout.counterSpace)⟩ }, .pending) := by
  have added : r.receive (filler counter) = r.accept held (filler counter) := by
    simp only [receive, filler, busy]
  rw [added, accept_eq rfl range, if_neg (not_not_intro expected)]
  simp only [filler, List.length_nil, Nat.add_zero, fits, Bool.false_eq_true, if_false]

/-- However many packets a message has, any number of fillers can follow. -/
lemma exists_fillers (count : Nat) {counter : Nat} (busy : r.progress = some held)
    (expected : held.expected = .ofNat counter) (range : counter < r.layout.counterSpace)
    (fits : r.maxMessageSize.below (held.receivedBytes : Nat) = false) :
    ∃ packets : List Packet, packets.length = count ∧
      (∀ packet ∈ packets, packet.isFiller = true) ∧ r.Pending (packets.map .receive) := by
  induction count generalizing r held counter with
  | zero => exact ⟨[], rfl, List.forall_mem_nil _, List.forall_mem_nil _⟩
  | succ count ih =>
    have step := receive_filler busy expected range fits
    have wraps : (counter + 1) % r.layout.counterSpace < r.layout.counterSpace :=
      Nat.mod_lt _ r.layout.counterSpace_pos
    obtain ⟨packets, length, fillers, pending⟩ := ih (r := (r.receive (filler counter)).1)
      (by rw [step]) rfl (by rw [step]; exact wraps) (by rw [step]; exact fits)
    refine ⟨filler counter :: packets, by rw [List.length_cons, length],
      List.forall_mem_cons.mpr ⟨rfl, fillers⟩, ?_⟩
    intro answer mem
    rcases List.mem_cons.mp mem with rfl | mem
    · exact congrArg (some ·.2) step
    · exact pending answer mem

/-! ## The bound -/

/-- Whatever a reassembler is called with, the packets of the message in progress are at most one
more than the limit on its bytes, not counting fillers; so are calls in a row that are answered that
more is awaited. Fillers are not limited: whenever the expected counter is one of the layout, any
number of them goes on with the message. -/
theorem pending_bounded (layout : Layout) {limit : ℚ} (nonneg : 0 ≤ limit) (calls : List Call) :
    let start := new layout (.finite limit)
    let packets := start.collected calls
    ((start.after calls).inProgress = true →
      (packets.length : ℚ) ≤ limit + 1 + packets.countP (·.isFiller)) ∧
    (∀ run, (start.after calls).Pending run →
      (run.length : ℚ) ≤
        limit + 1 + (run.filterMap (Call.packet? layout)).countP (·.isFiller)) ∧
    ∀ counter < layout.counterSpace,
      (start.after calls).expectedCounter = some (.ofNat counter) →
      ∀ count, ∃ fillers : List Packet, fillers.length = count ∧
        (∀ packet ∈ fillers, packet.isFiller = true) ∧
        (start.after calls).Pending (fillers.map .receive) := by
  intro start packets
  have idle : start.progress = none := rfl
  have finite (calls : List Call) : (start.after calls).maxMessageSize = .finite limit := by
    rw [after_fst]
    rfl
  refine ⟨fun busy => ?_, fun run pending => ?_, fun counter range expected count => ?_⟩
  · exact (gathers_after idle calls).length_le busy (finite calls) (List.nil_append _).symm
  · obtain ⟨earlier, later, heard, collected, busy⟩ := start.exists_collected pending
    have same : run.filterMap (Call.packet? layout) = later := by
      have all := congrArg (List.filterMap id) heard
      rwa [List.filterMap_map, List.filterMap_map, Function.id_comp, Function.id_comp,
        List.filterMap_some] at all
    have length : run.length = later.length := by simpa using congrArg List.length heard
    rw [same, length]
    by_cases none : run = []
    · rw [none, List.length_nil] at length
      rw [List.length_eq_zero_iff.mp length.symm]
      simp only [List.length_nil, List.countP_nil, Nat.cast_zero]
      linarith
    · exact (gathers_after idle (calls ++ run)).length_le (busy none) (finite _) collected
  · obtain ⟨held, busy, same⟩ := Option.map_eq_some_iff.mp expected
    have fits := ((gathers_after idle calls).pendingBytes (by rw [inProgress, busy]; rfl)).2
    rw [Reassembler.pendingBytes, busy] at fits
    exact exists_fillers count busy same (by rw [after_fst]; exact range) fits

/-- The beginning of a message of two bytes, with two fillers between them and behind them. -/
def stretched : List Call :=
  [.receive ⟨⟨.data, true, false, []⟩, 7⟩, .receive ⟨⟨.data, false, false, [1]⟩, 0⟩,
    .receive (filler 1), .receive ⟨⟨.data, false, false, [2]⟩, 2⟩, .receive (filler 3)]

/-- With its two fillers the message has as many packets as the bound allows. -/
theorem pending_bounded_stretched :
    (0 : ℚ) ≤ 2 ∧ (new .default 2).Pending stretched ∧
      (stretched.filterMap (Call.packet? .default)).countP (·.isFiller) = 2 ∧
      (stretched.length : ℚ) = 2 + 1 + 2 ∧
      (stretched.length : ℚ) ≤
        2 + 1 + (stretched.filterMap (Call.packet? .default)).countP (·.isFiller) := by
  have nonneg : (0 : ℚ) ≤ 2 := by norm_num
  have answers : (new .default 2).answers stretched = List.replicate 5 (some .pending) := by
    decide +kernel
  have pending : (new .default 2).Pending stretched := by
    intro answer mem
    rw [answers] at mem
    exact List.eq_of_mem_replicate mem
  have fillers : (stretched.filterMap (Call.packet? .default)).countP (·.isFiller) = 2 := by
    decide +kernel
  have five : stretched.length = 5 := rfl
  exact ⟨nonneg, pending, fillers, by rw [five]; norm_num,
    (pending_bounded .default nonneg []).2.1 stretched pending⟩

/-- Two packets without payload are answered that more is awaited where no byte is allowed. -/
theorem pending_overruns :
    let run : List Call := [.receive ⟨⟨.data, true, false, []⟩, 0⟩, .receive (filler 1)]
    (new .default 0).answers run = [some .pending, some .pending] ∧
      ((new .default 0).collected run).length = 2 ∧ ¬(run.length : ℚ) ≤ 0 + 1 := by
  intro run
  refine ⟨by decide +kernel, by decide +kernel, ?_⟩
  have two : run.length = 2 := rfl
  rw [two]
  norm_num

end Reassembler

end PacketLink
