import PacketLink.Proofs.Reassembly.Restart

/-!
# What a reassembler gathers

A reassembler may be given any packets, with any counters, and any bytes, and it may be reset at any
time. `Strand` says of packets that each goes on with the one before, whatever numbers their
counters are, and `collected` lists the packets that were accepted since the latest first one.
`Gathers` is what every call keeps: while a message is in progress, the packets collected are a
strand that ends what was heard, and what is held are their payloads. Main statement:
`Reassembler.calls_account`.
-/

namespace PacketLink

/-- The content is as long as the payloads together. -/
lemma length_content (packets : List Packet) :
    (content packets).length = (packets.map (·.payload.length)).sum := by
  rw [content, List.length_flatten, List.map_map]
  rfl

/-- `next` carries the counter that has to follow the one of `packet`. -/
def Packet.Follows (layout : Layout) (packet next : Packet) : Prop :=
  next.counter.same (packet.next layout) = true

/-- The packets of `before` and then `last` make up a message of at most `limit` bytes or the
beginning of one: the first of them begins it, and each of the others goes on with the one before,
which does not end it. -/
inductive Strand (layout : Layout) (limit : Number) : List Packet → Packet → Prop
  | first {packet : Packet} (first : packet.isFirst = true)
    (fits : limit.below (content [packet]).length = false) : Strand layout limit [] packet
  | next {before : List Packet} {last packet : Packet} (strand : Strand layout limit before last)
    (unfinished : last.isLast = false) (later : packet.isFirst = false)
    (follows : last.Follows layout packet)
    (fits : limit.below (content (before ++ [last] ++ [packet])).length = false) :
    Strand layout limit (before ++ [last]) packet

/-- What is held is within the limit. -/
lemma Strand.fits {layout : Layout} {limit : Number} {before : List Packet} {last : Packet}
    (strand : Strand layout limit before last) :
    limit.below (content (before ++ [last])).length = false := by
  cases strand with
  | first _ fits => exact fits
  | next _ _ _ _ fits => exact fits

/-- What is held after the packets of a strand. -/
def Progress.upTo (layout : Layout) (before : List Packet) (last : Packet) : Progress where
  chunks := ((before ++ [last]).map (·.payload)).reverse
  receivedBytes := (content (before ++ [last])).length
  expected := last.next layout

namespace Reassembler

/-- A call hands over a packet that begins a message. -/
def Call.begins (layout : Layout) (call : Call) : Bool := (call.packet? layout).any (·.isFirst)

/-- The packet that a call hands over, if it is accepted: afterwards its message is in progress or
has been handed out. -/
def accepted? (r : Reassembler) (call : Call) : Option Packet :=
  if (r.call call).1.inProgress || ((r.call call).2.bind Reception.data?).isSome then
    call.packet? r.layout
  else none

/-- The packets accepted since the latest first packet, that one included, once `call` follows calls
that have left `packets`. -/
def collect (r : Reassembler) (packets : List Packet) (call : Call) : List Packet :=
  (if call.begins r.layout then [] else packets) ++ (r.accepted? call).toList

/-- The packets accepted since the latest first packet, that one included. -/
def collected (r : Reassembler) (calls : List Call) : List Packet :=
  (calls.foldl (fun state call => ((state.1.call call).1, state.1.collect state.2 call)) (r, [])).2

variable {r : Reassembler} {held : Progress} {packet : Packet} {next : Option Progress}
  {answer : Reception} {before packets : List Packet} {heard : List (Option Packet)}

/-- The last call is added to what was collected before. -/
lemma collected_concat (r : Reassembler) (calls : List Call) (call : Call) :
    r.collected (calls ++ [call]) = (r.after calls).collect (r.collected calls) call := by
  have state (packets : List Packet) : (calls.foldl (fun state call =>
      ((state.1.call call).1, state.1.collect state.2 call)) (r, packets)).1 = r.after calls := by
    induction calls generalizing r packets with
    | nil => rfl
    | cons call calls ih => exact ih ..
  rw [collected, List.foldl_concat, state, collected]

/-! ## One packet -/

/-- `held` are the packets of `before`, and `packet` can go on with them or, when there are none,
begin a message. -/
structure Awaits (r : Reassembler) (held : Progress) (before : List Packet) (packet : Packet) :
    Prop where
  chunks : held.chunks = (before.map (·.payload)).reverse
  receivedBytes : held.receivedBytes = (content before).length
  strand : packet.counter.same held.expected = true → r.exceeds held packet = false →
    Strand r.layout r.maxMessageSize before packet

/-- With the next packet a message is as long as its packets. -/
lemma Awaits.size (awaits : r.Awaits held before packet) :
    held.receivedBytes + packet.payload.length = (content (before ++ [packet])).length := by
  rw [awaits.receivedBytes, content_append, content_singleton, List.length_append]

/-- A first packet is waited for with nothing before it. -/
lemma awaits_begin (r : Reassembler) (first : packet.isFirst = true) :
    r.Awaits (.beginWith packet) [] packet := by
  refine ⟨rfl, rfl, fun _ fits => .first first ?_⟩
  rw [exceeds, Progress.beginWith, Nat.zero_add] at fits
  rwa [content_singleton]

/-- Behind an unfinished message its next packet is waited for. -/
lemma awaits_next {last : Packet} (strand : Strand r.layout r.maxMessageSize before last)
    (unfinished : last.isLast = false) (later : packet.isFirst = false) :
    r.Awaits (.upTo r.layout before last) (before ++ [last]) packet := by
  refine ⟨rfl, rfl, fun goesOn fits => .next strand unfinished later goesOn ?_⟩
  rw [content_append _ [packet], content_singleton, List.length_append]
  exact fits

/-- What is gathered when a packet is added. -/
lemma Accepts.gathers (accepts : r.Accepts held packet next answer)
    (awaits : r.Awaits held before packet) :
    (∀ held' ∈ next, held' = .upTo r.layout before packet ∧ packet.isLast = false ∧
      Strand r.layout r.maxMessageSize before packet) ∧
    ∀ data, answer.data? = some data → data = content (before ++ [packet]) ∧
      packet.isLast = true ∧ Strand r.layout r.maxMessageSize before packet := by
  cases accepts with
  | gap | tooLarge => exact ⟨by simp, by simp [Reception.data?]⟩
  | whole goesOn fits last =>
    refine ⟨by simp, fun data answer => ?_⟩
    cases answer
    refine ⟨?_, last, awaits.strand goesOn fits⟩
    rw [Progress.data, awaits.chunks, List.reverse_reverse, content_append, content_singleton]
    rfl
  | more goesOn fits unfinished =>
    refine ⟨fun held' same => ?_, by simp [Reception.data?]⟩
    cases same
    refine ⟨?_, unfinished, awaits.strand goesOn fits⟩
    rw [grown, awaits.size, awaits.chunks, Progress.upTo, List.map_append, List.reverse_append]
    rfl

/-- A packet that leaves a message in progress was accepted. -/
lemma Accepts.isSome_iff (accepts : r.Accepts held packet next answer) :
    next.isSome = true ↔ answer = .pending := by
  cases accepts <;> simp

/-- Nothing is in progress after a packet but when the answer is that more is awaited or that a
message was interrupted. -/
lemma Takes.settled (takes : r.Takes packet next answer) :
    next = none ∨ answer = .pending ∨ answer = .error .unexpectedFirstPacket none := by
  cases takes with
  | begins _ _ accepts | continues _ _ accepts =>
    cases accepts <;> simp
  | restarts _ _ accepts => cases accepts <;> simp [interrupted]
  | stray => exact .inl rfl

/-- A message is in progress after the answer that more is awaited. -/
lemma Takes.pending (takes : r.Takes packet next answer) (more : answer = .pending) :
    next.isSome = true := by
  cases takes with
  | begins _ _ accepts | continues _ _ accepts => exact accepts.isSome_iff.mpr more
  | @restarts _ inner _ _ _ => cases inner <;> cases more
  | stray => cases more

/-! ## Every call -/

/-- A call that hands over a packet is answered like the packet. -/
lemma call_of_packet {call : Call} (here : call.packet? r.layout = some packet) :
    r.call call = ((r.receive packet).1, some (r.receive packet).2) := by
  cases call with
  | receive _ =>
    cases here
    rfl
  | receiveBytes data =>
    rw [Call.packet?] at here
    cases decoded : Packet.decode r.layout data with
    | ok packet =>
      rw [decoded] at here
      cases here
      simp only [Reassembler.call, receiveBytes, decoded]
    | error cause =>
      rw [decoded] at here
      cases here
  | reset => cases here

/-- A reset and bytes that are no packet drop a message in progress. -/
lemma call_of_none {call : Call} (none : call.packet? r.layout = none) :
    (r.call call).1 = r.reset ∧ ((r.call call).2 = .none ∨
      ∃ cause, (r.call call).2 = some (.error (.ofMalformed cause) .none)) := by
  cases call with
  | receive _ => cases none
  | receiveBytes data =>
    rw [Call.packet?] at none
    cases decoded : Packet.decode r.layout data with
    | ok packet =>
      rw [decoded] at none
      cases none
    | error cause =>
      simp only [Reassembler.call, receiveBytes, decoded]
      exact ⟨trivial, .inr ⟨cause, rfl⟩⟩
  | reset => exact ⟨rfl, .inl rfl⟩

/-- While a message is in progress, `packets` are a strand that ends what was heard, and what is
held are their payloads. -/
def Gathers (r : Reassembler) (heard : List (Option Packet)) (packets : List Packet) : Prop :=
  ∀ held ∈ r.progress, packets.map some <:+ heard ∧ ∃ before last, packets = before ++ [last] ∧
    Strand r.layout r.maxMessageSize before last ∧ last.isLast = false ∧
    held = .upTo r.layout before last

/-- A packet is added to what is held, or to nothing when it begins a message, or it is dropped. -/
lemma Gathers.awaits (gathers : r.Gathers heard packets) (takes : r.Takes packet next answer) :
    (next = none ∧ answer.data? = none) ∨
      ∃ held inner, r.Accepts held packet next inner ∧ answer.data? = inner.data? ∧
        r.Awaits held (if packet.isFirst then [] else packets) packet ∧
        (if packet.isFirst then [] else packets).map some <:+ heard := by
  cases takes with
  | begins _ first accepts =>
    rw [if_pos first]
    exact .inr ⟨_, _, accepts, rfl, r.awaits_begin first, List.nil_suffix⟩
  | restarts _ first accepts =>
    rw [if_pos first]
    exact .inr ⟨_, _, accepts, accepts.data?_interrupted, r.awaits_begin first, List.nil_suffix⟩
  | continues busy later accepts =>
    obtain ⟨ends, before, last, rfl, strand, unfinished, rfl⟩ := gathers _ busy
    rw [later, if_neg (by simp)]
    exact .inr ⟨_, _, accepts, rfl, awaits_next strand unfinished later, ends⟩
  | stray => exact .inl ⟨rfl, rfl⟩

/-- One more call: the packets collected are still a strand that ends what was heard, and a message
that is handed out is made of the packets of such a strand. -/
lemma Gathers.call (gathers : r.Gathers heard packets) (call : Call) :
    (r.call call).1.Gathers (heard ++ [call.packet? r.layout]) (r.collect packets call) ∧
      ∀ data, (r.call call).2.bind Reception.data? = some data → ∃ before last,
        (before ++ [last]).map some <:+ heard ++ [call.packet? r.layout] ∧
          Strand r.layout r.maxMessageSize before last ∧ last.isLast = true ∧
          data = content (before ++ [last]) := by
  cases here : call.packet? r.layout with
  | none =>
    obtain ⟨dropped, answer⟩ := call_of_none here
    rw [dropped]
    refine ⟨fun held busy => ?_, fun data handed => ?_⟩
    · cases busy
    obtain answer | ⟨cause, answer⟩ := answer
    all_goals
      rw [answer] at handed
      cases handed
  | some packet =>
    have same := call_of_packet here
    have takes := r.takes_receive packet
    obtain ⟨idle, nothing⟩ | ⟨held, inner, accepts, answered, awaits, ends⟩ := gathers.awaits takes
    · rw [same]
      refine ⟨fun held busy => ?_, fun data handed => ?_⟩
      · cases idle.symm.trans busy
      · cases nothing.symm.trans handed
    · obtain ⟨grows, hands⟩ := accepts.gathers awaits
      have ends' : ((if packet.isFirst then [] else packets) ++ [packet]).map some <:+
          heard ++ [some packet] := map_snoc_suffix.mpr ⟨ends, rfl⟩
      refine ⟨fun held busy => ?_, fun data handed => ?_⟩
      · rw [same] at busy ⊢
        obtain ⟨rfl, unfinished, strand⟩ := grows held busy
        have accepted : r.accepted? call = some packet := by
          rw [accepted?, same, inProgress, busy, here]
          rfl
        have collected : r.collect packets call =
            (if packet.isFirst then [] else packets) ++ [packet] := by
          rw [collect, accepted, Call.begins, here]
          rfl
        rw [collected, receive_fst]
        exact ⟨ends', _, _, rfl, strand, unfinished, rfl⟩
      · rw [same] at handed
        obtain ⟨rfl, last, strand⟩ := hands data (answered.symm.trans handed)
        exact ⟨_, _, ends', strand, last, rfl⟩

/-- A reassembler that held nothing gathers what it is given. -/
lemma gathers_after (idle : r.progress = none) (calls : List Call) :
    (r.after calls).Gathers (calls.map (Call.packet? r.layout)) (r.collected calls) := by
  induction calls using List.reverseRec with
  | nil => exact fun held busy => by cases idle.symm.trans busy
  | append_singleton calls call ih =>
    have layout : (r.after calls).layout = r.layout := by rw [after_fst]
    have step := (ih.call call).1
    rw [layout] at step
    rwa [after_append, List.map_append, collected_concat]

/-- A message that is handed out is made of packets that were handed over one right after the other,
up to the last call. -/
lemma exists_strand (idle : r.progress = none) {calls : List Call} {call : Call} {data : Bytes}
    (handed : ((r.after calls).call call).2.bind Reception.data? = some data) :
    ∃ before last,
      (before ++ [last]).map some <:+ (calls ++ [call]).map (Call.packet? r.layout) ∧
        Strand r.layout r.maxMessageSize before last ∧ last.isLast = true ∧
        data = content (before ++ [last]) := by
  have layout : (r.after calls).layout = r.layout := by rw [after_fst]
  have limit : (r.after calls).maxMessageSize = r.maxMessageSize := by rw [after_fst]
  have step := ((gathers_after idle calls).call call).2 data handed
  rwa [layout, limit, ← List.map_singleton, ← List.map_append] at step

/-! ## The account -/

/-- The bytes held are those of the packets collected, and the limit allows them. -/
lemma Gathers.pendingBytes (gathers : r.Gathers heard packets) (busy : r.inProgress = true) :
    r.pendingBytes = (packets.map (·.payload.length)).sum ∧
      r.maxMessageSize.below (r.pendingBytes : Nat) = false := by
  obtain ⟨held, busy⟩ := Option.isSome_iff_exists.mp busy
  obtain ⟨_, before, last, rfl, strand, _, rfl⟩ := gathers held busy
  have pending : r.pendingBytes = (content (before ++ [last])).length := by
    rw [Reassembler.pendingBytes, busy]
    rfl
  rw [pending]
  exact ⟨length_content _, strand.fits⟩

/-- Where more is to come a message is in progress. -/
lemma call_pending {call : Call} (more : (r.call call).2 = some .pending) :
    (r.call call).1.inProgress = true := by
  cases here : call.packet? r.layout with
  | none =>
    obtain ⟨_, answer | ⟨cause, answer⟩⟩ := call_of_none here
    all_goals
      rw [answer] at more
      cases more
  | some packet =>
    rw [call_of_packet here] at more ⊢
    exact (r.takes_receive packet).pending (Option.some.inj more)

/-- Nothing is in progress after a call unless the answer is that more is awaited or that a message
was interrupted. -/
lemma call_settled (r : Reassembler) {call : Call} (unawaited : (r.call call).2 ≠ some .pending)
    (whole : (r.call call).2 ≠ some (.error .unexpectedFirstPacket none)) :
    (r.call call).1.inProgress = false := by
  rw [inProgress_eq_false]
  cases here : call.packet? r.layout with
  | none => rw [(call_of_none here).1, reset]
  | some packet =>
    rw [call_of_packet here] at unawaited whole ⊢
    obtain idle | answer | answer := (r.takes_receive packet).settled
    · exact idle
    · exact absurd (congrArg some answer) unawaited
    · exact absurd (congrArg some answer) whole

/-- Whatever a reassembler is called with: while a message is in progress, the bytes held are those
of the packets accepted since the latest first one, and the limit allows them; otherwise nothing is
held and no counter expected. A call leaves a message in progress when it answers that more is
awaited, and none when it hands out a message, reports an error other than an interruption, or is a
reset. No message that is handed out is larger than the limit. -/
theorem calls_account (layout : Layout) {maxMessageSize : Number} (isNumber : maxMessageSize ≠ .nan)
    (calls : List Call) :
    let r := (new layout maxMessageSize).after calls
    let packets := (new layout maxMessageSize).collected calls
    (r.inProgress = true →
      r.pendingBytes = (packets.map (·.payload.length)).sum ∧
        maxMessageSize.AtLeast r.pendingBytes) ∧
    (r.inProgress = false → r.pendingBytes = 0 ∧ r.expectedCounter = none) ∧
    ∀ call,
      ((r.call call).2 = some .pending → (r.call call).1.inProgress = true) ∧
      ((r.call call).2 = none → (r.call call).1.inProgress = false) ∧
      (∀ data, (r.call call).2 = some (.complete data) → (r.call call).1.inProgress = false) ∧
      (∀ error data, (r.call call).2 = some (.error error data) →
        error ≠ .unexpectedFirstPacket ∨ data.isSome = true → (r.call call).1.inProgress = false) ∧
      ∀ data, (r.call call).2.bind Reception.data? = some data →
        maxMessageSize.AtLeast data.length := by
  intro r packets
  have idle : (new layout maxMessageSize).progress = none := rfl
  have limit : r.maxMessageSize = maxMessageSize :=
    congrArg (·.maxMessageSize) (after_fst (new layout maxMessageSize) calls)
  refine ⟨fun busy => ?_, fun free => ?_, fun call => ⟨call_pending, fun answer => ?_,
    fun data answer => ?_, fun error data answer final => ?_, fun data handed => ?_⟩⟩
  · obtain ⟨pending, fits⟩ := (gathers_after idle calls).pendingBytes busy
    exact ⟨pending, (Number.not_below_iff isNumber _).mp (limit ▸ fits)⟩
  · rw [inProgress_eq_false] at free
    rw [Reassembler.pendingBytes, expectedCounter, free]
    exact ⟨rfl, rfl⟩
  · exact r.call_settled (by simp [answer]) (by simp [answer])
  · exact r.call_settled (by simp [answer]) (by simp [answer])
  · refine r.call_settled (by simp [answer]) fun same => ?_
    rw [answer] at same
    cases same
    simp at final
  · obtain ⟨before, last, _, strand, _, rfl⟩ := exists_strand idle handed
    exact (Number.not_below_iff isNumber _).mp strand.fits

/-- The beginning of a message, and of another one whose counters lie between the integers. -/
def fractional : List Call :=
  [.receive ⟨⟨.data, true, false, [1]⟩, 0⟩,
    .receive ⟨⟨.data, true, false, [2, 3]⟩, .finite (1 / 2)⟩,
    .receive ⟨⟨.data, false, false, [4]⟩, .finite (3 / 2)⟩]

/-- The second message has gathered as many bytes as the limit allows. -/
theorem calls_account_fractional :
    (3 : Number) ≠ .nan ∧ ((new .default 3).after fractional).inProgress = true ∧
      ((new .default 3).after fractional).pendingBytes = 3 ∧
      ((new .default 3).after fractional).pendingBytes =
        (((new .default 3).collected fractional).map (·.payload.length)).sum ∧
      (3 : Number).AtLeast ((new .default 3).after fractional).pendingBytes := by
  have isNumber : (3 : Number) ≠ .nan := by decide
  have busy : ((new .default 3).after fractional).inProgress = true := by decide +kernel
  have pending : ((new .default 3).after fractional).pendingBytes = 3 := by decide +kernel
  exact ⟨isNumber, busy, pending, (calls_account .default isNumber fractional).1 busy⟩

end Reassembler

end PacketLink
