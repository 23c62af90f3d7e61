import Mathlib.Data.List.Sublists
import PacketLink.Proofs.Connection.Inbound
import PacketLink.Proofs.Reassembly.Gathering
import PacketLink.Reassembly.Whole

/-!
# Messages and kinds

A reassembler follows one stream and never looks at the kind of a packet
(`Reassembler.answers_recast`, `reassemble_recast`). So the packets of a message are of one kind
unless one of them has exactly the counter that has to follow a packet of the other kind
(`Strand.oneKind_iff`). A connection is given packets of both kinds and passes each to the stream of
its kind, which hears of no other packets (`kind_of_heard`). Main statement: `Run.messages_of_kind`.
-/

namespace PacketLink

/-- The packets are all of the same kind. -/
def OneKind (packets : List Packet) : Prop :=
  ∀ packet ∈ packets, ∀ other ∈ packets, packet.kind = other.kind

/-- Whether packets are of one kind can be decided. -/
instance (packets : List Packet) : Decidable (OneKind packets) :=
  inferInstanceAs (Decidable (∀ packet ∈ packets, ∀ other ∈ packets, packet.kind = other.kind))

/-- Some packet comes right after one of the other kind, goes on with a message and has exactly the
counter that has to follow. -/
def Crosses (layout : Layout) (packets : List Packet) : Prop :=
  ∃ packet next, [packet, next] <:+: packets ∧ packet.kind ≠ next.kind ∧ next.isFirst = false ∧
    packet.Follows layout next

/-- `packets` are those of one message of at most `limit` bytes, in order, and `data` is its
payload. -/
def Assembles (layout : Layout) (limit : Number) (packets : List Packet) (data : Bytes) : Prop :=
  ∃ before last, packets = before ++ [last] ∧ Strand layout limit before last ∧
    last.isLast = true ∧ data = content packets

/-- The same packet as one of another kind. -/
def Packet.recast (kind : Kind) (packet : Packet) : Packet := { packet with kind }

variable {layout : Layout} {limit : Number} {packets read : List Packet} {packet : Packet}
  {data : Bytes}

/-! ## The kinds of a message -/

/-- Packets that cross over are of both kinds. -/
lemma Crosses.not_oneKind (crosses : Crosses layout packets) : ¬OneKind packets := by
  obtain ⟨packet, next, within, apart, -, -⟩ := crosses
  intro same
  exact apart (same _ (within.subset (by simp)) _ (within.subset (by simp)))

/-- A message is of one kind unless a packet of it goes on with one of the other kind. -/
lemma Strand.oneKind_iff {before : List Packet} {last : Packet}
    (strand : Strand layout limit before last) :
    OneKind (before ++ [last]) ↔ ¬Crosses layout (before ++ [last]) := by
  refine ⟨fun same crosses => crosses.not_oneKind same, fun straight => ?_⟩
  induction strand with
  | first => simp [OneKind]
  | @next before last packet _ _ later follows _ ih =>
    have one : OneKind (before ++ [last]) := ih fun ⟨packet, other, within, crosses⟩ =>
      straight ⟨packet, other, within.trans (List.prefix_append ..).isInfix, crosses⟩
    have same : last.kind = packet.kind := by
      by_contra apart
      exact straight ⟨last, packet, ⟨before, [], by simp⟩, apart, later, follows⟩
    have all : ∀ p ∈ before ++ [last] ++ [packet], p.kind = packet.kind := by
      intro p mem
      obtain mem | mem := List.mem_append.mp mem
      · exact (one p mem last (by simp)).trans same
      · rw [List.mem_singleton.mp mem]
    exact fun p mem other mem' => (all p mem).trans (all other mem').symm

/-- The packets of a message are of one kind unless one of them crosses over. -/
lemma Assembles.oneKind_iff (assembles : Assembles layout limit packets data) :
    OneKind packets ↔ ¬Crosses layout packets := by
  obtain ⟨before, last, rfl, strand, -, -⟩ := assembles
  exact strand.oneKind_iff

namespace Reassembler

variable {r : Reassembler}

/-! ## Kinds make no difference -/

/-- A reassembler gives the same answers to packets of any kind. -/
lemma answers_recast (r : Reassembler) (kind : Kind) (packets : List Packet) :
    r.answers ((packets.map (Packet.recast kind)).map .receive) =
      r.answers (packets.map .receive) := by
  induction packets generalizing r with
  | nil => rfl
  | cons packet packets ih =>
    exact congrArg (some (r.receive packet).2 :: ·) (ih (r.receive packet).1)

/-- Whether packets are one message does not depend on their kinds. -/
lemma whole_recast (r : Reassembler) (index : Nat) (kind : Kind) (packets : List Packet) :
    r.whole index (packets.map (Packet.recast kind)) = r.whole index packets := by
  induction packets generalizing r index with
  | nil => rfl
  | cons packet packets ih =>
    have same : r.receive (packet.recast kind) = r.receive packet := rfl
    simp only [List.map_cons, whole, same, ih, List.map_eq_nil_iff, List.length_map]

/-! ## A whole packet list -/

/-- What a reassembler holds are the packets that it has read, which are nothing or the beginning of
a message. -/
inductive Reads (r : Reassembler) : List Packet → Prop
  | nothing (idle : r.progress = none) : Reads r []
  | beginning {before : List Packet} {last : Packet}
    (strand : Strand r.layout r.maxMessageSize before last) (unfinished : last.isLast = false)
    (busy : r.progress = some (.upTo r.layout before last)) : Reads r (before ++ [last])

/-- A packet that breaks no framing is added to what was read. -/
lemma Reads.awaits {next : Option Progress} {answer : Reception} (reads : r.Reads read)
    (takes : r.Takes packet next answer) :
    (∃ error data, answer = .error error data) ∨
      ∃ held, r.Accepts held packet next answer ∧ r.Awaits held read packet := by
  cases takes with
  | begins idle first accepts =>
    cases reads with
    | nothing => exact .inr ⟨_, accepts, r.awaits_begin first⟩
    | beginning _ _ busy => cases idle.symm.trans busy
  | @restarts _ inner => cases inner <;> exact .inl ⟨_, _, rfl⟩
  | continues busy later accepts =>
    cases reads with
    | nothing idle => cases idle.symm.trans busy
    | beginning strand unfinished busy' =>
      cases busy'.symm.trans busy
      exact .inr ⟨_, accepts, awaits_next strand unfinished later⟩
  | stray => exact .inl ⟨_, _, rfl⟩

/-- A packet after which more is awaited has been read as well. -/
lemma Reads.snoc (reads : r.Reads read) (more : (r.receive packet).2 = .pending) :
    (r.receive packet).1.Reads (read ++ [packet]) := by
  obtain ⟨error, data, broken⟩ | ⟨held, accepts, awaits⟩ := reads.awaits (r.takes_receive packet)
  · cases more.symm.trans broken
  obtain ⟨held', busy⟩ := Option.isSome_iff_exists.mp (accepts.isSome_iff.mpr more)
  obtain ⟨rfl, unfinished, strand⟩ := (accepts.gathers awaits).1 held' busy
  rw [receive_fst, busy]
  exact .beginning strand unfinished rfl

/-- A packet that completes a message does so with those that were read. -/
lemma Reads.assembles (reads : r.Reads read) (whole : (r.receive packet).2 = .complete data) :
    Assembles r.layout r.maxMessageSize (read ++ [packet]) data := by
  obtain ⟨error, data, broken⟩ | ⟨held, accepts, awaits⟩ := reads.awaits (r.takes_receive packet)
  · cases whole.symm.trans broken
  obtain ⟨rfl, last, strand⟩ := (accepts.gathers awaits).2 data (by rw [whole]; rfl)
  exact ⟨read, packet, rfl, strand, last, rfl⟩

/-- A packet list that is turned back into a payload is one message. -/
lemma Reads.assembles_of_whole (reads : r.Reads read) {index : Nat}
    (answer : r.whole index packets = .ok data) :
    Assembles r.layout r.maxMessageSize (read ++ packets) data := by
  induction packets generalizing r read index with
  | nil => cases answer
  | cons packet packets ih =>
    rw [whole] at answer
    split at answer
    · rename_i next received
      have same := r.receive_fst packet
      have reads' := reads.snoc (congrArg (·.2) received)
      rw [received] at same reads'
      have assembles := ih reads' answer
      rwa [same, List.append_assoc, List.singleton_append] at assembles
    · rename_i next payload received
      have assembles := reads.assembles (congrArg (·.2) received)
      split at answer
      · rename_i nothing
        cases answer
        rwa [nothing]
      · cases answer
    · cases answer

/-- What a reassembler hands over comes from the last packets that it was called with. -/
lemma assembles_of_handed (idle : r.progress = none) {calls : List Call} {call : Call}
    (handed : ((r.after calls).call call).2.bind Reception.data? = some data) :
    ∃ packets, packets.map some <:+ (calls ++ [call]).map (Call.packet? r.layout) ∧
      Assembles r.layout r.maxMessageSize packets data := by
  obtain ⟨before, last, ends, strand, whole, rfl⟩ := exists_strand idle handed
  exact ⟨_, ends, before, last, rfl, strand, whole, rfl⟩

end Reassembler

/-- Reassembling a list gives the same result for packets of any kind. -/
lemma reassemble_recast (kind : Kind) (packets : List Packet) :
    reassemble layout (packets.map (Packet.recast kind)) = reassemble layout packets :=
  Reassembler.whole_recast ..

/-- A list that is reassembled is that of one message. -/
lemma assembles_of_reassemble (answer : reassemble layout packets = .ok data) :
    Assembles layout defaultMaxMessageSize packets data :=
  (Reassembler.Reads.nothing rfl).assembles_of_whole answer

/-- The beginning of a data message, and the end of a control message that has the counter after
it. -/
def mixed : List Packet :=
  [⟨⟨.data, true, false, [1]⟩, 0⟩, ⟨⟨.control, false, true, [2]⟩, 1⟩]

/-- A message is made of a data packet and a control packet. -/
theorem reassemble_mixed :
    reassemble .default mixed = .ok [1, 2] ∧
      (Reassembler.new .default defaultMaxMessageSize).answers (mixed.map .receive) =
        [some .pending, some (.complete [1, 2])] ∧
      ∀ packets, packets.Sublist mixed → content packets = [1, 2] → ¬OneKind packets := by
  refine ⟨by decide +kernel, by decide +kernel, fun packets within => ?_⟩
  have none : ∀ packets ∈ mixed.sublists, content packets = [1, 2] → ¬OneKind packets := by
    decide +kernel
  exact none packets (List.mem_sublists.mpr within)

/-! ## The streams of a connection -/

namespace Connection

/-- What the stream of a kind has heard: packets, or else something that drops what it holds. -/
def heard (layout : Layout) (kind : Kind) (arrivals : List Arrival) : List (Option Packet) :=
  (arrivals.filterMap (Arrival.call? layout kind)).map (Reassembler.Call.packet? layout)

/-- A stream hears only of packets of its kind. -/
lemma kind_of_heard {kind : Kind} {arrivals : List Arrival}
    (mem : some packet ∈ heard layout kind arrivals) : packet.kind = kind := by
  obtain ⟨call, mem, here⟩ := List.mem_map.mp mem
  obtain ⟨arrival, -, called⟩ := List.mem_filterMap.mp mem
  cases arrival with
  | drop =>
    cases called
    cases here
  | bytes data answer events =>
    rw [Arrival.call?] at called
    split at called
    · rename_i concerned
      cases called
      rw [Reassembler.Call.packet?] at here
      simpa [concerns, kindOf?, here] using concerned
    · cases called

/-- Bytes that concern a stream are the last that it has heard of. -/
lemma heard_concat {kind : Kind} {bytes : Bytes} (concerned : concerns layout kind bytes = true)
    (earlier : List Arrival) (answer : Reception) (events : List Event) :
    heard layout kind (earlier ++ [.bytes bytes answer events]) =
      (earlier.filterMap (Arrival.call? layout kind) ++
        [Reassembler.Call.receiveBytes bytes]).map (Reassembler.Call.packet? layout) := by
  simp [heard, Arrival.call?, concerned]

/-- The event of a message says its kind and its payload. -/
lemma delivery_inj_iff {kind other : Kind} {data data' : Bytes} :
    delivery kind data = delivery other data' ↔ kind = other ∧ data = data' := by
  cases kind <;> cases other <;> simp [delivery]

/-- The event of a message is none of an error. -/
lemma delivery_ne_framingError (kind : Kind) (data : Bytes) (kind? : Option Kind)
    (error : FramingError) : delivery kind data ≠ .framingError kind? error := by
  cases kind <;> exact Event.noConfusion

/-- The message of an answer is the one that is announced, with the kind of its packet. -/
lemma Announced.delivery_mem_iff {kind? : Option Kind} {answer : Reception} {events : List Event}
    (announced : Announced kind? answer events) (kind : Kind) (data : Bytes) :
    delivery kind data ∈ events ↔ kind? = some kind ∧ answer.data? = some data := by
  cases announced <;>
    simp [Reception.data?, delivery_ne_framingError, delivery_inj_iff, eq_comm]

/-- Only a packet is answered with a message. -/
lemma Announced.exists_kind {kind? : Option Kind} {answer : Reception} {events : List Event}
    (announced : Announced kind? answer events) (carries : answer.data? = some data) :
    ∃ kind, kind? = some kind := by
  cases announced with
  | malformed => cases carries
  | _ => exact ⟨_, rfl⟩

namespace Run

variable {maxPacketCount maxMessageSize : Number} {run : Run}

/-- A stream has been called once for each answer that it owes. -/
lemma length_answers (layout : Layout) (kind : Kind) (arrivals : List Arrival) :
    (arrivals.filterMap (Arrival.answer? layout kind)).length =
      (arrivals.filterMap (Arrival.call? layout kind)).length := by
  induction arrivals with
  | nil => rfl
  | cons arrival arrivals ih =>
    cases arrival with
    | drop => exact congrArg (· + 1) ih
    | bytes data answer events =>
      by_cases concerned : concerns layout kind data <;>
        simp [Arrival.answer?, Arrival.call?, concerned, ih]

/-- The answer to bytes that concern a stream is the one that the stream gives after what it was
called with before. -/
lemma call_arrivals (sound : Sound layout maxPacketCount maxMessageSize run)
    (layered : run.Layered layout) {operations : List Operation} {earlier later : List Arrival}
    {bytes : Bytes} {answer : Reception} {events : List Event}
    (split : run.arrivals operations = earlier ++ .bytes bytes answer events :: later) {kind : Kind}
    (concerned : concerns layout kind bytes = true) :
    (((run.connection.inbound kind).after
        (earlier.filterMap (Arrival.call? layout kind))).call (.receiveBytes bytes)).2 =
      some answer := by
  have calls : Arrival.call? layout kind (.bytes bytes answer events) =
      some (.receiveBytes bytes) := if_pos concerned
  have owes : Arrival.answer? layout kind (.bytes bytes answer events) = some (some answer) :=
    if_pos concerned
  have answers := answers_arrivals sound layered operations kind
  rw [split, List.filterMap_append, List.filterMap_append, List.filterMap_cons_some calls,
    List.filterMap_cons_some owes] at answers
  have here := congrArg (·[(earlier.filterMap (Arrival.call? layout kind)).length]?) answers
  rw [Reassembler.getElem?_answers, List.take_left, List.getElem?_append_right le_rfl,
    ← length_answers, List.getElem?_append_right le_rfl, Nat.sub_self] at here
  exact Option.some.inj here

/-- Whatever packets and bytes a reassembler is called with, every message that it hands out is made
of packets that were handed over one right after the other, up to the last call, and so is the
payload of a packet list, of all of them. These are of one kind exactly when none of them goes on
with one of the other kind; the answers are the same whatever the kinds are. A connection hands out
a message exactly with the event for it, and the message is made of packets of the kind of the event
that the stream of this kind has heard one right after the other. -/
theorem messages_of_kind (layout : Layout) (maxPacketCount maxMessageSize : Number) :
    (∀ calls call data,
      (((Reassembler.new layout maxMessageSize).after calls).call call).2.bind Reception.data? =
          some data →
        ∃ packets, packets.map some <:+ (calls ++ [call]).map (Reassembler.Call.packet? layout) ∧
          Assembles layout maxMessageSize packets data ∧
          (OneKind packets ↔ ¬Crosses layout packets)) ∧
    (∀ packets data, reassemble layout packets = .ok data →
      Assembles layout defaultMaxMessageSize packets data ∧
        (OneKind packets ↔ ¬Crosses layout packets)) ∧
    (∀ packets others,
      packets.map (Packet.recast .data) = others.map (Packet.recast .data) →
        reassemble layout packets = reassemble layout others ∧
        (Reassembler.new layout maxMessageSize).answers (packets.map .receive) =
          (Reassembler.new layout maxMessageSize).answers (others.map .receive)) ∧
    ∀ operations earlier bytes answer events later,
      (begin (new layout maxPacketCount maxMessageSize)).arrivals operations =
          earlier ++ .bytes bytes answer events :: later →
        (∀ message, answer.data? = some message ↔ ∃ kind, delivery kind message ∈ events) ∧
        ∀ kind message, delivery kind message ∈ events →
          ∃ packets, packets.map some <:+
              heard layout kind (earlier ++ [.bytes bytes answer events]) ∧
            Assembles layout maxMessageSize packets message ∧ ∀ p ∈ packets, p.kind = kind := by
  refine ⟨fun calls call data handed => ?_, fun packets data answer => ?_,
    fun packets others same => ⟨?_, ?_⟩,
    fun operations earlier bytes answer events later split => ?_⟩
  · obtain ⟨packets, ends, assembles⟩ := Reassembler.assembles_of_handed rfl handed
    exact ⟨packets, ends, assembles, assembles.oneKind_iff⟩
  · have assembles := assembles_of_reassemble answer
    exact ⟨assembles, assembles.oneKind_iff⟩
  · rw [← reassemble_recast .data packets, same, reassemble_recast]
  · rw [← Reassembler.answers_recast _ .data packets, same, Reassembler.answers_recast]
  have sound : Sound layout maxPacketCount maxMessageSize
      (begin (new layout maxPacketCount maxMessageSize)) := sound_of []
  have layered : (begin (new layout maxPacketCount maxMessageSize)).Layered layout :=
    ⟨rfl, fun kind => by cases kind <;> rfl⟩
  have announced : Announced (kindOf? layout bytes) answer events :=
    announced_arrivals sound operations (by rw [split]; simp)
  refine ⟨fun message => ?_, fun kind message delivered => ?_⟩
  · simp only [announced.delivery_mem_iff]
    refine ⟨fun carries => ?_, fun ⟨_, _, carries⟩ => carries⟩
    obtain ⟨kind, known⟩ := announced.exists_kind carries
    exact ⟨kind, known, carries⟩
  · obtain ⟨known, carries⟩ := (announced.delivery_mem_iff kind message).mp delivered
    have concerned : concerns layout kind bytes = true := by simp [concerns, known]
    have fresh : (begin (new layout maxPacketCount maxMessageSize)).connection.inbound kind =
        .new layout maxMessageSize := by cases kind <;> rfl
    have answered := call_arrivals sound layered split concerned
    rw [fresh] at answered
    have handed := (congrArg (·.bind Reception.data?) answered).trans carries
    obtain ⟨packets, ends, assembles⟩ := Reassembler.assembles_of_handed rfl handed
    rw [Reassembler.new, ← heard_concat concerned earlier answer events] at ends
    refine ⟨packets, ends, assembles, fun p mem => ?_⟩
    exact kind_of_heard (ends.subset (List.mem_map_of_mem mem))

/-- What arrives in two parts of a run arrives in one after the other. -/
lemma arrivals_append (run : Run) (before after : List Operation) :
    run.arrivals (before ++ after) =
      run.arrivals before ++ (before.foldl apply run).arrivals after := by
  induction before generalizing run with
  | nil => rfl
  | cons operation before ih => rw [List.cons_append, arrivals, ih, ← List.append_assoc]; rfl

/-- Bytes are answered as the connection answers them after the operations before. -/
lemma arrivals_concat_receive (c : Connection) (before : List Operation) (bytes : Bytes) :
    (begin c).arrivals (before ++ [.receive bytes]) =
      (begin c).arrivals before ++ .bytes bytes ((of c before).connection.receive bytes).2
        (events ((of c before).connection.receive bytes).1.effects) :: [] :=
  arrivals_append ..

/-- A data message with a control message between its two packets is made of data packets. -/
theorem messages_of_kind_interleaved :
    let c := new .default 10 10
    let before := [.receive [64, 1], .receive [228, 9]]
    ∃ answer events,
      (begin c).arrivals (before ++ [.receive [36, 2]]) =
          (begin c).arrivals before ++ .bytes [36, 2] answer events :: [] ∧
        delivery .data [1, 2] ∈ events ∧
        ∃ packets, packets.map some <:+ heard .default .data
            ((begin c).arrivals before ++ [.bytes [36, 2] answer events]) ∧
          Assembles .default 10 packets [1, 2] ∧ ∀ p ∈ packets, p.kind = .data := by
  intro c before
  have split := arrivals_concat_receive c before [36, 2]
  have known : kindOf? (of c before).connection.layout [36, 2] = some .data := by decide +kernel
  have carries : ((of c before).connection.receive [36, 2]).2.data? = some [1, 2] := by
    decide +kernel
  have delivered := ((announced_receive _ _).delivery_mem_iff _ _).mpr ⟨known, carries⟩
  have streams := (messages_of_kind .default 10 10).2.2.2 _ _ _ _ _ _ split
  exact ⟨_, _, split, delivered, streams.2 .data [1, 2] delivered⟩

end Run

end Connection

end PacketLink
