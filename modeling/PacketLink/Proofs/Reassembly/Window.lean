import Mathlib.Data.Nat.ModEq
import PacketLink.Counter
import PacketLink.Proofs.Packet.Fragments
import PacketLink.Proofs.Reassembly.Delivery

/-!
# The window of a cyclic counter

Counter values come around, so a packet may carry the value that a reassembler waits for without
being the packet that it waits for. That needs a jump of a whole turn. `packetStream` is what
messages become on the wire, and `Layout.Near` says of two of its packets that they are close enough
for their counters to tell them apart. Main statement: `Reassembler.delivers_within_window`, by
which a reassembler that goes from each packet to one near it delivers nothing but whole messages.
-/

namespace PacketLink

/-! ## A stream of packets -/

/-- Fragments with the values that a counter hands out, one after the other. -/
def Counter.stamp (counter : Counter) : List Fragment → List Packet
  | [] => []
  | f :: fragments => f.stamp counter.next.1 :: counter.next.2.stamp fragments

/-- The fragments of messages, each of them cut to a size of its own. -/
def cut (messages : List (Message × ChunkSize)) : List Fragment :=
  messages.flatMap fun m => m.1.fragments m.2

/-- The packets of messages, with consecutive values of a counter from which values have been drawn
before. -/
def packetStream (layout : Layout) (skipped : Nat) (messages : List (Message × ChunkSize)) :
    List Packet :=
  ((Counter.start layout).advance skipped).stamp (cut messages)

/-- Fragments are stamped with one counter after the other. -/
lemma Counter.getElem?_stamp (counter : Counter) (fragments : List Fragment) (i : Nat) :
    (counter.stamp fragments)[i]? = fragments[i]?.map fun f =>
      f.stamp ((counter.value + i) % counter.space : Nat) := by
  induction fragments generalizing counter i with
  | nil => rfl
  | cons f fragments ih =>
    cases i with
    | zero => simp [stamp, next, Nat.mod_eq_of_lt counter.value_lt]
    | succ i =>
      have shift : ((counter.value + 1) % counter.space + i) % counter.space =
          (counter.value + (i + 1)) % counter.space := by
        rw [Nat.mod_add_mod, Nat.add_assoc, Nat.add_comm 1]
      simp [stamp, next, ih, shift]

/-- Without their counters the packets are the fragments. -/
lemma Counter.map_toFragment_stamp (counter : Counter) (fragments : List Fragment) :
    (counter.stamp fragments).map Packet.toFragment = fragments := by
  induction fragments generalizing counter with
  | nil => rfl
  | cons f fragments ih => rw [stamp, List.map_cons, ih]; rfl

/-- The packets have the content of their fragments. -/
lemma joined_map_toFragment (packets : List Packet) :
    joined (packets.map Packet.toFragment) = content packets := by
  rw [joined, content, List.map_map]
  rfl

/-- A fragment that is flagged as first begins a message. -/
lemma exists_prefix_drop_cut {messages : List (Message × ChunkSize)} {i : Nat} {f : Fragment}
    (get : (cut messages)[i]? = some f) (first : f.isFirst = true) :
    ∃ m ∈ messages, m.1.fragments m.2 <+: (cut messages).drop i := by
  induction messages generalizing i with
  | nil => simp [cut] at get
  | cons m messages ih =>
    have cons : cut (m :: messages) = m.1.fragments m.2 ++ cut messages := List.flatMap_cons
    rw [cons] at get ⊢
    by_cases inside : i < (m.1.fragments m.2).length
    · rw [List.getElem?_append_left inside] at get
      have start : i = 0 := by simpa [first] using (m.1.framed_fragments m.2).isFirst_eq get
      exact ⟨m, List.mem_cons_self, by rw [start]; exact List.prefix_append ..⟩
    · have behind := Nat.le_of_not_lt inside
      rw [List.getElem?_append_right behind] at get
      obtain ⟨later, mem, begins⟩ := ih get
      refine ⟨later, List.mem_cons_of_mem m mem, ?_⟩
      rwa [List.drop_append, List.drop_eq_nil_of_le behind, List.nil_append]

/-! ## The last flag -/

/-- The last fragment alone is flagged as last. -/
def Closed (fragments : List Fragment) : Prop :=
  ∀ (i : Nat) (f : Fragment), fragments[i]? = some f → f.isLast = decide (i + 1 = fragments.length)

/-- A message that another one begins with is the same message. -/
lemma Closed.eq_of_prefix {fragments others : List Fragment} (closed : Closed fragments)
    (closed' : Closed others) (more : fragments ≠ []) (begins : fragments <+: others) :
    fragments = others := by
  have pos := List.length_pos_iff.mpr more
  have get := List.getElem?_eq_getElem (l := fragments) (i := fragments.length - 1) (by omega)
  have get' := List.prefix_iff_getElem?.mp begins (fragments.length - 1) (by omega)
  have last := closed _ _ get
  rw [closed' _ _ get', Nat.sub_add_cancel pos] at last
  exact begins.eq_of_length (by simpa using last)

/-- The packets of a message are those of a whole one. -/
lemma Segment.closed {layout : Layout} {limit : Number} {packets : List Packet}
    (segment : Segment layout limit true packets) : Closed (packets.map Packet.toFragment) := by
  intro i f get
  rw [List.length_map]
  rw [List.getElem?_map, Option.map_eq_some_iff] at get
  obtain ⟨packet, get, rfl⟩ := get
  by_cases last : i + 1 = packets.length
  · have mem : packet ∈ packets.getLast? := by
      rw [List.getLast?_eq_getElem?, ← last]
      exact get
    rw [segment.last packet mem, decide_eq_true last]
  · have bound := (List.getElem?_eq_some_iff.mp get).1
    have mem : packet ∈ packets.dropLast := by
      apply List.mem_of_getElem? (i := i)
      rwa [List.getElem?_dropLast, if_pos (by omega)]
    rw [segment.earlier packet mem, decide_eq_false last]

/-! ## Near packets -/

/-- From one packet of a stream to another it is at most one turn of the counter forwards, and at
most two packets less than a turn backwards. -/
def Layout.Near (layout : Layout) (i j : Nat) : Prop :=
  -((layout.counterSpace : Int) - 2) ≤ (j : Int) - i ∧ (j : Int) - i ≤ layout.counterSpace

/-- Whether a step is within the window can be decided. -/
instance (layout : Layout) (i j : Nat) : Decidable (layout.Near i j) :=
  inferInstanceAs (Decidable (_ ∧ _))

/-- Among near packets only the next one carries the next counter value. -/
lemma Layout.Near.eq_succ {layout : Layout} {i j : Nat} (near : layout.Near i j) {value : Nat}
    (follows : (value + j) % layout.counterSpace =
      ((value + i) % layout.counterSpace + 1) % layout.counterSpace) :
    j = i + 1 := by
  have same : value + j ≡ value + i + 1 [MOD layout.counterSpace] := by
    rwa [Nat.mod_add_mod] at follows
  obtain ⟨back, ahead⟩ := near
  have short : |((value + i + 1 : Nat) : Int) - (value + j : Nat)| < layout.counterSpace := by
    rw [abs_lt]
    push_cast
    constructor <;> omega
  have equal := same.eq_of_abs_lt short
  omega

/-- The packets of a stream carry consecutive counter values. -/
lemma counter_packetStream {layout : Layout} {skipped : Nat}
    {messages : List (Message × ChunkSize)}
    (i : Fin (packetStream layout skipped messages).length) :
    ((packetStream layout skipped messages).get i).counter =
      .ofNat ((skipped % layout.counterSpace + i) % layout.counterSpace) := by
  obtain ⟨f, _, stamped⟩ := Option.map_eq_some_iff.mp
    ((Counter.getElem?_stamp _ _ i).symm.trans (List.getElem?_eq_getElem i.isLt))
  rw [List.get_eq_getElem, ← stamped]
  simp [Counter.start]

/-- Near packets of a stream that follow each other by their counters follow each other in it. -/
lemma packetStream_precedes {layout : Layout} {skipped : Nat}
    {messages : List (Message × ChunkSize)}
    {i j : Fin (packetStream layout skipped messages).length} (near : layout.Near i j)
    (precedes : ((packetStream layout skipped messages).get i).Precedes layout
      ((packetStream layout skipped messages).get j)) :
    j.val = i.val + 1 := by
  obtain ⟨n, carries, follows⟩ := precedes
  rw [counter_packetStream] at carries follows
  obtain rfl := Number.ofNat_injective carries
  exact near.eq_succ (Number.ofNat_injective follows)

/-- Packets from neighbouring places of a stream are a part of it. -/
lemma map_get_prefix_drop {α : Type} {stream : List α} {start : Fin stream.length}
    {walk : List (Fin stream.length)}
    (steps : (start :: walk).IsChain fun i j => j.val = i.val + 1) :
    (start :: walk).map stream.get <+: stream.drop start := by
  induction walk generalizing start with
  | nil =>
    rw [List.drop_eq_getElem_cons start.isLt]
    exact List.prefix_append [_] _
  | cons next walk ih =>
    obtain ⟨step, steps⟩ := List.isChain_cons_cons.mp steps
    rw [List.map_cons, List.drop_eq_getElem_cons start.isLt, List.get_eq_getElem,
      List.prefix_cons_inj, ← step]
    exact ih steps

/-- Near packets of a stream that are one message in order are one of the messages of the stream. -/
lemma Segment.content_of_near {layout : Layout} {limit : Number} {skipped : Nat}
    {messages : List (Message × ChunkSize)}
    {walk : List (Fin (packetStream layout skipped messages).length)}
    (near : walk.IsChain fun i j => layout.Near i.val j.val)
    (segment : Segment layout limit true (walk.map (packetStream layout skipped messages).get)) :
    ∃ m ∈ messages, content (walk.map (packetStream layout skipped messages).get) =
      m.1.payload := by
  cases walk with
  | nil => exact absurd rfl segment.ne_nil
  | cons start walk =>
    have steps : (start :: walk).IsChain fun i j => j.val = i.val + 1 := by
      have precedes := (List.isChain_map _).mp segment.precedes
      rw [List.isChain_iff_getElem] at near precedes ⊢
      exact fun i bound => packetStream_precedes (near i bound) (precedes i bound)
    have fragments : (packetStream layout skipped messages).map Packet.toFragment =
        cut messages := Counter.map_toFragment_stamp ..
    -- what the packets begin with in the stream is a message, and that ends where they end
    have begins := (map_get_prefix_drop steps).map Packet.toFragment
    rw [List.map_drop, fragments] at begins
    have first : ((packetStream layout skipped messages).get start).isFirst = true :=
      segment.first _ rfl
    have get : (cut messages)[start.val]? =
        some ((packetStream layout skipped messages).get start).toFragment := by
      rw [← fragments, List.getElem?_map, List.getElem?_eq_getElem start.isLt]
      rfl
    obtain ⟨m, mem, starts⟩ := exists_prefix_drop_cut get first
    have framed := m.1.framed_fragments m.2
    have closed : Closed (m.1.fragments m.2) := fun _ _ get => framed.isLast_eq get
    have whole : ((start :: walk).map (packetStream layout skipped messages).get).map
        Packet.toFragment = m.1.fragments m.2 := by
      obtain shorter | longer := List.prefix_or_prefix_of_prefix begins starts
      · exact segment.closed.eq_of_prefix closed (by simp) shorter
      · exact (closed.eq_of_prefix segment.closed framed.ne_nil longer).symm
    refine ⟨m, mem, ?_⟩
    rw [← joined_map_toFragment, whole, Message.joined_fragments]

/-- A reassembler that is given packets of a stream in any order, each of them near the one before,
delivers nothing but payloads of messages of the stream. -/
theorem Reassembler.delivers_within_window (layout : Layout) (maxMessageSize : Number)
    (skipped : Nat) (messages : List (Message × ChunkSize))
    {walk : List (Fin (packetStream layout skipped messages).length)}
    (near : walk.IsChain fun i j => layout.Near i.val j.val)
    {answer : Reception}
    (answered : some answer ∈ (new layout maxMessageSize).answers
      (walk.map fun i => .receive ((packetStream layout skipped messages).get i)))
    {data : Bytes} (carries : answer.data? = some data) :
    ∃ m ∈ messages, data = m.1.payload := by
  let calls := walk.map fun i => Call.receive ((packetStream layout skipped messages).get i)
  have range : ∀ call ∈ calls, call.InRange layout := by
    intro call mem
    obtain ⟨i, _, rfl⟩ := List.mem_map.mp mem
    exact ⟨_, Nat.mod_lt _ layout.counterSpace_pos, counter_packetStream i⟩
  obtain ⟨j, get⟩ := List.mem_iff_getElem?.mp answered
  rw [getElem?_answers, Option.map_eq_some_iff] at get
  obtain ⟨call, get, answer_eq⟩ := get
  obtain ⟨bound, rfl⟩ := List.getElem?_eq_some_iff.mp get
  have delivered := (data?_answer_iff (r := new layout maxMessageSize) rfl range bound data).mp
    (by rw [answer_eq]; exact carries)
  obtain ⟨i, _, packets, same, segment, rfl⟩ := delivered
  have packets_eq :
      ((walk.take (j + 1)).drop i).map (packetStream layout skipped messages).get = packets := by
    rw [← List.map_take, ← List.map_drop, List.map_map] at same
    have heard := List.map_map (f := (packetStream layout skipped messages).get) (g := some)
      (l := (walk.take (j + 1)).drop i)
    exact List.map_injective_iff.mpr (Option.some_injective _) (heard.trans same)
  rw [← packets_eq] at segment ⊢
  exact segment.content_of_near ((near.take (j + 1)).drop i)

/-- A message of three packets, an empty one, and one of two packets. -/
def threeMessages : List (Message × ChunkSize) :=
  [(⟨.data, [1, 2, 3]⟩, ⟨1, Nat.one_pos⟩), (⟨.control, []⟩, ⟨1, Nat.one_pos⟩),
    (⟨.data, [4, 5, 6]⟩, ⟨2, Nat.two_pos⟩)]

/-- The three messages of the example are six packets. -/
lemma length_threeMessages : 6 = (packetStream .default 5 threeMessages).length := by
  decide +kernel

/-- The second packet comes twice and the first message again, then the last two messages out of
order. -/
def scattered : List (Fin (packetStream .default 5 threeMessages).length) :=
  ([0, 1, 1, 0, 1, 2, 4, 3, 4, 5] : List (Fin 6)).map (Fin.cast length_threeMessages)

/-- The empty message interrupts another one and is delivered with an error. -/
theorem Reassembler.delivers_scattered :
    (scattered.IsChain fun i j => Layout.default.Near i.val j.val) ∧
      some (Reception.error .unexpectedFirstPacket (some [])) ∈ (new .default 3).answers
        (scattered.map fun i => .receive ((packetStream .default 5 threeMessages).get i)) ∧
      (∃ m ∈ threeMessages, [] = m.1.payload) ∧
      some (Reception.complete [4, 5, 6]) ∈ (new .default 3).answers
        (scattered.map fun i => .receive ((packetStream .default 5 threeMessages).get i)) ∧
      ∃ m ∈ threeMessages, [4, 5, 6] = m.1.payload := by
  have near : scattered.IsChain fun i j => Layout.default.Near i.val j.val := by decide +kernel
  have interrupting : some (Reception.error .unexpectedFirstPacket (some [])) ∈
      (new .default 3).answers
        (scattered.map fun i => .receive ((packetStream .default 5 threeMessages).get i)) := by
    decide +kernel
  have last : some (Reception.complete [4, 5, 6]) ∈ (new .default 3).answers
      (scattered.map fun i => .receive ((packetStream .default 5 threeMessages).get i)) := by
    decide +kernel
  exact ⟨near, interrupting,
    delivers_within_window .default 3 5 threeMessages near interrupting rfl, last,
    delivers_within_window .default 3 5 threeMessages near last rfl⟩

/-- One packet more than a turn ahead is too far: it passes for the next one. -/
example :
    let stream := packetStream .default 0 [(⟨.data, (List.range 10).map .ofNat⟩, ⟨1, Nat.one_pos⟩)]
    (Reassembler.new .default 3).answers ([0, 9].filterMap fun i => stream[i]?.map .receive) =
      [some .pending, some (.complete [0, 9])] := by
  decide +kernel

end PacketLink
