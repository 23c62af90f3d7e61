import Mathlib
import PacketLink.Proofs.Connection.Stream
import PacketLink.Proofs.Connection.Wire

/-!
# Losses that a counter detects

One counter runs through the packets of both kinds, and the receiver compares it within a kind. So a
loss is noticed when fewer packets than there are counter values were handed over between the two
packets of a kind that it lies between, whatever their kinds (`ShortLosses`). Then a stream holds
nothing but the first packets of one request, all of which arrived (`Tracks`), and every message
that is delivered is that of a request whose packets all arrived (`Follows.takeAll`).
-/

namespace PacketLink.Connection

/-- The request and the index that tell the packet of a call from all others. -/
def Call.key (call : Call) : Nat × Nat := (call.request, call.index)

/-- The kind of the packet of a call. -/
def Call.kind (requests : List WriteRequest) (call : Call) : Option Kind :=
  requests[call.request]?.map (·.kind)

/-- The calls between `p` and `q` for packets of the kind of `p`. -/
def between (requests : List WriteRequest) (handed : List (Nat × Call)) (p q : Nat × Call) :
    List (Nat × Call) :=
  handed.filter fun x => p.1 < x.1 ∧ x.1 < q.1 ∧ x.2.kind requests = p.2.kind requests

/-- Whenever packets of a kind were lost between two of that kind that arrived one after the other,
fewer than `space` packets were handed over between the two. -/
def ShortLosses (space : Nat) (requests : List WriteRequest) (handed : List (Nat × Call))
    (arrived : List (Nat × Nat)) : Prop :=
  ∀ p ∈ handed, ∀ q ∈ handed, p.1 < q.1 → q.2.kind requests = p.2.kind requests →
    p.2.key ∈ arrived → q.2.key ∈ arrived → between requests handed p q ≠ [] →
    (∀ x ∈ between requests handed p q, x.2.key ∉ arrived) → q.1 - p.1 - 1 < space

/-- Whether losses are short can be decided. -/
instance (space : Nat) (requests : List WriteRequest) (handed : List (Nat × Call))
    (arrived : List (Nat × Nat)) : Decidable (ShortLosses space requests handed arrived) := by
  unfold ShortLosses
  infer_instance

/-- Fewer than `space` packets in a row were lost between two that arrived. -/
def FewInARow (space : Nat) (handed : List (Nat × Call)) (arrived : List (Nat × Nat)) : Prop :=
  ∀ p ∈ handed, ∀ q ∈ handed, p.1 < q.1 → p.2.key ∈ arrived → q.2.key ∈ arrived →
    (∀ x ∈ handed, p.1 < x.1 → x.1 < q.1 → x.2.key ∉ arrived) → q.1 - p.1 - 1 < space

/-- Whether few packets in a row were lost can be decided. -/
instance (space : Nat) (handed : List (Nat × Call)) (arrived : List (Nat × Nat)) :
    Decidable (FewInARow space handed arrived) := by
  unfold FewInARow
  infer_instance

/-- For packets of one kind it is enough that few are lost in a row. -/
lemma FewInARow.shortLosses {space : Nat} {requests : List WriteRequest}
    {handed : List (Nat × Call)} {arrived : List (Nat × Nat)}
    (few : FewInARow space handed arrived) {kind : Option Kind}
    (uniform : ∀ x ∈ handed, x.2.kind requests = kind) :
    ShortLosses space requests handed arrived := by
  intro p p_mem q q_mem lt _ p_arrived q_arrived _ lost
  refine few p p_mem q q_mem lt p_arrived q_arrived fun x mem after before => ?_
  refine lost x (List.mem_filter.mpr ⟨mem, ?_⟩)
  simpa using ⟨after, before, (uniform x mem).trans (uniform p p_mem).symm⟩

/-- What a stream holds after some packets have arrived: nothing, or the packets of one request up
to the last one of its kind, with the counter after that. -/
def Tracks (c : Connection) (kind : Kind) (arrived : List (Nat × Call))
    (progress : Option Progress) : Prop :=
  progress = none ∨ ∃ p ∈ arrived, ∃ r, c.requests[p.2.request]? = some r ∧ r.kind = kind ∧
    (∀ x ∈ arrived, x.2.kind c.requests = some kind → x.1 ≤ p.1) ∧
    (∀ i ≤ p.2.index, (p.2.request, i) ∈ arrived.map (·.2.key)) ∧
    progress = some (.awaiting r.fragments (p.2.index + 1) ((p.1 + 1) % c.layout.counterSpace))

/-- A receiver for the packets of `c` after some of them have arrived. -/
structure Follows (c : Connection) (arrived : List (Nat × Call)) (receiver : Connection) :
    Prop where
  layout_eq : receiver.layout = c.layout
  stream_eq : ∀ kind, (receiver.inbound kind).layout = c.layout
  tracks : ∀ kind, Tracks c kind arrived (receiver.inbound kind).progress

/-- A message whose packets have all arrived. -/
def Arrived (c : Connection) (arrived : List (Nat × Call)) (message : Message) : Prop :=
  ∃ k r, c.requests[k]? = some r ∧ r.message = message ∧
    ∀ i < r.fragments.length, (k, i) ∈ arrived.map (·.2.key)

/-- What a stream does with one more packet: it holds what it should, and a message that it answers
with has arrived. -/
structure Absorbs (c : Connection) (kind : Kind) (arrived : List (Nat × Call))
    (stream : Reassembler) (packet : Packet) : Prop where
  tracks : ∃ progress, (stream.receive packet).1 = { stream with progress } ∧
    Tracks c kind arrived progress
  complete : ∀ data, (stream.receive packet).2.data? = some data →
    Arrived c arrived ⟨kind, data⟩

/-! ## Gaps -/

section Gaps

variable {c receiver : Connection} {trace : List Effect} {start : Nat → Nat}
  {done rest : List (Nat × Call)} {p x : Nat × Call}

/-- Counter values that are less than a whole turn apart differ. -/
lemma mod_ne_of_gap {p q space : Nat} (lt : p + 1 < q) (short : q - p - 1 < space) :
    q % space ≠ (p + 1) % space := fun same => by
  have whole := Nat.sub_mod_eq_zero_of_mod_eq same
  rw [Nat.mod_eq_of_lt (by omega)] at whole
  omega

/-- Two calls with one number are the same. -/
lemma eq_of_number_eq (sorted : (numberedCalls 0 trace).Pairwise (·.1 < ·.1))
    (mem : p ∈ numberedCalls 0 trace) (mem' : x ∈ numberedCalls 0 trace) (same : p.1 = x.1) :
    p = x :=
  List.Pairwise.forall_of_forall_of_flip
    (R := fun p x : Nat × Call => p.1 = x.1 → p = x) (fun _ _ _ => rfl)
    (sorted.imp fun lt same => absurd same (Nat.ne_of_lt lt))
    (sorted.imp fun lt same => absurd same (Nat.ne_of_gt lt)) mem mem' same

/-- Two calls for one packet are the same. -/
lemma Shape.eq_of_key_eq (shape : Shape c trace start) (mem : p ∈ numberedCalls 0 trace)
    (mem' : x ∈ numberedCalls 0 trace) (same : p.2.key = x.2.key) : p = x := by
  have once := shape.nodup_called
  rw [called, ← map_snd_numberedCalls 0, List.map_map] at once
  exact List.inj_on_of_nodup_map once mem mem' same

/-- A later packet follows the last one of its kind that has arrived, or its counter tells that it
does not. -/
lemma Shape.next_or_gap (shape : Shape c trace start)
    (sorted : (numberedCalls 0 trace).Pairwise (·.1 < ·.1))
    (arrived : (done ++ x :: rest).Sublist (numberedCalls 0 trace))
    (short : ShortLosses c.layout.counterSpace c.requests (numberedCalls 0 trace)
      ((done ++ x :: rest).map (·.2.key)))
    (mem : p ∈ done) (kind : x.2.kind c.requests = p.2.kind c.requests)
    (last : ∀ y ∈ done, y.2.kind c.requests = p.2.kind c.requests → y.1 ≤ p.1)
    (later : x.2.index ≠ 0) :
    (x.1 = p.1 + 1 ∧ x.2.request = p.2.request ∧ x.2.index = p.2.index + 1) ∨
      x.1 % c.layout.counterSpace ≠ (p.1 + 1) % c.layout.counterSpace := by
  have ordered := sorted.sublist arrived
  obtain ⟨_, rising, across⟩ := List.pairwise_append.mp ordered
  obtain ⟨ahead, _⟩ := List.pairwise_cons.mp rising
  have px : p.1 < x.1 := across p mem x (List.mem_cons_self ..)
  have handed {y : Nat × Call} (mem : y ∈ done ++ x :: rest) : y ∈ numberedCalls 0 trace :=
    arrived.subset mem
  have x_mem : x ∈ numberedCalls 0 trace := handed (by simp)
  have p_mem : p ∈ numberedCalls 0 trace := handed (List.mem_append_left _ mem)
  obtain ⟨number, k, index, packet⟩ := x
  obtain ⟨r, f, get, next, lt, number_eq, _⟩ := shape.of_mem x_mem
  dsimp only at *
  obtain ⟨i, rfl⟩ := Nat.exists_eq_succ_of_ne_zero later
  have bound := (List.getElem?_eq_some_iff.mp next).1
  -- the packet before `x` was handed over just before it
  have before := shape.mem_of_lt get (List.getElem?_eq_getElem (Nat.lt_of_succ_lt bound))
    (Nat.lt_of_succ_lt lt)
  by_cases adjacent : number = p.1 + 1
  · left
    have same := eq_of_number_eq sorted before p_mem (by dsimp only; omega)
    rw [← same]
    exact ⟨by dsimp only; omega, rfl, rfl⟩
  · right
    refine mod_ne_of_gap (by omega) (short p p_mem _ x_mem px kind ?_ ?_ ?_ fun y y_mem => ?_)
    · exact List.mem_map_of_mem (List.mem_append_left _ mem)
    · exact List.mem_map_of_mem (by simp)
    · refine List.ne_nil_of_mem (a := (start k + i, _)) (List.mem_filter.mpr ⟨before, ?_⟩)
      simp only [decide_eq_true_eq]
      exact ⟨by omega, by omega, kind⟩
    · -- none of those between them arrived: not before `x`, as `p` is the last one, nor after it
      intro arrived_y
      obtain ⟨z, z_mem, same⟩ := List.mem_map.mp arrived_y
      obtain ⟨y_handed, y_between⟩ := List.mem_filter.mp y_mem
      obtain rfl := shape.eq_of_key_eq (handed z_mem) y_handed same
      simp only [decide_eq_true_eq] at y_between
      obtain z_done | z_later := List.mem_append.mp z_mem
      · have := last z z_done y_between.2.2
        omega
      · obtain rfl | z_rest := List.mem_cons.mp z_later
        · exact Nat.lt_irrefl _ y_between.2.1
        · have := ahead z z_rest
          omega

/-! ## One packet after the other -/

variable {r : WriteRequest} {f : Fragment} {stream : Reassembler}

/-- A packet of the other kind is nothing to a stream. -/
lemma Tracks.skip {kind : Kind} {progress : Option Progress} (tracks : Tracks c kind done progress)
    (other : x.2.kind c.requests ≠ some kind) : Tracks c kind (done ++ [x]) progress := by
  obtain rfl | ⟨p, mem, r, get, same, last, whole, held⟩ := tracks
  · exact .inl rfl
  · refine .inr ⟨p, List.mem_append_left _ mem, r, get, same, fun y y_mem y_kind => ?_,
      fun i le => ?_, held⟩
    · obtain y_done | y_here := List.mem_append.mp y_mem
      · exact last y y_done y_kind
      · rw [List.mem_singleton.mp y_here] at y_kind
        exact absurd y_kind other
    · rw [List.map_append]
      exact List.mem_append_left _ (whole i le)

/-- A packet that begins a message or goes on with what the stream holds. -/
lemma Tracks.follow (framed : Framed r.kind r.fragments) (get : c.requests[x.2.request]? = some r)
    (next : r.fragments[x.2.index]? = some f) (layout : stream.layout = c.layout)
    (latest : ∀ y ∈ done, y.1 ≤ x.1)
    (before : ∀ i < x.2.index, (x.2.request, i) ∈ done.map (·.2.key))
    (held : x.2.index ≠ 0 → stream.progress =
      some (.awaiting r.fragments x.2.index (x.1 % c.layout.counterSpace))) :
    Absorbs c r.kind (done ++ [x]) stream (f.stamp (x.1 % c.layout.counterSpace : Nat)) := by
  have range : x.1 % c.layout.counterSpace < stream.layout.counterSpace := by
    rw [layout]
    exact Nat.mod_lt _ c.layout.counterSpace_pos
  obtain ⟨⟨progress, taken, kept⟩, answer⟩ :=
    Reassembler.receive_next_cases (r := stream) framed next range held
  have whole (i : Nat) (le : i ≤ x.2.index) :
      (x.2.request, i) ∈ (done ++ [x]).map (·.2.key) := by
    rw [List.map_append]
    obtain lt | rfl := Nat.lt_or_eq_of_le le
    · exact List.mem_append_left _ (before i lt)
    · exact List.mem_append_right _ (List.mem_singleton_self _)
  refine ⟨⟨progress, taken, ?_⟩, fun data complete => ?_⟩
  · obtain rfl | rfl := kept
    · exact .inl rfl
    · unfold Reassembler.following
      split
      · exact .inl rfl
      · refine .inr ⟨x, by simp, r, get, rfl, fun y mem _ => ?_, whole, ?_⟩
        · obtain mem | mem := List.mem_append.mp mem
          · exact latest y mem
          · rw [List.mem_singleton.mp mem]
        · rw [layout, Nat.mod_add_mod]
  · obtain ⟨rfl, last⟩ := answer data complete
    exact ⟨x.2.request, r, get, rfl, fun i lt => whole i (by omega)⟩

/-- A packet that is not the next one of what the stream holds. -/
lemma Tracks.drop (framed : Framed r.kind r.fragments) (next : r.fragments[x.2.index]? = some f)
    (later : x.2.index ≠ 0)
    (astray : ∀ progress, stream.progress = some progress →
      (Number.ofNat (x.1 % c.layout.counterSpace)).same progress.expected = false) :
    Absorbs c r.kind (done ++ [x]) stream (f.stamp (x.1 % c.layout.counterSpace : Nat)) := by
  obtain ⟨taken, silent⟩ := Reassembler.receive_astray (r := stream) framed next later astray
  refine ⟨⟨none, taken, .inl rfl⟩, fun data complete => ?_⟩
  rw [silent] at complete
  cases complete

/-- A receiver that follows takes the next packet that arrives, and follows. -/
lemma Follows.take (follows : Follows c done receiver) (shape : Shape c trace start)
    (valid : ∀ {k : Nat} {r : WriteRequest}, c.requests[k]? = some r → r.Valid c.layout)
    (sorted : (numberedCalls 0 trace).Pairwise (·.1 < ·.1))
    (arrived : (done ++ x :: rest).Sublist (numberedCalls 0 trace))
    (short : ShortLosses c.layout.counterSpace c.requests (numberedCalls 0 trace)
      ((done ++ x :: rest).map (·.2.key))) :
    Follows c (done ++ [x]) (receiver.receive x.2.packet).1.connection ∧
      ∀ message ∈ received (receiver.receive x.2.packet).1.effects,
        Arrived c (done ++ [x]) message := by
  have handed : x ∈ numberedCalls 0 trace := arrived.subset (by simp)
  obtain ⟨r, f, get, next, _, _, packet⟩ := shape.of_mem handed
  have framed := (valid get).framed
  have kind_eq : f.kind = r.kind := framed.kind_eq next
  have own : x.2.kind c.requests = some r.kind := by simp [Call.kind, get]
  have latest : ∀ y ∈ done, y.1 ≤ x.1 := fun y mem =>
    Nat.le_of_lt ((List.pairwise_append.mp (sorted.sublist arrived)).2.2 y mem x (by simp))
  have outcome : Absorbs c r.kind (done ++ [x]) (receiver.inbound r.kind)
      (f.stamp (x.1 % c.layout.counterSpace : Nat)) := by
    by_cases begins : x.2.index = 0
    · exact Tracks.follow framed get next (follows.stream_eq _) latest
        (fun i lt => absurd lt (by omega)) fun later => absurd begins later
    obtain nothing | ⟨p, mem, r', get', same, last, whole, held⟩ := follows.tracks r.kind
    · exact Tracks.drop framed next begins fun progress held => by
        rw [nothing] at held
        cases held
    have kind : p.2.kind c.requests = some r.kind := by simp [Call.kind, get', same]
    obtain ⟨number, request, index⟩ | gap := shape.next_or_gap sorted arrived short mem
      (own.trans kind.symm) (fun y mem same => last y mem (same.trans kind)) begins
    · rw [← request, get] at get'
      cases get'
      refine Tracks.follow framed get next (follows.stream_eq _) latest (fun i lt => ?_) fun _ => ?_
      · rw [request]
        exact whole i (by omega)
      · rw [held, index, number]
    · refine Tracks.drop framed next begins fun progress held' => ?_
      cases held.symm.trans held'
      simpa [Progress.awaiting, Number.same, Number.ofNat] using gap
  -- the other stream is left alone, and its last packet stays the last one of its kind
  obtain ⟨⟨progress, taken, tracks⟩, complete⟩ := outcome
  have range : x.1 % c.layout.counterSpace < receiver.layout.counterSpace := by
    rw [follows.layout_eq]
    exact Nat.mod_lt _ c.layout.counterSpace_pos
  have wire := receiver.receive_wire range f
  rw [follows.layout_eq, ← packet, kind_eq, taken] at wire
  rw [wire.1, wire.2]
  refine ⟨⟨?_, fun kind => ?_, fun kind => ?_⟩, fun message mem => ?_⟩
  · rw [layout_setInbound, follows.layout_eq]
  · by_cases same : kind = r.kind
    · rw [same, inbound_setInbound]
      exact follows.stream_eq r.kind
    · rw [inbound_setInbound_of_ne _ same]
      exact follows.stream_eq kind
  · by_cases same : kind = r.kind
    · rw [same, inbound_setInbound]
      exact tracks
    · rw [inbound_setInbound_of_ne _ same]
      exact (follows.tracks kind).skip fun h => same (Option.some.inj (h.symm.trans own))
  · obtain ⟨data, answer, rfl⟩ := Option.map_eq_some_iff.mp (Option.mem_toList.mp mem)
    exact complete data answer

/-- What has arrived stays so. -/
lemma Arrived.append {message : Message} (whole : Arrived c done message)
    (later : List (Nat × Call)) : Arrived c (done ++ later) message := by
  obtain ⟨k, r, get, same, all⟩ := whole
  refine ⟨k, r, get, same, fun i lt => ?_⟩
  rw [List.map_append]
  exact List.mem_append_left _ (all i lt)

/-- A receiver delivers messages of requests whose packets have all arrived, when packets arrive in
the order in which they were handed over and losses are short. -/
theorem Follows.takeAll (follows : Follows c [] receiver) (shape : Shape c trace start)
    (valid : ∀ {k : Nat} {r : WriteRequest}, c.requests[k]? = some r → r.Valid c.layout)
    (sorted : (numberedCalls 0 trace).Pairwise (·.1 < ·.1))
    (arrived : (done ++ rest).Sublist (numberedCalls 0 trace))
    (short : ShortLosses c.layout.counterSpace c.requests (numberedCalls 0 trace)
      ((done ++ rest).map (·.2.key))) :
    Follows c done (receiver.takeAll (done.map (·.2.packet))).1 ∧
      ∀ message ∈ received (receiver.takeAll (done.map (·.2.packet))).2,
        Arrived c done message := by
  induction done using List.reverseRec generalizing rest with
  | nil => exact ⟨follows, fun message mem => by cases mem⟩
  | append_singleton done x ih =>
    rw [List.append_assoc, List.singleton_append] at arrived short
    obtain ⟨before, delivered⟩ := ih arrived short
    obtain ⟨after, message⟩ := before.take shape valid sorted arrived short
    rw [List.map_append, List.map_singleton, takeAll_snoc]
    refine ⟨after, fun m mem => ?_⟩
    rw [received_append] at mem
    obtain mem | mem := List.mem_append.mp mem
    · exact (delivered m mem).append [x]
    · exact message m mem

end Gaps

end PacketLink.Connection
