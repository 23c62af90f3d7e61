import Mathlib.Data.List.Induction
import PacketLink.Proofs.Connection.Outcome
import PacketLink.Proofs.Connection.Stream

/-!
# Which packets were accepted

When every packet that a connection handed over was answered, the accepted ones are a first part of
every block (`Shape.packets_accepted`), and a request `isWhole` when that part is all of its
packets (`acceptedCount_eq_length`). A connection at the other end that takes the first packets of
some requests delivers those of which they are all the packets, and nothing else
(`received_blocks`).
-/

namespace PacketLink.Connection

/-- The packet whose acceptance an input is. -/
def Input.accepted? : Input → Option (Nat × Nat)
  | .outcome request index .accepted => some (request, index)
  | _ => none

/-- Whether an input is the rejection of a packet of the request in place `k`. -/
def Input.rejects (k : Nat) : Input → Bool
  | .outcome request _ (.rejected _) => request = k
  | _ => false

/-- The packets that were accepted, by request and index, in order. -/
def acceptances (inputs : List Input) : List (Nat × Nat) := inputs.filterMap Input.accepted?

/-- Whether the request in place `k` has handed over all its packets and none was rejected. -/
def isWhole (trace : List Effect) (inputs : List Input) (k : Nat) (r : WriteRequest) : Bool :=
  (List.range r.fragments.length).all (fun i => (called trace).contains (k, i)) &&
    !inputs.any (Input.rejects k)

/-- The messages of the whole requests, in the order of sending. -/
def wholeMessages (trace : List Effect) (inputs : List Input) (requests : List WriteRequest) :
    List Message :=
  (requests.mapIdx fun k r => if isWhole trace inputs k r then [r.message] else []).flatten

/-- The number of packets of the request in place `k` that were accepted. -/
def acceptedCount (trace : List Effect) (inputs : List Input) (k : Nat) (r : WriteRequest) : Nat :=
  let handed := handedOver trace k r
  if (acceptances inputs).contains (k, handed - 1) then handed else handed - 1

/-- A request is whole when every packet of it was handed over and none was rejected. -/
lemma isWhole_iff {trace : List Effect} {inputs : List Input} {k : Nat} {r : WriteRequest} :
    isWhole trace inputs k r = true ↔
      (∀ i < r.fragments.length, (k, i) ∈ called trace) ∧
        ∀ i fault, .outcome k i (.rejected fault) ∉ inputs := by
  simp only [isWhole, Bool.and_eq_true, List.all_eq_true, List.mem_range, List.contains_iff_mem,
    Bool.not_eq_true', List.any_eq_false]
  refine and_congr_right' ⟨fun clean i fault mem => ?_, fun clean input mem rejects => ?_⟩
  · exact clean _ mem (by simp [Input.rejects])
  · cases input with
    | outcome j i outcome =>
      cases outcome with
      | accepted => cases rejects
      | rejected fault =>
        obtain rfl : j = k := of_decide_eq_true rejects
        exact clean i fault mem
    | _ => cases rejects

/-- All packets that were handed over but the last were accepted, and that one perhaps. -/
lemma acceptedCount_eq (trace : List Effect) (inputs : List Input) (k : Nat) (r : WriteRequest) :
    acceptedCount trace inputs k r =
      if (k, handedOver trace k r - 1) ∈ acceptances inputs then handedOver trace k r
      else handedOver trace k r - 1 := by
  simp [acceptedCount]

/-- A packet was accepted when its outcome says so. -/
lemma mem_acceptances {inputs : List Input} {k i : Nat} :
    (k, i) ∈ acceptances inputs ↔ .outcome k i .accepted ∈ inputs := by
  refine ⟨fun mem => ?_, fun mem => List.mem_filterMap.mpr ⟨_, mem, rfl⟩⟩
  obtain ⟨input, mem, same⟩ := List.mem_filterMap.mp mem
  cases input with
  | outcome j index outcome =>
    cases outcome with
    | accepted =>
      cases same
      exact mem
    | rejected fault => cases same
  | _ => cases same

/-- A packet was answered when it has an outcome. -/
lemma mem_answers {inputs : List Input} {k i : Nat} :
    (k, i) ∈ answers inputs ↔ ∃ outcome, .outcome k i outcome ∈ inputs := by
  refine ⟨fun mem => ?_, fun ⟨outcome, mem⟩ => List.mem_filterMap.mpr ⟨_, mem, rfl⟩⟩
  obtain ⟨input, mem, same⟩ := List.mem_filterMap.mp mem
  cases input with
  | outcome j index outcome =>
    cases same
    exact ⟨outcome, mem⟩
  | _ => cases same

/-- A packet that was answered once has one outcome. -/
lemma outcome_unique {inputs : List Input} (once : (answers inputs).Nodup) {k i : Nat}
    {outcome outcome' : Outcome} (mem : .outcome k i outcome ∈ inputs)
    (mem' : .outcome k i outcome' ∈ inputs) : outcome = outcome' := by
  have once := List.pairwise_filterMap.mp once
  have same := List.Pairwise.forall_of_forall_of_flip
    (R := fun input other : Input =>
      input.answer? = some (k, i) → other.answer? = some (k, i) → input = other)
    (fun _ _ _ _ => rfl) (once.imp fun apart h h' => absurd rfl (apart _ h _ h'))
    (once.imp fun apart h h' => absurd rfl (apart _ h' _ h))
  injection same mem mem' rfl rfl

section Settled

variable {layout : Layout} {maxPacketCount maxMessageSize : Number} {c : Connection}
  {inputs : List Input} {trace : List Effect} {k i : Nat} {r : WriteRequest}

/-- A request hands over at most one packet more than were accepted. -/
lemma Answered.handedOver_le (answered : Answered c inputs) (get : c.requests[k]? = some r) :
    handedOver trace k r ≤ r.sentCount + 1 := by
  unfold handedOver
  cases phase : r.phase with
  | pending => exact Nat.zero_le _
  | inFlight => exact Nat.le_refl _
  | completed =>
    dsimp only
    rw [← answered.completed get phase]
    exact Nat.le_succ _
  | failed => exact Nat.le_refl _
  | cancelled =>
    dsimp only
    split
    · exact Nat.le_refl _
    · exact Nat.zero_le _

/-- Every packet of a request but the last one that it has handed over was accepted. -/
lemma Answered.mem_acceptances (answered : Answered c inputs) (get : c.requests[k]? = some r)
    (lt : i + 1 < handedOver trace k r) : (k, i) ∈ acceptances inputs := by
  have handed : handedOver trace k r ≤ r.sentCount + 1 := answered.handedOver_le get
  exact Connection.mem_acceptances.mpr (answered.accepted get (by omega))

/-- Nothing was accepted that was not handed over. -/
lemma acceptedCount_le (trace : List Effect) (inputs : List Input) (k : Nat) (r : WriteRequest) :
    acceptedCount trace inputs k r ≤ handedOver trace k r := by
  rw [acceptedCount_eq]
  split
  · exact Nat.le_refl _
  · exact Nat.sub_le ..

/-- The packets below the count are those that were accepted, of those handed over. -/
lemma Answered.lt_acceptedCount (answered : Answered c inputs) (get : c.requests[k]? = some r)
    (lt : i < handedOver trace k r) :
    i < acceptedCount trace inputs k r ↔ (k, i) ∈ acceptances inputs := by
  rw [acceptedCount_eq]
  by_cases last : i + 1 < handedOver trace k r
  · have mem := answered.mem_acceptances get last
    split <;> simp only [mem, iff_true] <;> omega
  · -- only the last packet can have been rejected, or be still to be answered
    obtain rfl : i = handedOver trace k r - 1 := by omega
    split
    · simpa [‹_ ∈ acceptances inputs›] using by omega
    · simp [‹_ ∉ acceptances inputs›]

/-- When everything was answered, a request is whole when all its packets were accepted. -/
lemma acceptedCount_eq_length {start : Nat → Nat} (answered : Answered c inputs)
    (shape : Shape c trace start) (valid : r.Valid layout) (get : c.requests[k]? = some r)
    (settled : (called trace).Perm (answers inputs)) :
    acceptedCount trace inputs k r = r.fragments.length ↔ isWhole trace inputs k r = true := by
  have positive := valid.framed.length_pos
  have count := acceptedCount_le trace inputs k r
  have handed := shape.handedOver_le get
  have once := settled.nodup_iff.mp shape.nodup_called
  rw [isWhole_iff]
  refine ⟨fun all => ⟨fun i lt => ?_, fun i fault mem => ?_⟩, fun ⟨all, clean⟩ => ?_⟩
  · exact (shape.mem_called get).mpr (by omega)
  · -- a packet has one outcome, and this one was accepted
    have lt := (shape.mem_called get).mp (settled.mem_iff.mpr (mem_answers.mpr ⟨_, mem⟩))
    have accepted := (answered.lt_acceptedCount get lt).mp (by omega)
    cases outcome_unique once mem (mem_acceptances.mp accepted)
  · -- the last packet was answered, and it was not rejected
    have last := all (r.fragments.length - 1) (by omega)
    have lt := (shape.mem_called get).mp last
    obtain ⟨outcome, mem⟩ := mem_answers.mp (settled.mem_iff.mp last)
    cases outcome with
    | accepted =>
      have := (answered.lt_acceptedCount get lt).mpr (mem_acceptances.mpr mem)
      omega
    | rejected fault => exact absurd mem (clean _ fault)

/-- A request that has completed is whole, once all its packets were answered. -/
lemma isWhole_of_completed {start : Nat → Nat} (answered : Answered c inputs)
    (shape : Shape c trace start) (valid : r.Valid layout) (get : c.requests[k]? = some r)
    (settled : (called trace).Perm (answers inputs)) (completed : r.phase = .completed) :
    isWhole trace inputs k r = true := by
  have positive := valid.framed.length_pos
  have handed : handedOver trace k r = r.fragments.length := by simp [handedOver, completed]
  have last := answered.accepted get (i := r.fragments.length - 1) (by
    rw [answered.completed get completed]
    exact Nat.sub_lt positive Nat.one_pos)
  have below : r.fragments.length - 1 < acceptedCount trace inputs k r :=
    (answered.lt_acceptedCount get (by omega)).mpr (mem_acceptances.mpr last)
  have := acceptedCount_le trace inputs k r
  exact (acceptedCount_eq_length answered shape valid get settled).mp (by omega)

/-- A request that has failed is not whole, as one of its packets was rejected. -/
lemma isWhole_of_failed (answered : Answered c inputs) (get : c.requests[k]? = some r)
    (failed : r.phase = .failed) : isWhole trace inputs k r = false := by
  obtain ⟨fault, mem⟩ := answered.failed get failed
  exact Bool.eq_false_iff.mpr fun whole => (isWhole_iff.mp whole).2 _ fault mem

/-- A request that was cancelled before its start has handed nothing over. -/
lemma isWhole_of_unstarted {start : Nat → Nat} (shape : Shape c trace start)
    (valid : r.Valid layout) (get : c.requests[k]? = some r)
    (unstarted : wasStarted trace k = false) : isWhole trace inputs k r = false := by
  refine Bool.eq_false_iff.mpr fun whole => ?_
  have first := (isWhole_iff.mp whole).1 0 valid.framed.length_pos
  have lt := (shape.mem_called get).mp first
  rw [shape.handedOver_eq_zero get unstarted] at lt
  exact Nat.not_lt_zero 0 lt

end Settled

/-! ## Accepted packets -/

section Blocks

variable {layout : Layout} {start k : Nat} {fragments : List Fragment}

/-- The calls of the first packets of a block are the block of the first packets. -/
lemma filter_block {p : Call → Bool} {count : Nat}
    (first : ∀ {i : Nat} {packet : Bytes}, i < fragments.length →
      (p ⟨k, i, packet⟩ = true ↔ i < count)) :
    (block layout start k fragments).filter (p ·.2) =
      block layout start k (fragments.take count) := by
  induction fragments using List.reverseRec with
  | nil => simp [block]
  | append_singleton fragments f ih =>
    have ih := ih fun lt => first (by simp; omega)
    have last {packet : Bytes} :
        p ⟨k, fragments.length, packet⟩ = true ↔ fragments.length < count := first (by simp)
    rw [block, List.mapIdx_concat, ← block, List.filter_append, ih]
    by_cases inside : fragments.length < count
    · have all : (fragments ++ [f]).length ≤ count := by
        rw [List.length_append, List.length_singleton]
        exact inside
      rw [List.take_of_length_le all, List.take_of_length_le (Nat.le_of_lt inside), block, block,
        List.mapIdx_concat]
      simp [last.mpr inside]
    · rw [List.take_append_of_le_length (by omega)]
      have out {packet : Bytes} : p ⟨k, fragments.length, packet⟩ = false := by
        simpa using mt last.mp inside
      simp [out]

/-- The packets of a block are those of its fragments, stamped from its first counter on. -/
lemma map_packet_block :
    (block layout start k fragments).map (·.2.packet) = packetsFrom layout start fragments := by
  apply List.ext_getElem <;> simp [block, packetsFrom]

end Blocks

/-- The first packets of the request in place `k`, as many as `count` says. -/
def firstPackets (layout : Layout) (start : Nat → Nat) (count : Nat → WriteRequest → Nat)
    (requests : List WriteRequest) (k : Nat) : List Bytes :=
  requests[k]?.elim [] fun r => packetsFrom layout (start k) (r.fragments.take (count k r))

/-- The accepted packets are a first part of every block. -/
lemma Shape.packets_accepted {c : Connection} {inputs : List Input} {trace : List Effect}
    {start : Nat → Nat} (shape : Shape c trace start) (answered : Answered c inputs) :
    ((calls trace).filter fun call => (call.request, call.index) ∈ acceptances inputs).map
        (·.packet) =
      (List.range c.requests.length).flatMap
        (firstPackets c.layout start (acceptedCount trace inputs) c.requests) := by
  rw [← map_snd_numberedCalls 0, List.filter_map, List.map_map, shape.numberedCalls_eq,
    List.filter_flatMap, List.map_flatMap]
  refine List.flatMap_congr fun k mem => ?_
  obtain ⟨r, get⟩ : ∃ r, c.requests[k]? = some r :=
    ⟨_, List.getElem?_eq_getElem (List.mem_range.mp mem)⟩
  simp only [blockOf, firstPackets, get, Option.elim]
  let handed := r.fragments.take (handedOver trace k r)
  have first : (block c.layout (start k) k handed).filter (fun call =>
      (call.2.request, call.2.index) ∈ acceptances inputs) =
        block c.layout (start k) k (handed.take (acceptedCount trace inputs k r)) :=
    filter_block (p := fun call => (call.request, call.index) ∈ acceptances inputs) fun lt => by
      rw [List.length_take, Nat.lt_min] at lt
      simpa using (answered.lt_acceptedCount get lt.1).symm
  rw [List.take_take, Nat.min_eq_left (acceptedCount_le ..)] at first
  exact (congrArg (List.map _) first).trans map_packet_block

/-! ## Delivered messages -/

/-- A connection that takes the first packets of some requests delivers the requests of which they
are all the packets. -/
lemma received_blocks {maxMessageSize : Number} {c : Connection}
    (accepting : Accepting maxMessageSize c) {requests : List WriteRequest}
    (valid : ∀ {k : Nat} {r : WriteRequest}, requests[k]? = some r → r.Valid c.layout)
    (fits : ∀ {k : Nat} {r : WriteRequest}, requests[k]? = some r →
      maxMessageSize.below (totalLength r.fragments : Nat) = false)
    (start : Nat → Nat) {count : Nat → WriteRequest → Nat}
    (bound : ∀ {k : Nat} {r : WriteRequest}, requests[k]? = some r →
      count k r ≤ r.fragments.length) (n : Nat) :
    let taken := c.takeAll ((List.range n).flatMap (firstPackets c.layout start count requests))
    (Accepting maxMessageSize taken.1 ∧ taken.1.layout = c.layout) ∧
      received taken.2 = (List.range n).flatMap fun k => requests[k]?.elim [] fun r =>
        if count k r = r.fragments.length then [r.message] else [] := by
  induction n with
  | zero => exact ⟨⟨accepting, rfl⟩, rfl⟩
  | succ n ih =>
    obtain ⟨⟨accepting', layout⟩, before⟩ := ih
    simp only [List.range_succ, List.flatMap_append, List.flatMap_singleton, takeAll_append,
      received_append, before]
    generalize c.takeAll ((List.range n).flatMap (firstPackets c.layout start count requests)) =
      taken at accepting' layout
    unfold firstPackets
    cases get : requests[n]? with
    | none => exact ⟨⟨accepting', layout⟩, by simp [received, events]⟩
    | some r =>
      obtain ⟨⟨progress, next, _⟩, message⟩ :=
        takeAll_block accepting' (valid get).framed (fits get) (start n) (bound get)
      rw [layout] at next message
      simp only [Option.elim, next, message]
      exact ⟨⟨accepting'.setProgress .., by rw [layout_setInbound, layout]⟩, rfl⟩

/-- The messages of the requests whose packets were all accepted. -/
lemma flatMap_acceptedCount {layout : Layout} {c : Connection} {inputs : List Input}
    {trace : List Effect} {start : Nat → Nat} (answered : Answered c inputs)
    (shape : Shape c trace start)
    (valid : ∀ {k : Nat} {r : WriteRequest}, c.requests[k]? = some r → r.Valid layout)
    (settled : (called trace).Perm (answers inputs)) :
    ((List.range c.requests.length).flatMap fun k => c.requests[k]?.elim [] fun r =>
        if acceptedCount trace inputs k r = r.fragments.length then [r.message] else []) =
      wholeMessages trace inputs c.requests := by
  rw [wholeMessages, List.flatMap]
  congr 1
  apply List.ext_getElem
  · simp
  · intro k bound _
    have bound : k < c.requests.length := by simpa using bound
    have get := List.getElem?_eq_getElem bound
    have whole := acceptedCount_eq_length answered shape (valid get) get settled
    simp only [List.getElem_map, List.getElem_range, get, Option.elim, List.getElem_mapIdx, whole]

end PacketLink.Connection
