import PacketLink.Proofs.Connection.Acceptance
import PacketLink.Proofs.Connection.Unhindered

/-!
# Whole messages one after the other

An unhindered connection hands over a first part of the packets of all its requests, one after the
other (`Shape.packets_prefix`), and all of them once its slot is free. A connection that holds
nothing and takes such a first part has emitted the first of the messages, each of them once and
without a framing error (`takeAll_of_prefix`).
-/

namespace PacketLink

/-- The event for a message that is complete. -/
def Message.delivery (message : Message) : Event :=
  Connection.delivery message.kind message.payload

namespace Connection

/-! ## Handing over -/

section HandingOver

/-- All packets of some requests, one after the other. -/
def wholePackets (layout : Layout) (start : Nat → Nat) (requests : List WriteRequest) :
    List Bytes :=
  (List.range requests.length).flatMap
    (firstPackets layout start (fun _ r => r.fragments.length) requests)

/-- Full blocks, then a part of one block, and no block behind it. -/
lemma flatMap_range_prefix {α : Type} {f g : Nat → List α} {j : Nat} (n : Nat)
    (full : ∀ k < j, f k = g k) (part : f j <+: g j) (empty : ∀ k, j < k → f k = []) :
    (List.range n).flatMap f <+: (List.range n).flatMap g := by
  have before (m : Nat) (le : m ≤ j) : (List.range m).flatMap f = (List.range m).flatMap g :=
    List.flatMap_congr fun k mem => full k (Nat.lt_of_lt_of_le (List.mem_range.mp mem) le)
  by_cases le : n ≤ j
  · exact before n le ▸ List.prefix_refl _
  · induction n, Nat.lt_of_not_le le using Nat.le_induction with
    | base =>
      rw [List.range_succ, List.flatMap_append, List.flatMap_append, before j (Nat.le_refl j)]
      simpa using part
    | succ n later ih =>
      rw [List.range_succ, List.flatMap_append, List.flatMap_append, List.flatMap_singleton,
        empty n later, List.append_nil]
      exact (ih (Nat.not_le_of_lt later)).trans (List.prefix_append ..)

variable {c : Connection} {inputs : List Input} {trace : List Effect} {start : Nat → Nat}

/-- The calls are a first part of the packets of every request. -/
lemma Shape.map_packet_calls (shape : Shape c trace start) :
    (calls trace).map (·.packet) = (List.range c.requests.length).flatMap
      (firstPackets c.layout start (handedOver trace) c.requests) := by
  rw [← map_snd_numberedCalls 0, List.map_map, shape.numberedCalls_eq, List.map_flatMap]
  refine List.flatMap_congr fun k mem => ?_
  have get := List.getElem?_eq_getElem (List.mem_range.mp mem)
  simp only [blockOf, firstPackets, get, Option.elim]
  exact map_packet_block

/-- The first packets are those of the first fragments. -/
lemma packetsFrom_take (layout : Layout) (start count : Nat) (fragments : List Fragment) :
    packetsFrom layout start (fragments.take count) =
      (packetsFrom layout start fragments).take count := by
  apply List.ext_getElem <;> simp [packetsFrom]

/-- A request in front of the slot has settled. -/
lemma WellFormed.isSettled_of_lt (wf : c.WellFormed) {j k : Nat} {r : WriteRequest}
    (active : c.active = some j) (lt : k < j) (get : c.requests[k]? = some r) :
    r.isSettled = true := by
  refine wf.isSettled get (fun same => ?_) fun mem => ?_
  · obtain rfl := Option.some.inj (active.symm.trans same)
    exact Nat.lt_irrefl _ lt
  · exact Nat.lt_asymm lt (wf.active_lt active mem)

/-- A request that has settled on the way of an unhindered connection has handed everything over. -/
lemma Going.handedOver_eq (going : Going c inputs trace) {k : Nat} {r : WriteRequest}
    (get : c.requests[k]? = some r) (settled : r.isSettled = true) :
    handedOver trace k r = r.fragments.length := by
  cases status : r.status with
  | settled result =>
    have completed := going.completed get status
    subst completed
    rw [handedOver, WriteRequest.phase_eq status]
    rfl
  | _ => cases (r.isSettled_eq status).symm.trans settled

/-- What an unhindered connection has handed over is a first part of all packets. -/
lemma Shape.packets_prefix (shape : Shape c trace start) (wf : c.WellFormed) (rest : c.AtRest)
    (going : Going c inputs trace) :
    (calls trace).map (·.packet) <+: wholePackets c.layout start c.requests ∧
      (c.active = none →
        (calls trace).map (·.packet) = wholePackets c.layout start c.requests) := by
  have full {k : Nat}
      (settled : ∀ {r : WriteRequest}, c.requests[k]? = some r → r.isSettled = true) :
      firstPackets c.layout start (handedOver trace) c.requests k =
        firstPackets c.layout start (fun _ r => r.fragments.length) c.requests k := by
    unfold firstPackets
    cases get : c.requests[k]? with
    | none => rfl
    | some r => rw [Option.elim, Option.elim, going.handedOver_eq get (settled get)]
  rw [shape.map_packet_calls]
  cases active : c.active with
  | none =>
    have all : (List.range c.requests.length).flatMap
        (firstPackets c.layout start (handedOver trace) c.requests) =
          wholePackets c.layout start c.requests :=
      List.flatMap_congr fun k _ => full fun get =>
        wf.isSettled get (by simp [active]) (by simp [rest active])
    exact ⟨all ▸ List.prefix_refl _, fun _ => all⟩
  | some j =>
    refine ⟨?_, fun free => by cases free⟩
    refine flatMap_range_prefix (j := j) _ (fun k lt => full (wf.isSettled_of_lt active lt)) ?_
      fun k lt => ?_
    · unfold firstPackets
      cases c.requests[j]? with
      | none => exact List.prefix_refl _
      | some r =>
        rw [Option.elim, Option.elim, List.take_length, packetsFrom_take]
        exact List.take_prefix ..
    · unfold firstPackets
      cases get : c.requests[k]? with
      | none => rfl
      | some r =>
        rw [Option.elim, shape.handedOver_eq_zero get (shape.behind active lt)]
        rfl

end HandingOver

/-! ## Taking -/

section Taking

variable {c : Connection} {maxMessageSize : Number}

/-- A connection that holds nothing of a message. -/
structure Idle (maxMessageSize : Number) (c : Connection) : Prop
    extends Accepting maxMessageSize c where
  progress_eq : ∀ kind, (c.inbound kind).progress = none

/-- The packet of a fragment leads to the events with which its stream answers to it. -/
lemma events_receive_wire (c : Connection) {counter : Nat}
    (range : counter < c.layout.counterSpace) (f : Fragment) :
    events (c.receive (f.wire c.layout counter)).1.effects =
      events (announce f.kind ((c.inbound f.kind).receive (f.stamp counter)).2) := by
  rw [receive, Packet.decode_wire range]
  rfl

/-- What the stream of `kind` holds after the first packets of a message. -/
def heldAfter (layout : Layout) (start : Nat) (fragments : List Fragment) (count : Nat) :
    Option Progress :=
  if count = 0 ∨ count = fragments.length then none
  else some (.awaiting fragments count ((start + count) % layout.counterSpace))

/-- The first packets of a message lead to nothing until they are all of it. -/
lemma Idle.takeAll_block (idle : c.Idle maxMessageSize) {kind : Kind} {fragments : List Fragment}
    (framed : Framed kind fragments)
    (fits : maxMessageSize.below (totalLength fragments : Nat) = false) (start : Nat) {count : Nat}
    (bound : count ≤ fragments.length) :
    let taken := c.takeAll (packetsFrom c.layout start (fragments.take count))
    taken.1 = c.setInbound kind
        { c.inbound kind with progress := heldAfter c.layout start fragments count } ∧
      events taken.2 =
        if count = fragments.length then [delivery kind (joined fragments)] else [] := by
  induction count with
  | zero =>
    have := framed.length_pos
    rw [heldAfter, if_pos (.inl rfl), if_neg (by omega), ← idle.progress_eq kind]
    exact ⟨(setInbound_inbound c kind).symm, rfl⟩
  | succ count ih =>
    obtain ⟨taken, none⟩ := ih (Nat.le_of_succ_le bound)
    have get := List.getElem?_eq_getElem bound
    have range := Nat.mod_lt (start + count) c.layout.counterSpace_pos
    have inside : (start + count) % c.layout.counterSpace <
        (c.inbound kind).layout.counterSpace := by rwa [idle.layout_eq]
    have kind_eq := framed.kind_eq get
    let held := heldAfter c.layout start fragments count
    let holding := c.setInbound kind { c.inbound kind with progress := held }
    have same : holding.layout = c.layout := layout_setInbound ..
    have next := (holding.receive_wire (by rwa [same]) fragments[count]).1
    have told := holding.events_receive_wire (by rwa [same]) fragments[count]
    have fitting := Reassembler.receive_fitting (r := { c.inbound kind with progress := held })
      framed get inside (by rwa [idle.limit_eq]) (by simp [held, heldAfter, Nat.ne_of_lt bound])
    rw [kind_eq, inbound_setInbound, same, fitting] at next told
    rw [setInbound_setInbound] at next
    rw [packetsFrom, mapIdx_take_succ get, takeAll_snoc, ← packetsFrom, taken]
    dsimp only
    rw [events_append, none, if_neg (Nat.ne_of_lt bound), List.nil_append, next, told]
    refine ⟨?_, ?_⟩
    · rw [Reassembler.following, heldAfter, idle.layout_eq, Nat.mod_add_mod, Nat.add_assoc]
      simp only [Nat.succ_ne_zero, false_or]
    · split <;> rfl

/-- A connection that takes a whole message delivers it, and holds nothing again. -/
lemma Idle.takeAll_whole (idle : c.Idle maxMessageSize) {kind : Kind} {fragments : List Fragment}
    (framed : Framed kind fragments)
    (fits : maxMessageSize.below (totalLength fragments : Nat) = false) (start : Nat) :
    let taken := c.takeAll (packetsFrom c.layout start fragments)
    (taken.1.Idle maxMessageSize ∧ taken.1.layout = c.layout) ∧
      events taken.2 = [delivery kind (joined fragments)] := by
  obtain ⟨taken, told⟩ := idle.takeAll_block framed fits start (Nat.le_refl _)
  rw [heldAfter, if_pos (.inr rfl), List.take_length] at taken
  rw [if_pos rfl, List.take_length] at told
  refine ⟨?_, told⟩
  rw [taken]
  refine ⟨⟨idle.toAccepting.setProgress .., fun other => ?_⟩, layout_setInbound ..⟩
  by_cases same : other = kind
  · rw [same, inbound_setInbound]
  · rw [inbound_setInbound_of_ne _ same]
    exact idle.progress_eq other

variable {requests : List WriteRequest}

/-- A connection that takes all packets of the first requests delivers their messages. -/
lemma Idle.takeAll_requests (idle : c.Idle maxMessageSize)
    (valid : ∀ {k : Nat} {r : WriteRequest}, requests[k]? = some r → r.Valid c.layout)
    (fits : ∀ {k : Nat} {r : WriteRequest}, requests[k]? = some r →
      maxMessageSize.below (totalLength r.fragments : Nat) = false) (start : Nat → Nat) (n : Nat) :
    let taken := c.takeAll ((List.range n).flatMap
      (firstPackets c.layout start (fun _ r => r.fragments.length) requests))
    (taken.1.Idle maxMessageSize ∧ taken.1.layout = c.layout) ∧
      events taken.2 = (requests.take n).map fun r => r.message.delivery := by
  induction n with
  | zero => exact ⟨⟨idle, rfl⟩, rfl⟩
  | succ n ih =>
    obtain ⟨⟨idle', layout⟩, before⟩ := ih
    simp only [List.range_succ, List.flatMap_append, List.flatMap_singleton, takeAll_append,
      events_append, before]
    generalize c.takeAll ((List.range n).flatMap
      (firstPackets c.layout start (fun _ r => r.fragments.length) requests)) = taken
      at idle' layout
    unfold firstPackets
    cases get : requests[n]? with
    | none =>
      rw [List.take_add_one, get]
      exact ⟨⟨idle', layout⟩, by simp [events]⟩
    | some r =>
      have whole := idle'.takeAll_whole (valid get).framed (fits get) (start n)
      rw [layout] at whole
      rw [Option.elim, List.take_length, List.take_add_one, get, List.map_append, whole.2]
      exact ⟨whole.1, rfl⟩

/-- A connection that takes a first part of such packets delivers the first of the messages, and
nothing else. -/
lemma Idle.takeAll_of_prefix (idle : c.Idle maxMessageSize)
    (valid : ∀ {k : Nat} {r : WriteRequest}, requests[k]? = some r → r.Valid c.layout)
    (fits : ∀ {k : Nat} {r : WriteRequest}, requests[k]? = some r →
      maxMessageSize.below (totalLength r.fragments : Nat) = false) (start : Nat → Nat) {n : Nat}
    {packets : List Bytes}
    (first : packets <+: (List.range n).flatMap
      (firstPackets c.layout start (fun _ r => r.fragments.length) requests)) :
    ∃ m, events (c.takeAll packets).2 = (requests.take m).map fun r => r.message.delivery := by
  induction n with
  | zero =>
    obtain rfl := List.prefix_nil.mp first
    exact ⟨0, rfl⟩
  | succ n ih =>
    rw [List.range_succ, List.flatMap_append, List.flatMap_singleton] at first
    obtain shorter | ⟨part, rfl⟩ := List.prefix_or_prefix_of_prefix first (List.prefix_append ..)
    · exact ih shorter
    · obtain ⟨⟨idle', layout⟩, before⟩ := idle.takeAll_requests valid fits start n
      have part_of := (List.prefix_append_right_inj _).mp first
      rw [takeAll_append, events_append, before]
      unfold firstPackets at part_of
      cases get : requests[n]? with
      | none =>
        rw [get] at part_of
        obtain rfl := List.prefix_nil.mp part_of
        exact ⟨n, List.append_nil _⟩
      | some r =>
        rw [get, Option.elim, List.take_length] at part_of
        have cut : part = packetsFrom c.layout (start n) (r.fragments.take part.length) := by
          rw [packetsFrom_take]
          exact List.prefix_iff_eq_take.mp part_of
        have bound : part.length ≤ r.fragments.length := by
          simpa [packetsFrom] using part_of.length_le
        have taken := (idle'.takeAll_block (valid get).framed (fits get) (start n) bound).2
        rw [layout, ← cut] at taken
        rw [taken]
        split
        · refine ⟨n + 1, ?_⟩
          rw [List.take_add_one, get, List.map_append]
          rfl
        · exact ⟨n, List.append_nil _⟩

end Taking

end Connection

end PacketLink
