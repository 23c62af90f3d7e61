import PacketLink.Proofs.Connection.Loss
import PacketLink.Proofs.Network.Order

/-!
# Delivery over a link that loses packets

A link may discard packets, and nobody tells the receiver. When the sender is not reset, packets are
delivered in the order of submission and losses are short, every message that the receiver delivers
is one that was sent, and all its packets were delivered (`Setting.receivedAt_of_shortLosses`).
Fewer losses in a row than there are counter values are not enough when the packets of the other
kind turn the counter once around (`Setting.receivedAt_narrow_mixed`).
-/

namespace PacketLink

open Connection (Call FewInARow Follows ShortLosses numberedCalls)

namespace Network

/-! ## Runs without a reset -/

/-- A delivery is nothing that the sender asks for. -/
lemma Linked.asked_deliver {n : Network} (linked : Linked n) (submission : Submission Sender) :
    (n.deliver 0 submission).1.asked 0 = n.asked 0 := by
  obtain ⟨near, placed, peer⟩ := linked.near_get
  obtain ⟨x, get⟩ := linked.receiver_get
  rw [linked.deliver_eq placed peer get]
  dsimp only
  split
  · rfl
  · let seen := (n.setEndpoint 0 (near.endpoint.askDrop submission.data).2).observe
      (.delivered 0 submission)
    have get' : (seen.observe (.taken 1 submission.data)).nodes[1]? = some x := get
    rw [Network.takeDelivery, asked_settleTurn get', if_neg (by decide), List.append_nil]
    calc (seen.observe (.taken 1 submission.data)).asked 0
      _ = seen.asked 0 := lookBack_unseen _ rfl
      _ = n.asked 0 := lookBack_unseen _ rfl

/-- Whether the counter of the sender has never started over. -/
def Calm (n : Network) : Prop := ∀ effect ∈ n.asked 0, effect.isReset = false

namespace Calm

variable {s : Setting} {n n' : Network}

/-- It depends on what the sender has asked for. -/
lemma of_same (calm : Calm n) (same : n'.asked 0 = n.asked 0) : Calm n' := by
  unfold Calm
  rw [same]
  exact calm

/-- What is noticed of something else does not start the counter over. -/
lemma observe (calm : Calm n) {o : Observation} (asked : o.asked? 0 = none) :
    Calm (n.observe o) :=
  calm.of_same (lookBack_unseen _ asked)

/-- A calm turn of the sender leaves the network calm. -/
lemma settleTurn (calm : Calm n) (linked : Linked n) {turn : Connection.Turn}
    (quiet : turn.Calm) : Calm (n.settleTurn 0 turn) := by
  obtain ⟨sender, get, _⟩ := linked.sender_get
  intro effect mem
  rw [asked_settleTurn get, if_pos rfl] at mem
  obtain before | now := List.mem_append.mp mem
  · exact calm effect before
  · exact quiet.isReset_eq effect now

/-- A turn of the loop does not start the counter over. -/
lemma turn (calm : Calm n) (wired : Wired s n) (turned : Turned n n') : Calm n' := by
  cases turned with
  | @deliver near oldest rest tasks waits get awaiting =>
    have linked := (wired.takeAwaiting waits get awaiting).toLinked
    exact calm.of_same (linked.asked_deliver oldest)
  | release => exact calm
  | @answer x k index outcome tasks waits =>
    have told := (wired.dequeue waits rfl rfl).observe (o := .answered 0 k index outcome) rfl rfl
      rfl
    have calm' : Calm { n with tasks } := calm
    exact (calm'.observe rfl).settleTurn told.toLinked (.conclude ..)
  | @emit node event listeners tasks =>
    have calm' : Calm { n with tasks } := calm
    exact calm'.observe rfl
  | @pass task tasks o _ _ _ _ note =>
    have calm' : Calm { n with tasks } := calm
    exact calm'.observe ((Observation.of_note note).1 0)
  | drop => exact calm

/-- The bookkeeping of the sender's operations does not start the counter over. -/
lemma kept : Kept Calm where
  books := fun calm _ _ _ => calm
  sent := fun calm _ => calm.observe rfl
  turn := fun linked calm _ quiet => calm.settleTurn linked quiet

/-- Deliveries and changes of the near endpoint do not start the counter over. -/
lemma passes (s : Setting) : Passes fun n => Wired s n ∧ Calm n where
  modifyEndpoint := fun ⟨wired, calm⟩ awaiting =>
    ⟨(Wired.passes s).modifyEndpoint wired awaiting, calm⟩
  later := fun ⟨wired, calm⟩ station event => ⟨wired.later station event, calm⟩
  deliver := fun ⟨wired, calm⟩ submission =>
    ⟨(wired.deliver submission).1, calm.of_same (wired.toLinked.asked_deliver submission)⟩

/-- Every step but a reset leaves the network calm. -/
lemma apply (calm : Calm n) (joined : Joined s n) {step : LinkStep} (noReset : step ≠ .reset) :
    Calm (step.apply n) := by
  have both : Wired s n ∧ Calm n := ⟨joined.wired, calm⟩
  exact kept.apply joined calm (fun reset => absurd reset noReset) (fun _ => calm)
    (fun error => ((passes s).release both error).2) ((passes s).resume both).2
    (calm.turn joined.wired)

/-- After steps without a reset the connections are joined and the counter has never started over.
-/
lemma run (s : Setting) {steps : List LinkStep} (noReset : ∀ step ∈ steps, step ≠ .reset) :
    Joined s (s.run steps) ∧ Calm (s.run steps) :=
  Joined.run_induction s (motive := Calm) (fun _ mem => by cases mem)
    (fun joined noReset calm => calm.apply joined noReset) noReset

end Calm

end Network

/-! ## Messages that are delivered -/

open Network

/-- When the sender is not reset, packets are delivered in the order of submission, and losses are
short, every message that the receiver has delivered is one that was sent, and all the packets of
its request were delivered. -/
theorem Setting.receivedAt_of_shortLosses (s : Setting) {steps : List LinkStep}
    (noReset : ∀ step ∈ steps, step ≠ .reset)
    (inOrder : ((s.run steps).deliveries 0).Sublist ((s.run steps).submissions 0))
    (short : ShortLosses s.layout.counterSpace ((s.run steps).requestsAt 0)
      (numberedCalls 0 ((s.run steps).asked 0)) ((s.run steps).deliveredPackets 0 0)) :
    let n := s.run steps
    ∀ message ∈ n.receivedAt 1, message ∈ n.sentAt 0 ∧
      ∃ (k : Nat) (r : WriteRequest), (n.requestsAt 0)[k]? = some r ∧ r.message = message ∧
        ∀ i < r.fragments.length, (k, i) ∈ n.deliveredPackets 0 0 := by
  obtain ⟨joined, calm⟩ := Calm.run s noReset
  intro n message mem
  obtain ⟨c, _, _, requests, path⟩ := joined.sender
  obtain ⟨start, shape⟩ := path.shape
  have layout : c.layout = s.layout := path.layout_eq
  have messages : c.requests.map (·.message) = n.sentAt 0 := path.messages_eq
  have sorted := (Connection.numberedCalls_sorted calm 0).1
  rw [submissions, ← Connection.map_snd_numberedCalls 0, List.map_map] at inOrder
  -- the calls that lead to what was delivered
  obtain ⟨arrived, sublist, same⟩ := List.sublist_map_iff.mp inOrder
  have keys : n.deliveredPackets 0 0 = arrived.map (·.2.key) := by
    rw [deliveredPackets, same, List.filterMap_map, ← List.filterMap_eq_map]
    rfl
  have data : (n.deliveries 0).map (·.data) = arrived.map (·.2.packet) := by
    rw [same, List.map_map]
    rfl
  have fresh : Follows c [] s.started :=
    ⟨layout.symm, fun kind => by cases kind <;> exact layout.symm,
      fun kind => .inl (by cases kind <;> rfl)⟩
  have sublist' : (arrived ++ []).Sublist (numberedCalls 0 (n.asked 0)) := by
    rwa [List.append_nil]
  have short' : ShortLosses c.layout.counterSpace c.requests (numberedCalls 0 (n.asked 0))
      ((arrived ++ []).map fun x : Nat × Call => x.2.key) := by
    rwa [List.append_nil, ← keys, layout, ← requests]
  have wf := path.wellFormed (Connection.wellFormed_new _ _ _)
  have delivered := (fresh.takeAll shape wf.valid sorted sublist' short').2
  rw [← data, ← joined.receivedAt_append] at delivered
  obtain ⟨k, r, get, same, whole⟩ := delivered message (List.mem_append_left _ mem)
  rw [requests, keys]
  refine ⟨?_, k, r, get, same, whole⟩
  rw [← messages, ← same]
  exact List.mem_map_of_mem (List.mem_of_getElem? get)

/-- Two data messages with a control message between them; the second and the fifth packet are
discarded. -/
def LinkStep.mixed : List LinkStep :=
  [.setDrop (some (.places [false, true, false, false, true, false])),
    .send "first" none (.inl ⟨.data, [1, 2]⟩), .send "second" none (.inl ⟨.control, [5, 6]⟩),
    .send "third" none (.inl ⟨.data, [3, 4]⟩)] ++ List.replicate 32 .turn

/-- The steps of the example neither reset nor hold. -/
lemma LinkStep.mixed_ne : ∀ step ∈ mixed, step ≠ .reset ∧ step ≠ .hold := by
  simp [mixed]

/-- With a counter of three bits both losses are noticed, and only the control message is
delivered. -/
theorem Setting.receivedAt_mixed :
    let s : Setting := { narrow with layout := .default }
    let n := s.run LinkStep.mixed
    (∀ step ∈ LinkStep.mixed, step ≠ .reset) ∧ (n.deliveries 0).Sublist (n.submissions 0) ∧
      ShortLosses s.layout.counterSpace (n.requestsAt 0) (numberedCalls 0 (n.asked 0))
        (n.deliveredPackets 0 0) ∧
      (∀ message ∈ n.receivedAt 1, message ∈ n.sentAt 0) ∧
      n.receivedAt 1 = [⟨.control, [5, 6]⟩] := by
  intro s n
  have noReset : ∀ step ∈ LinkStep.mixed, step ≠ .reset :=
    fun step mem => (LinkStep.mixed_ne step mem).1
  have inOrder : (n.deliveries 0).Sublist (n.submissions 0) :=
    (Ordered.run s fun step mem => (LinkStep.mixed_ne step mem).2).deliveries_sublist
  have short : ShortLosses s.layout.counterSpace (n.requestsAt 0) (numberedCalls 0 (n.asked 0))
      (n.deliveredPackets 0 0) := by decide +kernel
  exact ⟨noReset, inOrder, short,
    fun message mem => (s.receivedAt_of_shortLosses noReset inOrder short message mem).1,
    by decide +kernel⟩

/-- With a counter of one bit no two packets in a row are lost, and yet the first data message is
completed with the second packet of the other. -/
theorem Setting.receivedAt_narrow_mixed :
    let n := narrow.run LinkStep.mixed
    (∀ step ∈ LinkStep.mixed, step ≠ .reset) ∧ (n.deliveries 0).Sublist (n.submissions 0) ∧
      FewInARow narrow.layout.counterSpace (numberedCalls 0 (n.asked 0)) (n.deliveredPackets 0 0) ∧
      ⟨.data, [1, 4]⟩ ∈ n.receivedAt 1 ∧ ⟨.data, [1, 4]⟩ ∉ n.sentAt 0 := by
  intro n
  exact ⟨fun step mem => (LinkStep.mixed_ne step mem).1,
    (Ordered.run narrow fun step mem => (LinkStep.mixed_ne step mem).2).deliveries_sublist,
    by decide +kernel, by decide +kernel, by decide +kernel⟩

end PacketLink
