import PacketLink.Proofs.Network.Handlers

/-!
# Parcels

What was submitted on a link, each with the one thing that has become of it. A parcel whose wait is
over gets a fate that is final; `settle` gives it to the oldest parcel that waits somewhere. The
lemmas say what that changes for those who wait, for the outcomes and for what was seen of packets.
-/

namespace PacketLink

/-- A call that submits a packet, with what the endpoint had for it at the call. -/
structure Posting where
  side : Side
  data : Bytes
  /-- The size of the largest packet that the endpoint took. -/
  limit : Number
  /-- The message of the oldest failure that was planned. -/
  planned : Option String

/-- What has become of a submission. -/
inductive Fate where
  /-- It was too large, and the endpoint did not take it. -/
  | oversize
  /-- It used up a planned failure. -/
  | failed (message : String)
  | held
  | awaiting
  /-- It went to the peer, and to these handlers. -/
  | delivered (handlers : List Handler)
  /-- The drop rule discarded it. -/
  | dropped
  /-- It was held and then released with an error. -/
  | returned (message : String)
  deriving DecidableEq

namespace Fate

/-- The endpoint still has the packet. -/
def isWaiting : Fate → Bool
  | held | awaiting => true
  | _ => false

/-- The endpoint had the packet and has it no more. -/
def isFinal : Fate → Bool
  | delivered _ | dropped | returned _ => true
  | _ => false

/-- A final fate is none of those that wait. -/
lemma ne_of_isFinal {fate waiting : Fate} (final : fate.isFinal = true)
    (waits : waiting.isWaiting = true) : fate ≠ waiting := by
  rintro rfl
  cases fate <;> simp_all [isFinal, isWaiting]

end Fate

namespace Posting

/-- Whether the packet is within the limit. -/
def fits (p : Posting) : Bool := !p.limit.below p.data.length

/-- Whether the endpoint at `station` took the packet. -/
def isTaken (station : Nat) (p : Posting) : Bool := p.side.place = station && p.fits

/-- What becomes at once of a submission, at an endpoint that is `holding` or not. -/
def fate (p : Posting) (holding : Bool) : Fate :=
  if p.fits then
    match p.planned with
    | some message => .failed message
    | none => if holding then .held else .awaiting
  else .oversize

end Posting

/-- A submission by a caller and what has become of it. -/
structure Parcel extends Posting where
  ordinal : Nat
  fate : Fate

namespace Parcel

/-- The submission that the endpoint has while the parcel waits. -/
def submission (p : Parcel) : Submission Sender := ⟨p.data, .caller p.side.place p.ordinal⟩

/-- What the caller hears, which is nothing while the packet waits. -/
def outcome? (p : Parcel) : Option Outcome :=
  match p.fate with
  | .oversize => some (.rejected (Endpoint.oversize p.data.length p.limit))
  | .failed message => some (.rejected (.error message))
  | .held => none
  | .awaiting => none
  | .delivered _ => some .accepted
  | .dropped => some .accepted
  | .returned message => some (.rejected (.error message))

/-- The outcome of the call with its ordinal, once there is one. -/
def verdict? (p : Parcel) : Option (Nat × Nat × Outcome) :=
  p.outcome?.map (p.side.place, p.ordinal, ·)

/-- What can be seen of the packet: it leaves for the peer and then comes to each handler. -/
def passages (p : Parcel) : List Passage :=
  match p.fate with
  | .delivered handlers =>
    .delivered p.side.place p.submission :: handlers.map (.given · p.data)
  | _ => []

/-- Whether the packet went to the peer. -/
def isDelivered (p : Parcel) : Bool :=
  match p.fate with
  | .delivered _ => true
  | _ => false

/-- Whether the packet is at `station`, with this fate. -/
def waits (station : Nat) (fate : Fate) (p : Parcel) : Bool :=
  p.side.place = station && p.fate = fate

/-- The fate is one that the submission can have: only a packet that is too large is not taken, each
of the others uses up the failure that was planned for it, and nobody gets a packet twice. -/
structure Fated (p : Parcel) : Prop where
  oversize_iff : p.fate = .oversize ↔ p.fits = false
  failed_iff : ∀ message, p.fate = .failed message ↔ p.fits = true ∧ p.planned = some message
  nodup : ∀ handlers, p.fate = .delivered handlers → handlers.Nodup

/-- The oldest parcel that waits at `station` gets the fate that is found for its packet. -/
def settle (station : Nat) (waiting : Fate) (find : Bytes → Fate) : List Parcel → List Parcel
  | [] => []
  | p :: parcels =>
    if p.waits station waiting then { p with fate := find p.data } :: parcels
    else p :: settle station waiting find parcels

variable {station : Nat} {waiting fate : Fate} {find : Bytes → Fate} {p : Parcel}
  {before after parcels : List Parcel}

/-- What becomes of a submission at once is a fate that it can have. -/
lemma fated_fate (posting : Posting) (ordinal : Nat) (holding : Bool) :
    (Parcel.mk posting ordinal (posting.fate holding)).Fated := by
  obtain fits | fits := Bool.eq_false_or_eq_true posting.fits
  · cases planned : posting.planned with
    | some message =>
      have fate : posting.fate holding = .failed message := by
        simp only [Posting.fate, fits, planned, if_true]
      exact ⟨by simp [fate, fits], by simp [fate, fits, planned], by simp [fate]⟩
    | none =>
      have fate : posting.fate holding = if holding then .held else .awaiting := by
        simp only [Posting.fate, fits, planned, if_true]
      cases holding <;>
        exact ⟨by simp [fate, fits], by simp [fate, planned], by simp [fate]⟩
  · have fate : posting.fate holding = .oversize := by
      simp [Posting.fate, fits]
    exact ⟨by simp [fate, fits], by simp [fate, fits], by simp [fate]⟩

/-- A parcel that waits may get a final fate. -/
lemma Fated.final (fated : p.Fated) (waits : p.fate.isWaiting = true) (final : fate.isFinal = true)
    (nodup : ∀ handlers, fate = .delivered handlers → handlers.Nodup) :
    ({ p with fate } : Parcel).Fated := by
  have fits : p.fits = true := by
    rw [← Bool.not_eq_false, ← fated.oversize_iff]
    intro same
    rw [same] at waits
    cases waits
  have unplanned (message : String) : p.planned ≠ some message := by
    intro planned
    rw [(fated.failed_iff message).mpr ⟨fits, planned⟩] at waits
    cases waits
  refine ⟨?_, fun message => ?_, nodup⟩
  · rw [fits]
    refine ⟨fun same => ?_, fun same => by cases same⟩
    have same : fate = .oversize := same
    rw [same] at final
    cases final
  · refine ⟨fun same => ?_, fun planned => absurd planned.2 (unplanned message)⟩
    have same : fate = .failed message := same
    rw [same] at final
    cases final

/-- Nobody hears of a parcel that waits. -/
lemma verdict?_of_waiting (waits : p.fate.isWaiting = true) : p.verdict? = none := by
  revert waits
  unfold verdict? outcome?
  cases p.fate <;> simp [Fate.isWaiting]

/-- The caller hears of a parcel that has a final fate. -/
lemma exists_outcome (final : p.fate.isFinal = true) : ∃ outcome, p.outcome? = some outcome := by
  revert final
  unfold outcome?
  cases p.fate <;> simp [Fate.isFinal]

/-- A parcel that waits was not delivered. -/
lemma isDelivered_of_waiting (waits : p.fate.isWaiting = true) : p.isDelivered = false := by
  revert waits
  unfold isDelivered
  cases p.fate <;> simp [Fate.isWaiting]

/-- Nothing is seen of a packet that was not delivered. -/
lemma passages_of_not_isDelivered (lost : p.isDelivered = false) : p.passages = [] := by
  revert lost
  unfold isDelivered passages
  cases p.fate <;> simp

/-! ## Settling -/

/-- The oldest parcel that waits is changed in its place. -/
lemma settle_eq (waits : p.waits station waiting = true)
    (earlier : ∀ q ∈ before, ¬q.waits station waiting = true) :
    settle station waiting find (before ++ p :: after) =
      before ++ { p with fate := find p.data } :: after := by
  induction before with
  | nil => exact if_pos waits
  | cons q before ih =>
    rw [List.forall_mem_cons] at earlier
    rw [List.cons_append, settle, if_neg earlier.1, ih earlier.2, List.cons_append]

/-- The calls stay what they were. -/
lemma map_toPosting_settle :
    (settle station waiting find parcels).map (·.toPosting) = parcels.map (·.toPosting) := by
  induction parcels with
  | nil => rfl
  | cons p parcels ih =>
    rw [settle]
    split
    · rfl
    · rw [List.map_cons, ih, List.map_cons]

/-- A parcel that waits no more is never settled again. -/
lemma getElem?_settle (waits : waiting.isWaiting = true) {i : Nat} (get : parcels[i]? = some p)
    (done : p.fate.isWaiting = false) : (settle station waiting find parcels)[i]? = some p := by
  induction parcels generalizing i with
  | nil => cases get
  | cons q parcels ih =>
    rw [settle]
    cases i with
    | zero =>
      obtain rfl : q = p := Option.some.inj get
      have apart : ¬q.waits station waiting = true := by
        intro here
        have same : q.fate = waiting := by
          rw [Parcel.waits, Bool.and_eq_true, decide_eq_true_eq, decide_eq_true_eq] at here
          exact here.2
        rw [same, waits] at done
        cases done
      rw [if_neg apart, List.getElem?_cons_zero]
    | succ i =>
      rw [List.getElem?_cons_succ] at get
      split
      · exact get
      · exact ih get

/-- Where no parcel waits nobody is settled. -/
lemma settle_of_none (none : parcels.filter (·.waits station waiting) = []) :
    settle station waiting find parcels = parcels := by
  induction parcels with
  | nil => rfl
  | cons p parcels ih =>
    rw [List.filter_eq_nil_iff, List.forall_mem_cons, ← List.filter_eq_nil_iff] at none
    rw [settle, if_neg none.1, ih none.2]

/-- The oldest submission that waits is that of the oldest parcel that waits. -/
lemma exists_split {oldest : Submission Sender} {rest : List (Submission Sender)}
    (waits : oldest :: rest = (parcels.filter (·.waits station waiting)).map (·.submission)) :
    ∃ before p after, parcels = before ++ p :: after ∧ p.waits station waiting = true ∧
      p.submission = oldest ∧ ∀ q ∈ before, ¬q.waits station waiting = true := by
  obtain ⟨p, rest', among, same, _⟩ := List.map_eq_cons_iff.mp waits.symm
  obtain ⟨before, after, split, earlier, here, _⟩ := List.filter_eq_cons_iff.mp among
  exact ⟨before, p, after, split, here, same, earlier⟩

/-- The parcel that is settled, the oldest one, waits no more. -/
lemma filter_waits_settled (earlier : ∀ q ∈ before, ¬q.waits p.side.place p.fate = true)
    (final : fate.isFinal = true) {other : Fate} (waiting : other.isWaiting = true) :
    (before ++ p :: after).filter (·.waits station other) =
      (if p.waits station other then [p] else []) ++
        (before ++ { p with fate } :: after).filter (·.waits station other) := by
  have gone : ({ p with fate } : Parcel).waits station other = false := by
    simp [waits, Fate.ne_of_isFinal final waiting]
  by_cases waits : p.waits station other = true
  · obtain ⟨rfl, rfl⟩ : p.side.place = station ∧ p.fate = other := by
      simpa [Parcel.waits] using waits
    have none := List.filter_eq_nil_iff.mpr earlier
    simp [none, waits, gone]
  · simp [waits, gone]

/-- The outcome of the parcel that is settled is one more. -/
lemma verdicts_settled (waits : p.fate.isWaiting = true) :
    ((before ++ p :: after).filterMap verdict? ++
        (({ p with fate } : Parcel).verdict?).toList).Perm
      ((before ++ { p with fate } :: after).filterMap verdict?) := by
  simp only [List.filterMap_append, List.filterMap_cons, verdict?_of_waiting waits]
  cases ({ p with fate } : Parcel).verdict? with
  | none => simp
  | some verdict =>
    rw [List.append_assoc]
    exact List.Perm.append_left _ (List.perm_append_singleton ..)

/-- The passages of the parcel that is settled come behind all others. -/
lemma passages_settled (fate : Fate) (waits : p.fate.isWaiting = true) {order : List Parcel}
    (perm : order.Perm ((before ++ p :: after).filter (·.isDelivered))) :
    ∃ order' : List Parcel,
      order'.Perm ((before ++ { p with fate } :: after).filter (·.isDelivered)) ∧
        order'.flatMap (·.passages) =
          order.flatMap (·.passages) ++ ({ p with fate } : Parcel).passages := by
  rw [List.filter_append, List.filter_cons_of_neg (by simp [isDelivered_of_waiting waits]),
    ← List.filter_append] at perm
  cases delivered : ({ p with fate } : Parcel).isDelivered with
  | false =>
    refine ⟨order, ?_, ?_⟩
    · rw [List.filter_append, List.filter_cons_of_neg (by simp [delivered]), ← List.filter_append]
      exact perm
    · rw [passages_of_not_isDelivered delivered, List.append_nil]
  | true =>
    refine ⟨order ++ [{ p with fate }], ?_, by simp⟩
    rw [List.filter_append, List.filter_cons_of_pos delivered]
    rw [List.filter_append] at perm
    exact (perm.append_right _).trans (by
      rw [List.append_assoc]
      exact List.Perm.append_left _ (List.perm_append_singleton ..))

end Parcel

/-! ## Endpoints -/

namespace Endpoint

/-- The call that submits a packet at this endpoint, which is the one at `side`. -/
def posting (e : Endpoint Sender) (side : Side) (data : Bytes) : Posting :=
  ⟨side, data, e.maxPacketSize, e.failures.head?⟩

/-- The parcel that comes of a submission at this endpoint. -/
def parcel (e : Endpoint Sender) (side : Side) (data : Bytes) (ordinal : Nat) : Parcel :=
  ⟨e.posting side data, ordinal, (e.posting side data).fate e.holding⟩

/-- The parcels account for the endpoint at `station`, where these failures were planned. -/
structure Agrees (plans : List String) (parcels : List Parcel) (station : Nat)
    (e : Endpoint Sender) : Prop where
  /-- What the endpoint recorded are the packets that it took, in the order of the calls. -/
  submitted : e.submitted.toList =
    ((parcels.map (·.toPosting)).filter (·.isTaken station)).map (·.data)
  /-- The packets that it took have used up the planned failures, oldest first. -/
  failures : plans =
    ((parcels.map (·.toPosting)).filter (·.isTaken station)).filterMap (·.planned) ++ e.failures
  held : e.held = (parcels.filter (·.waits station .held)).map (·.submission)
  awaiting : e.awaiting = (parcels.filter (·.waits station .awaiting)).map (·.submission)

variable {plans : List String} {before after parcels : List Parcel} {station : Nat}
  {e e' : Endpoint Sender} {p : Parcel} {fate : Fate}

/-- The four things that can become of a parcel when it is submitted. -/
inductive Takes (e : Endpoint Sender) (p : Parcel) : Endpoint Sender → Disposition → Prop where
  | oversize (large : p.fits = false) (fate : p.fate = .oversize) :
    Takes e p e (.refused (oversize p.data.length p.limit))
  | failed {message : String} {failures : List String} (fits : p.fits = true)
    (oldest : e.failures = message :: failures) (planned : p.planned = some message)
    (fate : p.fate = .failed message) :
    Takes e p { e with submitted := e.submitted.push p.data, failures }
      (.refused (.error message))
  | held (fits : p.fits = true) (unplanned : p.planned = none) (fate : p.fate = .held) :
    Takes e p { e with submitted := e.submitted.push p.data, held := e.held ++ [p.submission] }
      .held
  | accepted (fits : p.fits = true) (unplanned : p.planned = none) (fate : p.fate = .awaiting) :
    Takes e p
      { e with submitted := e.submitted.push p.data, awaiting := e.awaiting ++ [p.submission] }
      .accepted

/-- What becomes of a submission is what its parcel says. -/
lemma takes_submit (e : Endpoint Sender) (side : Side) (data : Bytes) (ordinal : Nat) :
    ∃ e' disposition,
      e.submit (e.parcel side data ordinal).submission = (e', disposition) ∧
        e.Takes (e.parcel side data ordinal) e' disposition := by
  have parcel : e.parcel side data ordinal =
      ⟨e.posting side data, ordinal, (e.posting side data).fate e.holding⟩ := rfl
  cases large : e.maxPacketSize.below data.length with
  | true =>
    have fits : (e.posting side data).fits = false := by simp [Posting.fits, posting, large]
    exact ⟨_, _, if_pos large, .oversize fits (by simp [parcel, Posting.fate, fits])⟩
  | false =>
    have fits : (e.posting side data).fits = true := by simp [Posting.fits, posting, large]
    cases planned : e.failures with
    | cons message failures =>
      have oldest : (e.posting side data).planned = some message := by simp [posting, planned]
      refine ⟨_, _, ?_, .failed fits planned oldest (by simp [parcel, Posting.fate, fits, oldest])⟩
      simp [submit, parcel, Parcel.submission, posting, large, planned]
    | nil =>
      have none : (e.posting side data).planned = none := by simp [posting, planned]
      cases holding : e.holding with
      | true =>
        refine ⟨_, _, ?_, .held fits none (by simp [parcel, Posting.fate, fits, none, holding])⟩
        simp [submit, parcel, Parcel.submission, posting, large, planned, holding]
      | false =>
        refine ⟨_, _, ?_, .accepted fits none (by simp [parcel, Posting.fate, fits, none, holding])⟩
        simp [submit, parcel, Parcel.submission, posting, large, planned, holding]

/-- Nothing is delivered at the call. -/
lemma Takes.isDelivered_eq {disposition : Disposition} (took : e.Takes p e' disposition) :
    p.isDelivered = false := by
  cases took <;> simp [Parcel.isDelivered, *]

namespace Agrees

/-- Parcels account for nothing else of an endpoint. -/
lemma of_same (agrees : e.Agrees plans parcels station) (submitted : e'.submitted = e.submitted)
    (failures : e'.failures = e.failures) (held : e'.held = e.held)
    (awaiting : e'.awaiting = e.awaiting) : e'.Agrees plans parcels station := by
  refine ⟨?_, ?_, held.trans agrees.held, awaiting.trans agrees.awaiting⟩
  · rw [submitted]
    exact agrees.submitted
  · rw [failures]
    exact agrees.failures

/-- One more failure is planned. -/
lemma failNext (agrees : e.Agrees plans parcels station) (message : String) :
    (e.failNext message).Agrees (plans ++ [message]) parcels station := by
  refine ⟨agrees.submitted, ?_, agrees.held, agrees.awaiting⟩
  rw [agrees.failures, List.append_assoc]
  rfl

/-- A parcel at the other end is none of this endpoint's. -/
lemma append_other (agrees : e.Agrees plans parcels station) (apart : p.side.place ≠ station) :
    e.Agrees plans (parcels ++ [p]) station := by
  refine ⟨agrees.submitted.trans ?_, agrees.failures.trans ?_, agrees.held.trans ?_,
    agrees.awaiting.trans ?_⟩ <;> simp [Posting.isTaken, Parcel.waits, apart]

/-- A packet that fits is recorded and uses up a planned failure, and one that waits is the last
one to wait. -/
lemma append (agrees : e.Agrees plans parcels p.side.place)
    (submitted : e'.submitted.toList = e.submitted.toList ++ if p.fits then [p.data] else [])
    (failures : e.failures = (if p.fits then p.planned.toList else []) ++ e'.failures)
    (held : e'.held = e.held ++ if p.fate = .held then [p.submission] else [])
    (awaiting : e'.awaiting = e.awaiting ++ if p.fate = .awaiting then [p.submission] else []) :
    e'.Agrees plans (parcels ++ [p]) p.side.place := by
  refine ⟨?_, ?_, ?_, ?_⟩
  · rw [submitted, agrees.submitted]
    by_cases fits : p.fits <;> simp [Posting.isTaken, fits]
  · rw [agrees.failures, failures]
    by_cases fits : p.fits
    · cases planned : p.planned <;> simp [Posting.isTaken, fits, planned]
    · simp [Posting.isTaken, fits]
  · rw [held, agrees.held]
    by_cases fate : p.fate = .held <;> simp [Parcel.waits, fate]
  · rw [awaiting, agrees.awaiting]
    by_cases fate : p.fate = .awaiting <;> simp [Parcel.waits, fate]

/-- An endpoint that has taken a parcel or refused it agrees with the parcels and this one. -/
lemma takes {disposition : Disposition} (agrees : e.Agrees plans parcels p.side.place)
    (took : e.Takes p e' disposition) : e'.Agrees plans (parcels ++ [p]) p.side.place := by
  cases took with
  | oversize large fate =>
    exact agrees.append (by simp [large]) (by simp [large]) (by simp [fate]) (by simp [fate])
  | failed fits oldest planned fate =>
    exact agrees.append (by simp [fits]) (by simp [fits, oldest, planned]) (by simp [fate])
      (by simp [fate])
  | held fits unplanned fate =>
    exact agrees.append (by simp [fits]) (by simp [fits, unplanned]) (by simp [fate])
      (by simp [fate])
  | accepted fits unplanned fate =>
    exact agrees.append (by simp [fits]) (by simp [fits, unplanned]) (by simp [fate])
      (by simp [fate])

/-- Asking the drop rule changes nothing that parcels account for. -/
lemma askDrop (agrees : e.Agrees plans parcels station) (data : Bytes) :
    (e.askDrop data).2.Agrees plans parcels station := by
  obtain ⟨_, asked⟩ := e.exists_askDrop data
  rw [asked]
  exact agrees.of_same rfl rfl rfl rfl

/-- When a parcel is settled, the endpoint has lost it, and nothing else. -/
lemma settled (agrees : e.Agrees plans (before ++ p :: after) station)
    (earlier : ∀ q ∈ before, ¬q.waits p.side.place p.fate = true) (final : fate.isFinal = true)
    (submitted : e'.submitted = e.submitted) (failures : e'.failures = e.failures)
    (held : e.held = (if p.waits station .held then [p.submission] else []) ++ e'.held)
    (awaiting :
      e.awaiting = (if p.waits station .awaiting then [p.submission] else []) ++ e'.awaiting) :
    e'.Agrees plans (before ++ { p with fate } :: after) station := by
  have postings : (before ++ { p with fate } :: after).map (·.toPosting) =
      (before ++ p :: after).map (·.toPosting) := by simp
  refine ⟨?_, ?_, ?_, ?_⟩
  · rw [postings, submitted]
    exact agrees.submitted
  · rw [postings, failures]
    exact agrees.failures
  · have all := held.symm.trans agrees.held
    rw [Parcel.filter_waits_settled earlier final rfl, List.map_append] at all
    refine List.append_cancel_left (all.trans ?_)
    split <;> rfl
  · have all := awaiting.symm.trans agrees.awaiting
    rw [Parcel.filter_waits_settled earlier final rfl, List.map_append] at all
    refine List.append_cancel_left (all.trans ?_)
    split <;> rfl

end Agrees

end Endpoint

end PacketLink
