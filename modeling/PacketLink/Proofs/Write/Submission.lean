import PacketLink.Proofs.Write.Life

/-!
# What a write request submits

`Life.Counted` keeps account of a request: its packets are submitted in their order, each after the
one before has been accepted, so that only the one behind the accepted packets can be without an
outcome. `Life.Drawn` says what the packets are while nobody else draws from the counter, and
`Life.Concluded` what the outcome tells about the account. Main statement: `Life.submits_in_turn`.
-/

namespace PacketLink

namespace WriteRequest

/-- The packet that was accepted while the request was in flight. -/
def Occurrence.accepted? (o : Occurrence) : Option Nat :=
  match o.operation with
  | .conclude index .accepted => if o.before.isInFlight then some index else none
  | _ => none

/-- The counter that the request was started with. -/
def Occurrence.basis? (o : Occurrence) : Option Counter :=
  match o.operation, o.answer with
  | .start counter, .started => some counter
  | _, _ => none

/-- A packet is submitted while the request has no outcome: the first one by a start, and another
one when the packet before it has been accepted in flight. -/
def Occurrence.InTurn (o : Occurrence) : Prop :=
  ∀ index packet, .submit index packet ∈ o.effects →
    o.before.isSettled = false ∧
      match index with
      | 0 => ∃ counter, o.operation = .start counter ∧ o.answer = .started
      | index + 1 => o.operation = .conclude index .accepted ∧ o.before.isInFlight = true

namespace Life

variable (life : Life)

/-- The packets that were accepted while the request was in flight, in order. -/
def accepted : List Nat := life.past.filterMap (·.accepted?)

/-- The counter that the request was started with, if it has been started. -/
def basis : Option Counter := life.past.findSome? (·.basis?)

/-- Nobody else uses the counter while the request is in flight. -/
def SoleUser : Prop :=
  ∀ o ∈ life.past, ∀ counter, o.operation = .share counter → o.before.isInFlight = false

/-- What writing packet `i` with its value of the counter gives. -/
def written (i : Nat) : Option (Except InvalidArgument Bytes) :=
  life.basis.bind fun counter => life.request.fragments[i]?.map fun f =>
    (f.stamp (counter.advance i).value).encode life.request.layout life.request.maxPacketSize

variable {life : Life} {layout : Layout} {operation : Operation} {answer : Answer} {turn : Turn}

/-! ## The account of a request -/

section Record

/-- An operation adds the submissions of its turn. -/
lemma submissions_record : (life.record operation answer turn).submissions =
    life.submissions ++ turn.effects.filterMap Effect.submission? := by
  simp [submissions, record]

/-- An operation adds the acceptance that it heard, if any. -/
lemma accepted_record : (life.record operation answer turn).accepted = life.accepted ++
    (Occurrence.accepted?
      ⟨operation, life.request, turn.request, turn.effects, answer⟩).toList := by
  simp only [accepted, record, List.filterMap_append]
  congr 1

/-- The counter of the start stays the basis. -/
lemma basis_record : (life.record operation answer turn).basis =
    life.basis.or
      (Occurrence.basis? ⟨operation, life.request, turn.request, turn.effects, answer⟩) := by
  simp [basis, record, List.findSome?_append]

end Record

/-- What was accepted has its outcome. -/
lemma answered_of_accepted {index : Nat} (mem : index ∈ life.accepted) : index ∈ life.answered := by
  obtain ⟨o, here, accepted⟩ := List.mem_filterMap.mp mem
  refine List.mem_filterMap.mpr ⟨o, here, ?_⟩
  unfold Occurrence.accepted? at accepted
  split at accepted
  · rename_i same
    split at accepted
    · rw [same]
      exact accepted
    · cases accepted
  · cases accepted

/-- What an outcome says about the account. -/
def Tells (life : Life) : WriteResult → Prop
  | .completed count => count = life.request.sentCount ∧ count = life.request.fragments.length
  | .failed (.submit e) sent =>
    sent = life.request.sentCount ∧ sent < life.request.fragments.length ∧ e.packetIndex = sent ∧
      ∃ o ∈ life.past, o.operation = .conclude sent (.rejected e.cause)
  | .failed (.encode e) sent =>
    sent = life.request.sentCount ∧ sent < life.request.fragments.length ∧
      life.submissions.length = sent ∧ life.written sent = some (.error e)
  | .cancelled sent => sent = life.request.sentCount ∧ sent < life.request.fragments.length

/-- The account of what was submitted, accepted and drawn from the counter. -/
structure Account (life : Life) : Prop where
  in_order : life.submissions.map (·.1) = List.range life.submissions.length
  written : ∀ p ∈ life.submissions, life.written p.1 = some (.ok p.2)
  accepted_eq : life.accepted = List.range life.request.sentCount
  length_le : life.submissions.length ≤ life.request.sentCount + 1
  within : life.submissions.length ≤ life.request.fragments.length
  pending : life.request.status = .pending → life.submissions = [] ∧ life.basis = none
  inFlight : life.request.status = .inFlight →
    life.submissions.length = life.request.sentCount + 1 ∧
      ∃ counter, life.basis = some counter ∧
        life.counter = counter.advance life.submissions.length
  settled : ∀ {result}, life.request.status = .settled result → life.Tells result

/-- At its beginning nothing of a request was submitted or accepted. -/
lemma account_begin {r : WriteRequest} (valid : r.Valid layout) (pending : r.status = .pending) :
    (begin r).Account where
  in_order := rfl
  written p mem := by cases mem
  accepted_eq := by rw [begin, valid.pending_sentCount pending]; rfl
  length_le := Nat.zero_le _
  within := Nat.zero_le _
  pending _ := ⟨rfl, rfl⟩
  inFlight flying := by cases pending.symm.trans flying
  settled done := by cases pending.symm.trans done

namespace Account

/-- The packet without an outcome is the one behind the accepted ones. -/
lemma due (account : life.Account) {index : Nat} (waits : index ∈ life.unanswered) :
    index = life.request.sentCount := by
  rw [unanswered, account.in_order, List.mem_filter, List.mem_range] at waits
  obtain ⟨submitted, open_⟩ := waits
  have behind : ¬ index < life.request.sentCount := fun before =>
    of_decide_eq_true open_ <| answered_of_accepted <| by
      rw [account.accepted_eq]
      exact List.mem_range.mpr before
  have := account.length_le
  omega

/-- At most one submission has not been answered. -/
lemma unanswered_length (account : life.Account) : life.unanswered.length ≤ 1 := by
  have nodup : life.unanswered.Nodup := by
    rw [unanswered, account.in_order]
    exact List.nodup_range.filter _
  match same : life.unanswered with
  | [] | [_] => simp
  | a :: b :: rest =>
    rw [same] at nodup
    have first : a = life.request.sentCount := account.due (by simp [same])
    have second : b = life.request.sentCount := account.due (by simp [same])
    simp [first, second] at nodup

end Account

/-- What an operation puts into the account: nothing, a packet that is submitted, or the outcome. -/
inductive Entry (life next : Life) : Prop where
  | nothing :
    next.request = life.request → next.submissions = life.submissions →
    next.accepted = life.accepted → next.basis = life.basis →
    (life.request.status = .inFlight → next.counter = life.counter) →
    (∀ o ∈ life.past, o ∈ next.past) → Entry life next
  | submit {index : Nat} {packet : Bytes} {counter : Counter} :
    index = life.submissions.length → index < life.request.fragments.length →
    next.request = { life.request with status := .inFlight, sentCount := index } →
    next.submissions = life.submissions ++ [(index, packet)] →
    next.accepted = List.range index →
    (∀ counter, life.basis = some counter → next.basis = some counter) →
    next.basis = some counter → next.counter = counter.advance (index + 1) →
    next.written index = some (.ok packet) → Entry life next
  | settle {sentCount : Nat} {result : WriteResult} :
    life.request.sentCount ≤ sentCount →
    next.request = { life.request with status := .settled result, sentCount } →
    next.submissions = life.submissions → next.accepted = List.range sentCount →
    (∀ counter, life.basis = some counter → next.basis = some counter) →
    next.Tells result → Entry life next

/-- What was written stays written. -/
lemma written_of_basis {next : Life} {i : Nat} {outcome : Except InvalidArgument Bytes}
    (request : ∃ status sentCount, next.request = { life.request with status, sentCount })
    (basis : ∀ counter, life.basis = some counter → next.basis = some counter)
    (here : life.written i = some outcome) : next.written i = some outcome := by
  obtain ⟨_, _, request⟩ := request
  unfold written at here ⊢
  obtain ⟨counter, started, rest⟩ := Option.bind_eq_some_iff.mp here
  rw [basis counter started, request]
  exact rest

/-- Every entry keeps the account of the submissions. -/
lemma Account.step {next : Life} (account : life.Account) (entry : Entry life next) :
    next.Account := by
  cases entry with
  | nothing request submissions accepted basis counter past =>
    have kept {i : Nat} {outcome} (here : life.written i = some outcome) :
        next.written i = some outcome :=
      written_of_basis ⟨_, _, request⟩ (fun _ started => basis.trans started) here
    refine ⟨?_, ?_, ?_, ?_, ?_, ?_, ?_, ?_⟩
    · rw [submissions]; exact account.in_order
    · rw [submissions]; exact fun p mem => kept (account.written p mem)
    · rw [accepted, request]; exact account.accepted_eq
    · rw [submissions, request]; exact account.length_le
    · rw [submissions, request]; exact account.within
    · rw [submissions, request, basis]; exact account.pending
    · intro flying
      rw [request] at flying
      rw [submissions, request, basis, counter flying]
      exact account.inFlight flying
    · intro result done
      rw [request] at done
      have tells := account.settled done
      match result with
      | .completed _ | .cancelled _ => simpa only [Tells, request] using tells
      | .failed (.submit e) sent =>
        obtain ⟨count, more, index, o, mem, rejected⟩ := tells
        exact ⟨by rw [request]; exact count, by rw [request]; exact more, index, o, past o mem,
          rejected⟩
      | .failed (.encode e) sent =>
        obtain ⟨count, more, length, failed⟩ := tells
        exact ⟨by rw [request]; exact count, by rw [request]; exact more,
          by rw [submissions]; exact length, kept failed⟩
  | submit same more request submissions accepted basis started counter written =>
    have length : next.submissions.length = life.submissions.length + 1 := by
      rw [submissions, List.length_append, List.length_singleton]
    subst same
    refine ⟨?_, ?_, ?_, ?_, ?_, ?_, ?_, ?_⟩
    · rw [length, submissions, List.map_append, account.in_order, List.range_succ]
      rfl
    · intro p mem
      rw [submissions] at mem
      obtain mem | mem := List.mem_append.mp mem
      · exact written_of_basis ⟨_, _, request⟩ basis (account.written p mem)
      · exact List.mem_singleton.mp mem ▸ written
    · rw [accepted, request]
    · rw [length, request]
    · rw [length, request]; exact more
    · intro pending; rw [request] at pending; cases pending
    · intro _
      rw [length, request]
      exact ⟨rfl, _, started, counter⟩
    · intro result done; rw [request] at done; cases done
  | settle le request submissions accepted basis tells =>
    refine ⟨?_, ?_, ?_, ?_, ?_, ?_, ?_, ?_⟩
    · rw [submissions]; exact account.in_order
    · rw [submissions]
      exact fun p mem => written_of_basis ⟨_, _, request⟩ basis (account.written p mem)
    · rw [accepted, request]
    · rw [submissions, request]
      exact Nat.le_trans account.length_le (Nat.succ_le_succ le)
    · rw [submissions, request]; exact account.within
    · intro pending; rw [request] at pending; cases pending
    · intro flying; rw [request] at flying; cases flying
    · intro result done
      rw [request] at done
      cases done
      exact tells

/-! ## One operation -/

section Step

variable {next : Life}

/-- What an attempt to submit the packet behind the submitted ones puts into the account. -/
lemma entry_of_attempt {r : WriteRequest} (basis : Counter) {counter : Counter}
    (attempt : Attempt r counter turn)
    (same : r = { life.request with status := .inFlight, sentCount := life.submissions.length })
    (request : next.request = turn.request)
    (submissions : next.submissions =
      life.submissions ++ turn.effects.filterMap Effect.submission?)
    (accepted : next.accepted = List.range life.submissions.length)
    (kept : ∀ counter, life.basis = some counter → next.basis = some counter)
    (started : next.basis = some basis) (left : next.counter = turn.counter)
    (drawn : counter = basis.advance life.submissions.length)
    (le : life.request.sentCount ≤ life.submissions.length) : Entry life next := by
  have written {f : Fragment} {status sentCount}
      (request : next.request = { life.request with status, sentCount })
      (get : life.request.fragments[life.submissions.length]? = some f) :
      next.written life.submissions.length =
        some ((f.stamp counter.value).encode life.request.layout life.request.maxPacketSize) := by
    unfold Life.written
    rw [started, request, Option.bind_some, get, Option.map_some, drawn]
  subst same
  cases attempt with
  | submit get encoded =>
    refine .submit rfl (List.getElem?_eq_some_iff.mp get).1 request submissions accepted kept
      started ?_ ?_
    · rw [left, drawn, Counter.advance_advance]
    · rw [written request get, encoded]
  | @fail f cause get encoded =>
    have failed : next.request = { life.request with
        status := .settled (.failed (.encode cause) life.submissions.length)
        sentCount := life.submissions.length } := request
    have quiet : next.submissions = life.submissions := by
      rw [submissions]
      exact List.append_nil _
    refine .settle le failed quiet accepted kept ⟨?_, ?_, congrArg List.length quiet, ?_⟩
    · rw [failed]
    · rw [failed]; exact (List.getElem?_eq_some_iff.mp get).1
    · rw [written failed get, encoded]

/-- A request is started once, with one counter. -/
lemma basis_record_of_some {counter : Counter} (started : life.basis = some counter) :
    (life.record operation answer turn).basis = some counter := by
  rw [basis_record, started, Option.some_or]

/-- An operation without a submission or an outcome enters nothing. -/
lemma entry_of_quiet {counter : Counter} (logs : List WriteLog)
    (drawn : life.request.status = .inFlight → counter = life.counter)
    (accepted : Occurrence.accepted?
      ⟨operation, life.request, life.request, logs.map .log, answer⟩ = none)
    (started : Occurrence.basis?
      ⟨operation, life.request, life.request, logs.map .log, answer⟩ = none) :
    Entry life (life.record operation answer ⟨life.request, counter, logs.map .log⟩) := by
  refine .nothing rfl ?_ ?_ ?_ drawn fun o mem => List.mem_append_left _ mem
  · rw [submissions_record]
    simp [Effect.submission?]
  · rw [accepted_record, accepted]
    exact List.append_nil _
  · rw [basis_record, started, Option.or_none]

/-- An operation that settles the request enters the outcome. -/
lemma entry_of_settle {sentCount : Nat} {result : WriteResult} (logs : List WriteLog)
    (le : life.request.sentCount ≤ sentCount)
    (request : turn.request = { life.request with status := .settled result, sentCount })
    (effects : turn.effects = logs.map .log ++ [.settle result])
    (accepted : (life.record operation answer turn).accepted = List.range sentCount)
    (tells : (life.record operation answer turn).Tells result) :
    Entry life (life.record operation answer turn) := by
  refine .settle le request ?_ accepted (fun _ started => basis_record_of_some started) tells
  rw [submissions_record, effects]
  simp [Effect.submission?]

namespace Account

/-- An accepted packet is the one behind those that were accepted before. -/
lemma accepted_conclude (account : life.Account) {index : Nat}
    (flying : life.request.status = .inFlight) (waits : index ∈ life.unanswered) :
    (life.record (.conclude index .accepted) answer turn).accepted =
      List.range (life.request.sentCount + 1) := by
  rw [accepted_record, account.accepted_eq, account.due waits, List.range_succ]
  simp [Occurrence.accepted?, isInFlight, flying]

/-- What brings no acceptance leaves them as they are. -/
lemma accepted_other (account : life.Account) (none_accepted : Occurrence.accepted?
      ⟨operation, life.request, turn.request, turn.effects, answer⟩ = none) :
    (life.record operation answer turn).accepted = List.range life.request.sentCount := by
  rw [accepted_record, account.accepted_eq, none_accepted]
  exact List.append_nil _

/-- Every operation enters one thing into the account. -/
lemma entry (account : life.Account) (valid : life.request.Valid layout)
    (change : Change life operation answer turn)
    (sole : ∀ counter, operation = .share counter → life.request.isInFlight = false) :
    Entry life (life.record operation answer turn) := by
  cases change with
  | @start counter turn pending attempt =>
    obtain ⟨silent, unstarted⟩ := account.pending pending
    have none_sent := valid.pending_sentCount pending
    have level : life.submissions.length = life.request.sentCount := by rw [silent, none_sent]; rfl
    refine entry_of_attempt counter attempt ?_ rfl ?_ ?_ (fun _ started => ?_) ?_ rfl ?_
      (Nat.le_of_eq ?_)
    · rw [level]
    · rw [submissions_record]; rfl
    · rw [account.accepted_other rfl, level]
    · rw [unstarted] at started; cases started
    · rw [basis_record, unstarted]; rfl
    · rw [silent]; exact counter.advance_zero.symm
    · exact level.symm
  | refuse | tooLate | unconcerned | strand => exact entry_of_quiet [] (fun _ => rfl) rfl rfl
  | share counter =>
    refine entry_of_quiet [] (fun flying => ?_) rfl rfl
    have := sole counter rfl
    simp [isInFlight, flying] at this
  | ignore outcome _ late =>
    refine entry_of_quiet [_] (fun _ => rfl) ?_ rfl
    cases outcome <;> simp [Occurrence.accepted?, late]
  | cancel open_ | abort _ open_ =>
    exact entry_of_settle [_] (Nat.le_refl _) rfl rfl (account.accepted_other rfl)
      ⟨rfl, valid.sentCount_lt open_⟩
  | goOn waits flying more attempt =>
    obtain ⟨length, basis, started, drawn⟩ := account.inFlight flying
    refine entry_of_attempt basis attempt ?_ rfl submissions_record ?_
      (fun _ started => basis_record_of_some started) (basis_record_of_some started) rfl drawn ?_
    · rw [length, ← flying]
    · rw [account.accepted_conclude flying waits, length]
    · rw [length]; exact Nat.le_succ _
  | complete waits flying last same =>
    subst same
    exact entry_of_settle [_] (Nat.le_succ _) rfl rfl (account.accepted_conclude flying waits)
      ⟨last.symm, rfl⟩
  | fail _ waits flying same =>
    subst same
    refine entry_of_settle [_, _] (Nat.le_refl _) rfl rfl (account.accepted_other rfl)
      ⟨rfl, valid.inFlight_sentCount flying, account.due waits, _,
        List.mem_append_right _ (List.mem_singleton_self _), ?_⟩
    rw [account.due waits]

end Account

end Step

/-- A packet is submitted in its turn. -/
lemma Account.in_turn (account : life.Account) (valid : life.request.Valid layout)
    (change : Change life operation answer turn) :
    Occurrence.InTurn ⟨operation, life.request, turn.request, turn.effects, answer⟩ := by
  intro index packet submitted
  cases change with
  | start pending attempt =>
    refine ⟨isSettled_eq pending, ?_⟩
    have none_sent := valid.pending_sentCount pending
    cases attempt with
    | submit =>
      simp only [List.mem_cons, reduceCtorEq, Effect.submit.injEq, List.not_mem_nil, or_false,
        false_or] at submitted
      rw [submitted.1, none_sent]
      exact ⟨_, rfl, rfl⟩
    | fail => simp [settle] at submitted
  | goOn waits flying _ attempt =>
    refine ⟨isSettled_eq flying, ?_⟩
    cases attempt with
    | submit =>
      simp only [List.mem_cons, reduceCtorEq, Effect.submit.injEq, List.not_mem_nil, or_false,
        false_or] at submitted
      rw [submitted.1, ← account.due waits]
      exact ⟨rfl, by simp [isInFlight, flying]⟩
    | fail => simp [settle] at submitted
  | _ => simp [settle] at submitted

/-! ## A whole life -/

/-- A request stays the same but for its progress. -/
lemma Change.request_eq (change : Change life operation answer turn) :
    ∃ status sentCount, turn.request = { life.request with status, sentCount } := by
  have outline := change.outline
  generalize life.request = r at outline
  cases outline with
  | idle => exact ⟨r.status, r.sentCount, rfl⟩
  | submit | settle => exact ⟨_, _, rfl⟩

/-- A request is completed when all its packets have been accepted. -/
lemma Account.completed_iff (account : life.Account) (valid : life.request.Valid layout) {n : Nat} :
    life.request.status = .settled (.completed n) ↔
      n = life.request.fragments.length ∧
        life.accepted = List.range life.request.fragments.length := by
  constructor
  · intro status
    obtain ⟨count, all⟩ := account.settled status
    exact ⟨all, by rw [account.accepted_eq, ← count, all]⟩
  · rintro ⟨rfl, accepted⟩
    have all : life.request.sentCount = life.request.fragments.length := by
      simpa using congrArg List.length (account.accepted_eq.symm.trans accepted)
    match status : life.request.status with
    | .pending | .inFlight => exact absurd (valid.sentCount_lt (isSettled_eq status)) (by omega)
    | .settled (.completed _) => rw [(account.settled status).2]
    | .settled (.cancelled _) =>
      obtain ⟨_, more⟩ := account.settled status
      omega
    | .settled (.failed (.submit _) _) | .settled (.failed (.encode _) _) =>
      obtain ⟨_, more, _⟩ := account.settled status
      omega

/-- What is accounted for in every life of a request `r`. -/
structure Accounted (layout : Layout) (r : WriteRequest) (life : Life) : Prop where
  valid : life.request.Valid layout
  request_eq : ∃ status sentCount, life.request = { r with status, sentCount }
  account : life.SoleUser → life.Account
  in_turn : life.SoleUser → ∀ o ∈ life.past, o.InTurn

/-- Whoever is the only user of a counter was so before. -/
lemma SoleUser.of_record (sole : (life.record operation answer turn).SoleUser) : life.SoleUser :=
  fun o mem => sole o (List.mem_append_left _ mem)

/-- Every operation keeps the request accounted for. -/
lemma Accounted.record {r : WriteRequest} (accounted : life.Accounted layout r)
    (left : life.turn? operation = some (answer, turn)) :
    (life.record operation answer turn).Accounted layout r := by
  have change := change_of_turn? accounted.valid left
  refine ⟨change.valid accounted.valid, ?_, fun sole => ?_, fun sole o mem => ?_⟩
  · obtain ⟨_, _, before⟩ := accounted.request_eq
    obtain ⟨status, sentCount, after⟩ := change.request_eq
    exact ⟨status, sentCount, by rw [Life.record, after, before]⟩
  · have account := accounted.account sole.of_record
    refine account.step (account.entry accounted.valid change ?_)
    exact sole _ (List.mem_append_right _ (List.mem_singleton_self _))
  · obtain mem | mem := List.mem_append.mp mem
    · exact accounted.in_turn sole.of_record o mem
    · obtain rfl := List.mem_singleton.mp mem
      exact (accounted.account sole.of_record).in_turn accounted.valid change

/-- Whatever is called, the request is accounted for. -/
lemma accounted_callAll {r : WriteRequest} (valid : r.Valid layout) (pending : r.status = .pending)
    (calls : List Call) : ((begin r).callAll calls).Accounted layout r :=
  callAll_induction (fun accounted left => accounted.record left) calls
    ⟨valid, ⟨r.status, r.sentCount, rfl⟩, fun _ => account_begin valid pending,
      fun _ o mem => by cases mem⟩

/-- What a request does that nobody shares its counter with, whatever is done with it and from
wherever it is called. It submits its packets in their order, each of the others once the one before
has been accepted in flight, so that at most one submission is without an outcome; and none once it
has settled. The packet `i` carries the value that the counter has after `i` draws, behind the kind,
the flags and the payload of the request's packet `i`. The request is completed if and only if all
its packets were accepted in flight. When it fails, it tells how many were: either the next one was
rejected, or it could not be written and was never submitted. -/
theorem submits_in_turn {id : Nat} {maxPacketSize maxPacketCount : Number} {signal : Option String}
    {sent : Message} {r : WriteRequest}
    (created : create id layout maxPacketSize maxPacketCount signal sent = .ok r)
    (calls : List Call) (sole : ((begin r).callAll calls).SoleUser) :
    let life := (begin r).callAll calls
    let count := r.fragments.length
    (life.submissions.map (·.1) = List.range life.submissions.length ∧
        life.submissions.length ≤ count ∧ life.unanswered.length ≤ 1) ∧
      (∀ o ∈ life.past, o.InTurn) ∧
      (∀ p ∈ life.submissions, ∃ counter f, life.basis = some counter ∧
        r.fragments[p.1]? = some f ∧ f.kind = r.kind ∧
        Packet.decode layout p.2 = .ok (f.stamp (counter.advance p.1).value)) ∧
      (∀ n, life.promised = some (.completed n) ↔
        n = count ∧ life.accepted = List.range count) ∧
      (∀ cause n, life.promised = some (.failed cause n) →
        life.accepted = List.range n ∧
          match cause with
          | .submit e => e.packetIndex = n ∧
            ∃ o ∈ life.past, o.operation = .conclude n (.rejected e.cause)
          | .encode e => n ∉ life.submissions.map (·.1) ∧
            ∃ counter f, life.basis = some counter ∧ r.fragments[n]? = some f ∧
              (f.stamp (counter.advance n).value).encode layout maxPacketSize = .error e) := by
  intro life count
  have ordered : life.Ordered layout :=
    ordered_callAll (create_valid created) (create_pending created) calls
  have accounted : life.Accounted layout r :=
    accounted_callAll (create_valid created) (create_pending created) calls
  have account : life.Account := accounted.account sole
  have size : r.maxPacketSize = maxPacketSize := by
    obtain ⟨_, _, rfl⟩ := create_eq created
    rfl
  obtain ⟨_, _, same⟩ := accounted.request_eq
  have fragments : life.request.fragments = r.fragments := by rw [same]
  have written {i : Nat} {outcome} (here : life.written i = some outcome) :
      ∃ counter f, life.basis = some counter ∧ r.fragments[i]? = some f ∧
        (f.stamp (counter.advance i).value).encode layout maxPacketSize = outcome := by
    obtain ⟨counter, basis, here⟩ := Option.bind_eq_some_iff.mp here
    obtain ⟨f, get, here⟩ := Option.map_eq_some_iff.mp here
    rw [accounted.valid.layout_eq, same, size] at here
    exact ⟨counter, f, basis, fragments ▸ get, here⟩
  have within : life.submissions.length ≤ r.fragments.length := fragments ▸ account.within
  refine ⟨⟨account.in_order, within, account.unanswered_length⟩,
    accounted.in_turn sole, fun p mem => ?_, fun n => ?_, fun cause n told => ?_⟩
  · obtain ⟨counter, f, basis, get, encoded⟩ := written (account.written p mem)
    obtain ⟨range, data⟩ := Packet.eq_wire_of_encode encoded
    refine ⟨counter, f, basis, get, (create_valid created).framed.kind_eq get, ?_⟩
    rw [data]
    exact Packet.decode_wire range
  · rw [ordered.promised_eq_some, account.completed_iff accounted.valid, fragments]
  · have status := ordered.promised_eq_some.mp told
    cases cause with
    | submit e =>
      obtain ⟨sent, _, rejected⟩ := account.settled status
      exact ⟨by rw [account.accepted_eq, sent], rejected⟩
    | encode e =>
      obtain ⟨sent, _, last, failed⟩ := account.settled status
      refine ⟨by rw [account.accepted_eq, sent], ?_, written failed⟩
      rw [account.in_order, last]
      exact List.not_mem_range_self

/-- The request for two packets draws from a counter with more values than its layout has: the
second packet cannot be written. The counter is used by others before and after. -/
def overdrawnCalls : List Call :=
  [⟨.share (.start .default), []⟩, ⟨.start ⟨16, 7, by decide⟩, []⟩,
    ⟨.conclude 0 .accepted, [⟨.cancel, []⟩]⟩, ⟨.share (.start .default), []⟩]

/-- A counter that somebody else draws from leaves gaps between the packets of the example. -/
theorem submits_in_turn_overdrawn :
    create 1 .default (2 : Nat) (4096 : Nat) "stop" ⟨.data, [1, 2]⟩ = .ok twoPackets ∧
      let life := (begin twoPackets).callAll overdrawnCalls
      life.SoleUser ∧
        life.submissions = [(0, [92, 1])] ∧ life.past.Forall Occurrence.InTurn ∧
        life.promised = some (.failed (.encode (.counterOutOfRange (8 : Nat) 8)) 1) ∧
        life.accepted = List.range 1 ∧ 1 ∉ life.submissions.map (·.1) := by
  have sole : ((begin twoPackets).callAll overdrawnCalls).SoleUser := by
    refine List.forall_iff_forall_mem.mp (?_ : _ ∧ _ ∧ _ ∧ _ ∧ _)
    refine ⟨fun _ _ => rfl, ?_, ?_, ?_, fun _ _ => rfl⟩ <;> exact fun _ same => by cases same
  obtain ⟨_, in_turn, _, _, failed⟩ := submits_in_turn create_twoPackets overdrawnCalls sole
  obtain ⟨accepted, unsubmitted, _⟩ :=
    failed (.encode (.counterOutOfRange (8 : Nat) 8)) 1 rfl
  exact ⟨create_twoPackets, sole, rfl, List.forall_iff_forall_mem.mpr in_turn, rfl, accepted,
    unsubmitted⟩

end Life

end WriteRequest

end PacketLink
