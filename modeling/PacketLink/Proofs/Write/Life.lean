import Mathlib.Logic.Relation
import PacketLink.Proofs.Write.Request

/-!
# The life of a write request

Whoever has a write request may start it, cancel it, abort its signal and answer its submissions, at
any time and also from inside the callbacks that these calls lead to: the submit function and the
hook for the outcome. A `Call` is an operation with the calls made from inside of it, and a `Life`
records every operation in the order in which they happen. `Life.call_induction` says that what
every operation keeps holds of every life, however its calls are nested. Main statement:
`Life.one_outcome`, by which a request settles at most once and tells so exactly once.
-/

namespace PacketLink

/-- One step of a phase to the next. -/
inductive Phase.Step : Phase → Phase → Prop where
  | start : Step .pending .inFlight
  | giveUp : Step .pending .cancelled
  | complete : Step .inFlight .completed
  | fail : Step .inFlight .failed
  | cancel : Step .inFlight .cancelled

/-- A phase leads to another one by any number of steps. -/
abbrev Phase.Leads : Phase → Phase → Prop := Relation.ReflTransGen Phase.Step

/-- The outcome of a request that has settled. -/
def WriteStatus.result? : WriteStatus → Option WriteResult
  | .settled result => some result
  | _ => none

namespace WriteRequest

/-- What can happen to a write request or to the counter that it draws from. -/
inductive Operation where
  | start (counter : Counter)
  | cancel
  /-- A signal is aborted; one that was aborted earlier is heard of right after the creation. -/
  | abort (signal : String)
  /-- The submission of a packet has its outcome; that of a submit function that throws is a
  rejection. -/
  | conclude (index : Nat) (outcome : Outcome)
  /-- Somebody else has drawn from the counter or reset it. -/
  | share (counter : Counter)

/-- What the caller of an operation is told. -/
inductive Answer where
  | nothing
  | started
  | refused (cause : InvalidState)
  /-- Whether this call cancelled the request. -/
  | cancelled (byThisCall : Bool)

/-- An operation that has happened. -/
structure Occurrence where
  operation : Operation
  before : WriteRequest
  after : WriteRequest
  effects : List Effect
  answer : Answer

/-- The packet that an effect hands to the submit function. -/
def Effect.submission? : Effect → Option (Nat × Bytes)
  | .submit index packet => some (index, packet)
  | _ => none

/-- The outcome that an effect tells. -/
def Effect.result? : Effect → Option WriteResult
  | .settle result => some result
  | _ => none

/-- Whether an effect is no more than a record. -/
def Effect.isLog : Effect → Bool
  | .log _ => true
  | _ => false

/-- The packet that the outcome of a submission is about. -/
def Operation.index? : Operation → Option Nat
  | .conclude index _ => some index
  | _ => none

/-- A write request with its past. -/
structure Life where
  request : WriteRequest
  /-- The counter that it draws from once it has been started. -/
  counter : Counter
  past : List Occurrence

namespace Life

/-- A request that nothing has happened to. -/
def begin (request : WriteRequest) : Life := ⟨request, .start request.layout, []⟩

/-- The packets handed to the submit function, in order. -/
def submissions (life : Life) : List (Nat × Bytes) :=
  life.past.flatMap fun o => o.effects.filterMap Effect.submission?

/-- The packets whose submissions have their outcome, in order. -/
def answered (life : Life) : List Nat := life.past.filterMap fun o => o.operation.index?

/-- The packets whose submissions have no outcome yet, in order. -/
def unanswered (life : Life) : List Nat :=
  (life.submissions.map (·.1)).filter (· ∉ life.answered)

/-- The outcomes that were told, in order. -/
def results (life : Life) : List WriteResult :=
  life.past.flatMap fun o => o.effects.filterMap Effect.result?

/-- What the promise of an outcome resolves to: the first outcome that is told. -/
def promised (life : Life) : Option WriteResult := life.results.head?

/-- The calls of the hook, with the phase at that moment. -/
def hooked (life : Life) : List (Phase × WriteResult) :=
  life.past.flatMap fun o => (o.effects.filterMap Effect.result?).map (o.after.phase, ·)

/-- The states of the request, in order. -/
def moments (life : Life) : List WriteRequest := life.past.map (·.before) ++ [life.request]

variable (life : Life)

/-- What an operation leaves behind. An outcome is heard once, of a packet that was submitted. -/
def turn? : Operation → Option (Answer × Turn)
  | .start counter =>
    match life.request.start counter with
    | .ok turn => some (.started, turn)
    | .error cause => some (.refused cause, ⟨life.request, life.counter, []⟩)
  | .cancel =>
    match life.request.cancel with
    | some (request, effects) => some (.cancelled true, ⟨request, life.counter, effects⟩)
    | none => some (.cancelled false, ⟨life.request, life.counter, []⟩)
  | .abort signal =>
    if life.request.signal = some signal then
      match life.request.cancel with
      | some (request, effects) => some (.nothing, ⟨request, life.counter, effects⟩)
      | none => some (.nothing, ⟨life.request, life.counter, []⟩)
    else some (.nothing, ⟨life.request, life.counter, []⟩)
  | .conclude index outcome =>
    if index ∈ life.unanswered then
      some (.nothing, life.request.conclude life.counter index outcome)
    else none
  | .share counter => some (.nothing, ⟨life.request, counter, []⟩)

/-- The life after an operation that left `turn` behind. -/
def record (operation : Operation) (answer : Answer) (turn : Turn) : Life where
  request := turn.request
  counter := turn.counter
  past := life.past ++ [⟨operation, life.request, turn.request, turn.effects, answer⟩]

end Life

/-- An operation, with the calls made from inside the callback that it leads to. -/
inductive Call where
  | mk (operation : Operation) (inside : List Call)

namespace Life

mutual

/-- One call. An operation ends with its callback, from inside of which the other calls are made. -/
def call (life : Life) : Call → Life
  | ⟨operation, inside⟩ =>
    match life.turn? operation with
    | none => life
    | some (answer, turn) =>
      let next := life.record operation answer turn
      if turn.effects.all Effect.isLog then next else callAll next inside

/-- Calls one after the other. -/
def callAll (life : Life) : List Call → Life
  | [] => life
  | call :: calls => callAll (Life.call life call) calls

end

section Induction

variable {motive : Life → Prop}

mutual

/-- What every operation keeps holds after a call, however many calls are made inside of it. -/
lemma call_induction (step : ∀ {life operation answer turn}, motive life →
      life.turn? operation = some (answer, turn) → motive (life.record operation answer turn)) :
    ∀ (call : Call) {life : Life}, motive life → motive (life.call call)
  | ⟨operation, inside⟩, life, here => by
    unfold call
    split
    · exact here
    · rename_i answer turn left
      dsimp only
      split
      · exact step here left
      · exact callAll_induction step inside (step here left)

/-- What every operation keeps is kept by all calls, however they are nested. -/
lemma callAll_induction (step : ∀ {life operation answer turn}, motive life →
      life.turn? operation = some (answer, turn) → motive (life.record operation answer turn)) :
    ∀ (calls : List Call) {life : Life}, motive life → motive (life.callAll calls)
  | [], _, here => here
  | call :: calls, _, here => callAll_induction step calls (call_induction step call here)

end

end Induction

end Life

/-! ## What an operation leaves behind -/

variable {layout : Layout} {r : WriteRequest}

/-- An attempt to submit the next packet: it is submitted, or it cannot be written with the counter
and the request fails. -/
inductive Attempt (r : WriteRequest) (counter : Counter) : Turn → Prop where
  | submit {f : Fragment} {packet : Bytes} :
    r.fragments[r.sentCount]? = some f →
    (f.stamp counter.value).encode r.layout r.maxPacketSize = .ok packet →
    Attempt r counter ⟨r, counter.advance 1,
      [.log (.submitting r.sentCount counter.value packet.length), .submit r.sentCount packet]⟩
  | fail {f : Fragment} {cause : InvalidArgument} :
    r.fragments[r.sentCount]? = some f →
    (f.stamp counter.value).encode r.layout r.maxPacketSize = .error cause →
    Attempt r counter ⟨(r.settle (.failed (.encode cause) r.sentCount)).1, counter.advance 1,
      .log (.encodeFailed r.sentCount cause) ::
        (r.settle (.failed (.encode cause) r.sentCount)).2⟩

/-- A request that has more to send attempts its next packet. -/
lemma attempt_submitNext (counter : Counter) (more : r.sentCount < r.fragments.length) :
    Attempt r counter (r.submitNext counter) := by
  have get := List.getElem?_eq_getElem more
  simp only [submitNext, Counter.next, get]
  split
  · exact .submit get ‹_›
  · exact .fail get ‹_›

/-- A request that attempts a packet stays valid. -/
lemma Attempt.valid {counter : Counter} {turn : Turn} (attempt : Attempt r counter turn)
    (valid : r.Valid layout) : turn.request.Valid layout := by
  cases attempt with
  | submit => exact valid
  | fail => exact valid.settle _

namespace Life

/-- What an operation can do, when the request is not beyond its packets. -/
inductive Change (life : Life) : Operation → Answer → Turn → Prop where
  | start {counter : Counter} {turn : Turn} :
    life.request.status = .pending →
    Attempt { life.request with status := .inFlight } counter turn →
    Change life (.start counter) .started
      { turn with effects := .log (.started life.request.fragments.length) :: turn.effects }
  | refuse (counter : Counter) :
    life.request.status ≠ .pending →
    Change life (.start counter)
      (.refused (.startRequest life.request.id life.request.phase))
      ⟨life.request, life.counter, []⟩
  | cancel :
    life.request.isSettled = false →
    Change life .cancel (.cancelled true)
      ⟨(life.request.settle (.cancelled life.request.sentCount)).1, life.counter,
        (life.request.settle (.cancelled life.request.sentCount)).2⟩
  | tooLate :
    life.request.isSettled = true →
    Change life .cancel (.cancelled false) ⟨life.request, life.counter, []⟩
  | abort {signal : String} :
    life.request.signal = some signal → life.request.isSettled = false →
    Change life (.abort signal) .nothing
      ⟨(life.request.settle (.cancelled life.request.sentCount)).1, life.counter,
        (life.request.settle (.cancelled life.request.sentCount)).2⟩
  | unconcerned {signal : String} :
    (life.request.signal = some signal → life.request.isSettled = true) →
    Change life (.abort signal) .nothing ⟨life.request, life.counter, []⟩
  | goOn {index : Nat} {turn : Turn} :
    index ∈ life.unanswered → life.request.status = .inFlight →
    life.request.sentCount + 1 < life.request.fragments.length →
    Attempt { life.request with sentCount := life.request.sentCount + 1 } life.counter turn →
    Change life (.conclude index .accepted) .nothing turn
  | complete {index : Nat} {done : WriteRequest} :
    index ∈ life.unanswered → life.request.status = .inFlight →
    life.request.sentCount + 1 = life.request.fragments.length →
    done = { life.request with sentCount := life.request.sentCount + 1 } →
    Change life (.conclude index .accepted) .nothing
      ⟨(done.settle (.completed done.fragments.length)).1, life.counter,
        (done.settle (.completed done.fragments.length)).2⟩
  | fail {index : Nat} {fault : Fault} {result : WriteResult} (told : fault.message?.isSome) :
    index ∈ life.unanswered → life.request.status = .inFlight →
    result = .failed (.submit ⟨index, fault, told⟩) life.request.sentCount →
    Change life (.conclude index (.rejected fault)) .nothing
      ⟨(life.request.settle result).1, life.counter,
        .log (.submitFailed ⟨index, fault, told⟩) :: (life.request.settle result).2⟩
  | strand {index : Nat} {fault : Fault} :
    fault.message? = none → index ∈ life.unanswered → life.request.status = .inFlight →
    Change life (.conclude index (.rejected fault)) .nothing ⟨life.request, life.counter, []⟩
  | ignore {index : Nat} (outcome : Outcome) :
    index ∈ life.unanswered → life.request.isInFlight = false →
    Change life (.conclude index outcome) .nothing
      ⟨life.request, life.counter, [.log (.outcomeIgnored index life.request.phase)]⟩
  | share (counter : Counter) :
    Change life (.share counter) .nothing ⟨life.request, counter, []⟩

variable {life : Life} {operation : Operation} {answer : Answer} {turn : Turn}

/-- Every operation that is carried out is one of the changes. -/
lemma change_of_turn? (valid : life.request.Valid layout)
    (left : life.turn? operation = some (answer, turn)) : Change life operation answer turn := by
  cases operation with
  | start counter =>
    simp only [turn?, start] at left
    split at left
    · rename_i started
      split at started
      · rename_i pending
        cases started
        cases left
        refine .start pending (attempt_submitNext counter ?_)
        exact (valid.start pending).inFlight_sentCount rfl
      · cases started
    · rename_i refused
      split at refused
      · cases refused
      · rename_i busy
        cases refused
        cases left
        exact .refuse counter busy
  | cancel =>
    cases settled : life.request.isSettled with
    | false =>
      simp only [turn?, WriteRequest.cancel, settled] at left
      cases left
      exact .cancel settled
    | true =>
      simp only [turn?, WriteRequest.cancel, settled] at left
      cases left
      exact .tooLate settled
  | abort signal =>
    by_cases concerned : life.request.signal = some signal
    · cases settled : life.request.isSettled with
      | false =>
        simp only [turn?, if_pos concerned, WriteRequest.cancel, settled] at left
        cases left
        exact .abort concerned settled
      | true =>
        simp only [turn?, if_pos concerned, WriteRequest.cancel, settled] at left
        cases left
        exact .unconcerned fun _ => settled
    · simp only [turn?, if_neg concerned] at left
      cases left
      exact .unconcerned fun same => absurd same concerned
  | conclude index outcome =>
    simp only [turn?] at left
    split at left
    · rename_i waits
      cases left
      by_cases flying : life.request.isInFlight = true
      · have status : life.request.status = .inFlight := status_of_isInFlight flying
        simp only [WriteRequest.conclude, flying, if_true]
        cases outcome with
        | rejected fault =>
          dsimp only
          split
          · exact .fail ‹_› waits status rfl
          · rename_i silent
            exact .strand (by simpa using silent) waits status
        | accepted =>
          dsimp only
          split
          · rename_i last
            refine .complete waits status last ?_
            rfl
          · have := valid.inFlight_sentCount status
            have more : life.request.sentCount + 1 < life.request.fragments.length := by omega
            exact .goOn waits status more (attempt_submitNext _ more)
      · have late : life.request.isInFlight = false := by simpa using flying
        simp only [WriteRequest.conclude, late]
        exact .ignore outcome waits late
    · cases left
  | share counter =>
    cases left
    exact .share counter

end Life

/-! ## One operation -/

/-- A request `r'` is where `r` may get to. -/
structure Leads (r r' : WriteRequest) : Prop where
  phase : r.phase.Leads r'.phase
  sentCount_le : r.sentCount ≤ r'.sentCount
  settled : r.isSettled = true → r' = r

/-- A request leads to itself. -/
lemma Leads.refl (r : WriteRequest) : r.Leads r := ⟨.refl, Nat.le_refl _, fun _ => rfl⟩

/-- What a request leads to leads on. -/
lemma Leads.trans {r r' r'' : WriteRequest} (first : r.Leads r') (second : r'.Leads r'') :
    r.Leads r'' := by
  refine ⟨first.phase.trans second.phase, Nat.le_trans first.sentCount_le second.sentCount_le,
    fun settled => ?_⟩
  obtain rfl := first.settled settled
  exact second.settled settled

/-- An operation that did nothing. -/
def Occurrence.Idle (o : Occurrence) : Prop := o.after = o.before ∧ o.effects = []

/-- What every operation keeps to. -/
structure Occurrence.Lawful (o : Occurrence) : Prop where
  leads : o.before.Leads o.after
  /-- The submit function or the hook is called when all else has been done. -/
  callback_last : ∀ effect ∈ o.effects.dropLast, effect.isLog = true
  /-- An outcome is told by the operation that settles the request, and by no other. -/
  settles : ∀ result, .settle result ∈ o.effects ↔
    o.before.isSettled = false ∧ o.after.status = .settled result
  /-- A start succeeds for a pending request and is refused otherwise. -/
  start : ∀ counter, o.operation = .start counter →
    o.before.phase = .pending ∧ o.answer = .started ∧ o.after.phase ≠ .pending ∨
      o.before.phase ≠ .pending ∧ o.Idle ∧
        o.answer = .refused (.startRequest o.before.id o.before.phase)
  /-- A cancellation is answered with `true` when it settles the request. -/
  cancel : o.operation = .cancel →
    o.answer = .cancelled true ∧ o.before.isSettled = false ∧
        o.after.status = .settled (.cancelled o.before.sentCount) ∨
      o.answer = .cancelled false ∧ o.before.isSettled = true ∧ o.Idle
  /-- After an abort of its signal the request has settled. -/
  abort : ∀ signal, o.operation = .abort signal → o.before.signal = some signal →
    o.after.isSettled = true

/-- The outline of what an operation on `r` leaves behind: a request as it was, with some records;
or one in flight or with its outcome, where the callback comes behind the records. -/
inductive Outline (r : WriteRequest) : Turn → Prop where
  | idle (counter : Counter) (logs : List WriteLog) : Outline r ⟨r, counter, logs.map .log⟩
  | submit {sentCount : Nat} (counter : Counter) (logs : List WriteLog) (packet : Bytes) :
    r.isSettled = false → r.phase.Leads .inFlight → r.sentCount ≤ sentCount →
    Outline r ⟨{ r with status := .inFlight, sentCount }, counter,
      logs.map .log ++ [.submit sentCount packet]⟩
  | settle {sentCount : Nat} {result : WriteResult} (counter : Counter) (logs : List WriteLog) :
    r.isSettled = false → r.phase.Leads (WriteStatus.settled result).phase →
    r.sentCount ≤ sentCount →
    Outline r ⟨{ r with status := .settled result, sentCount }, counter,
      logs.map .log ++ [.settle result]⟩

namespace Outline

variable {turn : Turn}

/-- What a turn makes of a request was led to by it. -/
lemma leads (outline : Outline r turn) : r.Leads turn.request := by
  cases outline with
  | idle => exact .refl r
  | submit _ _ _ unsettled phase le =>
    exact ⟨phase, le, fun settled => by simp [unsettled] at settled⟩
  | settle _ _ unsettled phase le =>
    exact ⟨phase, le, fun settled => by simp [unsettled] at settled⟩

/-- Only the last effect of a turn can call back. -/
lemma callback_last (outline : Outline r turn) :
    ∀ effect ∈ turn.effects.dropLast, effect.isLog = true := by
  have records (logs : List WriteLog) : ∀ effect ∈ logs.map Effect.log, effect.isLog = true := by
    simp [Effect.isLog]
  cases outline with
  | idle counter logs => exact fun effect mem => records logs effect (List.dropLast_subset _ mem)
  | submit _ logs => simpa using records logs
  | settle _ logs => simpa using records logs

/-- A turn tells an outcome exactly when the request settles with it. -/
lemma settles (outline : Outline r turn) (result : WriteResult) :
    .settle result ∈ turn.effects ↔
      r.isSettled = false ∧ turn.request.status = .settled result := by
  cases outline with
  | idle counter logs =>
    simp only [List.mem_map, reduceCtorEq, and_false, exists_false, false_iff, not_and]
    intro unsettled settled
    cases unsettled.symm.trans (r.isSettled_eq settled)
  | submit => simp
  | settle _ _ unsettled => simp [unsettled, eq_comm]

/-- What the hook is told: the outcome that the request has got just now. -/
lemma results (outline : Outline r turn) :
    turn.effects.filterMap Effect.result? =
      if r.isSettled then [] else turn.request.status.result?.toList := by
  have none (logs : List WriteLog) : (logs.map Effect.log).filterMap Effect.result? = [] := by
    simp [Effect.result?]
  cases outline with
  | idle counter logs =>
    rw [none]
    cases status : r.status with
    | settled result => rw [r.isSettled_eq status]; rfl
    | _ => rw [r.isSettled_eq status]; rfl
  | submit _ logs _ unsettled => simp [none, Effect.result?, unsettled, WriteStatus.result?]
  | settle _ logs unsettled => simp [none, Effect.result?, unsettled, WriteStatus.result?]

end Outline

namespace Life

/-- Every change has the outline of a turn. -/
lemma Change.outline {life : Life} {operation : Operation} {answer : Answer} {turn : Turn}
    (change : Change life operation answer turn) : Outline life.request turn := by
  have unsettled {status : WriteStatus} (same : life.request.status = status) :
      life.request.isSettled = status.isSettled := WriteRequest.isSettled_eq same
  have phase {status : WriteStatus} (same : life.request.status = status) :
      life.request.phase = status.phase := WriteRequest.phase_eq same
  have cancelled (open_ : life.request.isSettled = false) :
      life.request.phase.Leads .cancelled := by
    cases status : life.request.status with
    | pending => exact phase status ▸ .single .giveUp
    | inFlight => exact phase status ▸ .single .cancel
    | settled result => simp [unsettled status, WriteStatus.isSettled] at open_
  cases change with
  | start pending attempt =>
    have starts : life.request.phase.Leads .inFlight := phase pending ▸ .single .start
    cases attempt with
    | submit =>
      exact .submit _ [_, _] _ (unsettled pending) starts (Nat.le_refl _)
    | fail =>
      exact .settle _ [_, _, _] (unsettled pending) (starts.tail .fail) (Nat.le_refl _)
  | refuse => exact .idle _ []
  | cancel open_ => exact .settle _ [_] open_ (cancelled open_) (Nat.le_refl _)
  | tooLate => exact .idle _ []
  | abort _ open_ => exact .settle _ [_] open_ (cancelled open_) (Nat.le_refl _)
  | unconcerned => exact .idle _ []
  | goOn _ flying _ attempt =>
    have here : life.request.phase.Leads .inFlight := phase flying ▸ .refl
    cases attempt with
    | @submit f packet =>
      have same : ({ life.request with sentCount := life.request.sentCount + 1 } : WriteRequest) =
          { life.request with status := .inFlight, sentCount := life.request.sentCount + 1 } := by
        rw [← flying]
      rw [same]
      exact .submit _ [_] packet (unsettled flying) here (Nat.le_succ _)
    | fail =>
      exact .settle _ [_, _] (unsettled flying) (here.tail .fail) (Nat.le_succ _)
  | complete _ flying _ same =>
    subst same
    exact .settle _ [_] (unsettled flying) (phase flying ▸ .single .complete) (Nat.le_succ _)
  | fail _ _ flying same =>
    subst same
    exact .settle _ [_, _] (unsettled flying) (phase flying ▸ .single .fail) (Nat.le_refl _)
  | strand => exact .idle _ []
  | ignore => exact .idle _ [_]
  | share => exact .idle _ []

/-! ## A whole life -/

variable {life : Life} {operation : Operation} {answer : Answer} {turn : Turn}

/-- Whatever happens, a request stays cut from a message for its layout. -/
lemma Change.valid (change : Change life operation answer turn)
    (valid : life.request.Valid layout) : turn.request.Valid layout := by
  cases change with
  | start pending attempt => exact attempt.valid (valid.start pending)
  | cancel | abort | fail => exact valid.settle _
  | goOn _ flying more attempt =>
    exact attempt.valid (valid.amend _ _ (fun h => by simp [flying] at h) fun _ => more)
  | complete _ _ _ same =>
    subst same
    exact valid.amend _ _ (fun h => by cases h) fun h => by cases h
  | _ => exact valid

/-- The operation that has been recorded last. -/
lemma Change.lawful (change : Change life operation answer turn) :
    Occurrence.Lawful ⟨operation, life.request, turn.request, turn.effects, answer⟩ := by
  have outline := change.outline
  refine ⟨outline.leads, outline.callback_last, outline.settles, ?_, ?_, ?_⟩
  · rintro counter ⟨⟩
    cases change with
    | start pending attempt =>
      refine .inl ⟨phase_eq pending, rfl, ?_⟩
      cases attempt <;> simp [WriteRequest.phase, WriteStatus.phase, settle]
    | refuse _ busy =>
      exact .inr ⟨fun phase => busy (phase_eq_pending_iff.mp phase), ⟨rfl, rfl⟩, rfl⟩
  · rintro ⟨⟩
    cases change with
    | cancel unsettled => exact .inl ⟨rfl, unsettled, rfl⟩
    | tooLate settled => exact .inr ⟨rfl, settled, rfl, rfl⟩
  · rintro signal ⟨⟩ concerned
    cases change with
    | abort => rfl
    | unconcerned settled => exact settled concerned

/-- What every life keeps to. -/
structure Ordered (layout : Layout) (life : Life) : Prop where
  valid : life.request.Valid layout
  lawful : ∀ o ∈ life.past, o.Lawful
  leads : life.moments.Pairwise Leads
  after_eq : life.past.map (·.after) = life.moments.tail
  results_eq : life.results = life.request.status.result?.toList

/-- At its beginning the moments of a request are in order. -/
lemma ordered_begin (valid : r.Valid layout) (pending : r.status = .pending) :
    (begin r).Ordered layout := by
  refine ⟨valid, fun o mem => (by cases mem), List.pairwise_singleton .., rfl, ?_⟩
  rw [begin, pending]
  rfl

/-- An operation adds the moment that it leads to. -/
lemma moments_record : (life.record operation answer turn).moments =
    life.moments ++ [turn.request] := by
  simp [moments, Life.record]

/-- An operation leads on from every moment before it. -/
lemma Ordered.record (ordered : life.Ordered layout)
    (change : Change life operation answer turn) :
    (life.record operation answer turn).Ordered layout := by
  have outline := change.outline
  have results : (life.record operation answer turn).results =
      life.results ++ turn.effects.filterMap Effect.result? := by
    simp [Life.results, Life.record]
  refine ⟨change.valid ordered.valid, fun o mem => ?_, ?_, ?_, ?_⟩
  · obtain mem | mem := List.mem_append.mp mem
    · exact ordered.lawful o mem
    · exact List.mem_singleton.mp mem ▸ change.lawful
  · rw [moments_record]
    refine List.pairwise_append.mpr ⟨ordered.leads, List.pairwise_singleton .., ?_⟩
    intro earlier mem later here
    obtain rfl := List.mem_singleton.mp here
    -- every moment leads to the last one before the operation
    have to_last : earlier.Leads life.request := by
      obtain mem | mem := List.mem_append.mp mem
      · exact (List.pairwise_append.mp ordered.leads).2.2 _ mem _ (List.mem_singleton_self _)
      · exact List.mem_singleton.mp mem ▸ .refl _
    exact to_last.trans outline.leads
  · rw [moments_record, List.tail_append_of_ne_nil (by simp [moments]), ← ordered.after_eq]
    simp [Life.record]
  · rw [results, ordered.results_eq, outline.results]
    cases status : life.request.status with
    | settled result =>
      have settled : life.request.isSettled = true := life.request.isSettled_eq status
      have same : turn.request = life.request := outline.leads.settled settled
      rw [if_pos settled, List.append_nil, Life.record, same, status]
    | _ =>
      have unsettled : life.request.isSettled = false := life.request.isSettled_eq status
      rw [unsettled]
      rfl

/-- Whatever is called, the moments of a request are in order. -/
lemma ordered_callAll (valid : r.Valid layout) (pending : r.status = .pending)
    (calls : List Call) : ((begin r).callAll calls).Ordered layout :=
  callAll_induction (fun ordered left => ordered.record (change_of_turn? ordered.valid left)) calls
    (ordered_begin valid pending)

/-- The hook is called in the phase that the outcome brings. -/
lemma Ordered.hooked_eq (ordered : life.Ordered layout) :
    life.hooked = life.results.map fun result => ((WriteStatus.settled result).phase, result) := by
  unfold hooked results
  rw [List.map_flatMap]
  refine List.flatMap_congr fun o mem => List.map_congr_left fun result told => ?_
  obtain ⟨effect, done, same⟩ := List.mem_filterMap.mp told
  cases effect with
  | settle result' =>
    cases same
    have settled := (((ordered.lawful o mem).settles result).mp done).2
    rw [o.after.phase_eq settled]
  | _ => cases same

/-- The promise resolves to the outcome of the request. -/
lemma Ordered.promised_eq_some (ordered : life.Ordered layout) {result : WriteResult} :
    life.promised = some result ↔ life.request.status = .settled result := by
  rw [promised, ordered.results_eq]
  cases life.request.status <;> simp [WriteStatus.result?]

/-- Whatever is done with a request, and wherever it is called from: every moment of its life leads
on to all later ones, and what has settled stays as it is. Every operation is lawful. An outcome
that the request has got was told to the promise and to the hook, once and in the phase that it
brings, and nothing was told before. -/
theorem one_outcome {id : Nat} {maxPacketSize maxPacketCount : Number} {signal : Option String}
    {sent : Message}
    (created : create id layout maxPacketSize maxPacketCount signal sent = .ok r)
    (calls : List Call) :
    let life := (begin r).callAll calls
    (life.moments.Pairwise Leads ∧ life.past.map (·.after) = life.moments.tail) ∧
      (∀ o ∈ life.past, o.Lawful) ∧
      (∀ result, life.request.status = .settled result →
        life.promised = some result ∧ life.hooked = [(life.request.phase, result)]) ∧
      (life.request.isSettled = false → life.promised = none ∧ life.hooked = []) := by
  intro life
  have ordered : life.Ordered layout :=
    ordered_callAll (create_valid created) (create_pending created) calls
  refine ⟨⟨ordered.leads, ordered.after_eq⟩, ordered.lawful, fun result status => ?_,
    fun unsettled => ?_⟩
  · have told : life.results = [result] := by rw [ordered.results_eq, status]; rfl
    rw [promised, ordered.hooked_eq, told, life.request.phase_eq status]
    exact ⟨rfl, rfl⟩
  · have told : life.results = [] := by
      rw [ordered.results_eq]
      cases status : life.request.status with
      | settled result => cases (life.request.isSettled_eq status).symm.trans unsettled
      | _ => rfl
    rw [promised, ordered.hooked_eq, told]
    exact ⟨rfl, rfl⟩

/-- A request for two packets that a signal can cancel. -/
def twoPackets : WriteRequest where
  id := 1
  kind := .data
  fragments := [⟨.data, true, false, [1]⟩, ⟨.data, false, true, [2]⟩]
  maxPacketSize := .ofNat 2
  layout := .default
  signal := "stop"
  status := .pending
  sentCount := 0

/-- The request of the example has two packets. -/
lemma create_twoPackets :
    create 1 .default (2 : Nat) (4096 : Nat) "stop" ⟨.data, [1, 2]⟩ = .ok twoPackets := by
  have chunk : Layout.default.chunkSize (2 : Nat) = .ok ⟨1, by decide⟩ := rfl
  have cut : slices ⟨1, by decide⟩ [1, 2] = [[1], [2]] := by
    rw [slices_eq, if_neg (by decide), slices_eq, if_pos (by decide)]
    rfl
  simp only [create, chunk, Message.fragments, cut]
  rfl

/-- The request for two packets is started again while it submits the first one, cancelled while it
submits the second one, cancelled again by the hook, and answered and aborted when all is over. -/
def entangledCalls : List Call :=
  [⟨.start (.start .default),
      [⟨.start (.start .default), []⟩,
        ⟨.conclude 0 .accepted, [⟨.cancel, [⟨.cancel, []⟩]⟩]⟩]⟩,
    ⟨.conclude 1 (.rejected (.error "late")), []⟩, ⟨.abort "stop", []⟩]

/-- A request that is cancelled while it submits, and started again, has one outcome. -/
theorem one_outcome_entangled :
    create 1 .default (2 : Nat) (4096 : Nat) "stop" ⟨.data, [1, 2]⟩ = .ok twoPackets ∧
      let life := (begin twoPackets).callAll entangledCalls
      life.moments.map (·.phase) =
          [.pending, .inFlight, .inFlight, .inFlight, .cancelled, .cancelled, .cancelled,
            .cancelled] ∧
        life.past.Forall Occurrence.Lawful ∧
        life.request.status = .settled (.cancelled 1) ∧
        life.promised = some (.cancelled 1) ∧
        life.hooked = [(.cancelled, .cancelled 1)] := by
  obtain ⟨_, lawful, settled, _⟩ := one_outcome create_twoPackets entangledCalls
  obtain ⟨told, hooked⟩ := settled (.cancelled 1) rfl
  exact ⟨create_twoPackets, by decide, List.forall_iff_forall_mem.mpr lawful, rfl, told, hooked⟩

end Life

end WriteRequest

end PacketLink
