import Mathlib.Data.List.Sort
import PacketLink.Proofs.Connection.Closing
import PacketLink.Proofs.Connection.Renewal

/-!
# What waits in the queue

The queue holds the pending requests in the order of sending, and with them requests that were sent
with an aborted signal: such a request has settled before it joins the queue, and leaves it no
earlier than the request in the slot gives way (`Run.queue_counts_cancelled`). `Orderly` says so of
a connection and a list of such requests, and every operation keeps it: `Move.of_mem_queue` says
that what waits has not changed, and `startFrom_kept` that a settled request is passed over only
when everything before it has settled. Main statement: `Run.queue_eq`.
-/

namespace PacketLink.Connection

variable {c c' : Connection} {inputs : List Input} {effects : List Effect} {k j : Nat}
  {r s : WriteRequest} {refused : List Nat}

/-! ## Moves and the queue -/

/-- A request that settles does not wait any more. -/
lemma WellFormed.mem_queue_settleRequest (wf : c.WellFormed) {sentCount : Nat}
    {result : WriteResult} :
    j ∈ (c.settleRequest k r sentCount result).queue ↔ j ∈ c.queue ∧ j ≠ k := by
  rw [Connection.settleRequest, queue_vacate]
  change j ∈ (if c.active = some k then c.queue else c.queue.filter (· ≠ k)) ↔ _
  split
  · rename_i active
    refine ⟨fun waits => ⟨waits, fun same => ?_⟩, And.left⟩
    exact Nat.lt_irrefl k (wf.active_lt active (same ▸ waits))
  · simp

/-- Without a send, what waits after a move has waited before it and has not changed. -/
lemma Move.of_mem_queue (move : Move c inputs effects c') (wf : c.WellFormed)
    (unsent : sends inputs = []) (waits : j ∈ c'.queue) :
    j ∈ c.queue ∧ c'.requests[j]? = c.requests[j]? := by
  have apart {k : Nat} {r : WriteRequest} (get : c.requests[k]? = some r) (other : j ≠ k)
      (r' : WriteRequest) : (c.setRequest k r').requests[j]? = c.requests[j]? := by
    rw [getElem?_setRequest get, if_neg other]
  cases move with
  | join => simp [sends, Input.message?] at unsent
  | refuse => simp [sends, Input.message?] at unsent
  | skip head => exact ⟨head ▸ List.mem_cons_of_mem _ waits, rfl⟩
  | @launch k _ _ _ _ head get =>
    have behind : k < j := (List.pairwise_cons.mp (head ▸ wf.sorted)).1 j waits
    exact ⟨head ▸ List.mem_cons_of_mem _ waits, apart get (Nat.ne_of_gt behind) _⟩
  | @follow k _ _ get flying =>
    have behind := wf.active_lt (wf.active_of_inFlight get flying) waits
    exact ⟨waits, apart get (Nat.ne_of_gt behind) _⟩
  | complete get | fail _ get | cancel get =>
    obtain ⟨waited, other⟩ := wf.mem_queue_settleRequest.mp waits
    refine ⟨waited, ?_⟩
    rw [settleRequest, requests_vacate]
    exact apart get other _
  | take bytes =>
    rw [connection_receive] at waits ⊢
    exact ⟨waits, rfl⟩
  | _ => exact ⟨waits, rfl⟩

/-- Without a new message only requests wait that waited before, as they did. -/
lemma Path.of_mem_queue (path : Path c inputs effects c') (wf : c.WellFormed)
    (unsent : sends inputs = []) (waits : j ∈ c'.queue) :
    j ∈ c.queue ∧ c'.requests[j]? = c.requests[j]? := by
  induction path with
  | rest => exact ⟨waits, rfl⟩
  | step path move ih =>
    rw [sends, List.filterMap_append, List.append_eq_nil_iff] at unsent
    obtain ⟨waited, same⟩ := move.of_mem_queue (path.wellFormed wf) unsent.2 waits
    obtain ⟨first, same'⟩ := ih unsent.1 waited
    exact ⟨first, same.trans same'⟩

/-- An outcome takes no settled request out of the queue. -/
lemma Move.mem_queue_of_outcome {index : Nat} {outcome : Outcome}
    (move : Move c [.outcome k index outcome] effects c') (wf : c.WellFormed) (waits : j ∈ c.queue)
    (get : c.requests[j]? = some s) (settled : s.isSettled = true) : j ∈ c'.queue := by
  have apart {r : WriteRequest} (there : c.requests[k]? = some r) (flying : r.status = .inFlight) :
      j ≠ k := by
    rintro rfl
    obtain rfl := Option.some.inj (there.symm.trans get)
    cases (WriteRequest.isSettled_eq flying).symm.trans settled
  cases move with
  | follow => exact waits
  | complete there flying => exact wf.mem_queue_settleRequest.mpr ⟨waits, apart there flying⟩
  | fail _ there flying => exact wf.mem_queue_settleRequest.mpr ⟨waits, apart there flying⟩
  | strand => exact waits
  | note => exact waits

/-! ## Requests before a place -/

/-- Every request before the place `k` has settled. -/
def SettledBefore (c : Connection) (k : Nat) : Prop :=
  ∀ j < k, ∀ r, c.requests[j]? = some r → r.isSettled = true

/-- What has settled before a place stays settled. -/
lemma SettledBefore.along (before : c.SettledBefore k) (path : Path c inputs effects c')
    (old : k ≤ c.requests.length) : c'.SettledBefore k := by
  intro j less r get
  obtain ⟨s, here, ahead⟩ := path.exists_ahead (Nat.lt_of_lt_of_le less old) get
  have settled := before j less s here
  rwa [ahead.settled settled]

/-- A request leaves the queue only when everything before it has settled. -/
lemma startFrom_kept {queue : List Nat} (wf : WellFormed { c with queue }) (waits : k ∈ queue) :
    k ∈ (startFrom queue c).connection.queue ∨
      (startFrom queue c).connection.SettledBefore k := by
  induction queue with
  | nil => cases waits
  | cons i queue ih =>
    have carried := startFrom_carried (i :: queue) wf
    have old : k ≤ c.requests.length := Nat.le_of_lt (wf.lt_length waits)
    obtain ⟨behind, _⟩ := List.pairwise_cons.mp wf.sorted
    by_cases busy : c.active.isSome = true
    · left
      simpa [startFrom, busy, stay, ask] using waits
    · have free : c.active = none := by simpa using busy
      obtain rfl | waits := List.mem_cons.mp waits
      · -- the request at the head of the queue: nothing else is left before it
        right
        refine SettledBefore.along (c := { c with queue := k :: queue }) (fun j less s here => ?_)
          carried.path old
        refine wf.isSettled here (by simp [free]) fun mem => ?_
        obtain rfl | mem := List.mem_cons.mp mem
        · exact Nat.lt_irrefl j less
        · exact Nat.lt_asymm less (behind j mem)
      · obtain ⟨s, here⟩ : ∃ s, c.requests[i]? = some s :=
          ⟨_, List.getElem?_eq_getElem (wf.lt_length (List.mem_cons_self ..))⟩
        by_cases settled : s.isSettled = true
        · have skip : Move { c with queue := i :: queue } [] [] { c with queue } :=
            .skip (r := s) rfl here settled
          have same : startFrom (i :: queue) c = startFrom queue c := by
            simp [startFrom, free, here, settled]
          rw [same]
          exact ih (skip.wellFormed wf) waits
        · -- the request before it takes the slot and leaves the rest of the queue as it is
          left
          have pending := wf.pending_of_free free here settled
          have valid := wf.valid here
          obtain ⟨f, first⟩ : ∃ f, s.fragments[0]? = some f :=
            ⟨_, List.getElem?_eq_getElem valid.framed.length_pos⟩
          simp only [startFrom, free, here, settled,
            WriteRequest.start_eq valid pending first wf.space_eq]
          exact waits

/-! ## Operations and the queue -/

/-- What waits is pending or one of `refused`, which were cancelled before they joined the queue.
Of these the ones that have left the queue have only settled requests before them. -/
structure Orderly (refused : List Nat) (c : Connection) : Prop where
  cancelled : ∀ {k : Nat}, k ∈ refused →
    ∃ r, c.requests[k]? = some r ∧ r.status = .settled (.cancelled 0)
  waits : ∀ {k : Nat} {r : WriteRequest}, k ∈ c.queue → c.requests[k]? = some r →
    r.status = .pending ∨ k ∈ refused
  kept : ∀ {k : Nat}, k ∈ refused → k ∈ c.queue ∨ c.SettledBefore k

namespace Orderly

/-- Moves that send nothing and keep the refused requests in the queue while they have to wait. -/
lemma along (orderly : c.Orderly refused) (wf : c.WellFormed) (path : Path c inputs effects c')
    (unsent : sends inputs = [])
    (kept : ∀ k ∈ refused, k ∈ c.queue → k ∈ c'.queue ∨ c'.SettledBefore k) :
    c'.Orderly refused := by
  refine ⟨fun mem => ?_, fun waits get => ?_, fun mem => ?_⟩
  · obtain ⟨r, get, status⟩ := orderly.cancelled mem
    obtain ⟨r', get', ahead⟩ := path.ahead get
    rw [ahead.settled (r.isSettled_eq status)] at get'
    exact ⟨r, get', status⟩
  · obtain ⟨waited, same⟩ := path.of_mem_queue wf unsent waits
    exact orderly.waits waited (same ▸ get)
  · obtain waited | before := orderly.kept mem
    · exact kept _ mem waited
    · obtain ⟨r, get, _⟩ := orderly.cancelled mem
      exact .inr (before.along path (Nat.le_of_lt (List.getElem?_eq_some_iff.mp get).1))

/-- Nothing waits any more. -/
lemma idle (orderly : c.Orderly refused) (requests : c'.requests = c.requests.map .cancelled)
    (empty : c'.queue = []) : c'.Orderly refused := by
  refine ⟨fun mem => ?_, fun waits => by simp [empty] at waits, fun _ => .inr ?_⟩
  · obtain ⟨r, get, status⟩ := orderly.cancelled mem
    refine ⟨r, ?_, status⟩
    rw [requests, List.getElem?_map, get, Option.map_some,
      r.cancelled_of_settled (r.isSettled_eq status)]
  · intro j _ s get
    rw [requests, List.getElem?_map, Option.map_eq_some_iff] at get
    obtain ⟨r, _, rfl⟩ := get
    exact r.isSettled_cancelled

/-- Everything but the requests and the queue may change at will. -/
lemma congr (orderly : c.Orderly refused) (requests : c'.requests = c.requests)
    (queue : c'.queue = c.queue) : c'.Orderly refused := by
  refine ⟨?_, ?_, ?_⟩ <;> simp only [SettledBefore, requests, queue]
  exacts [orderly.cancelled, orderly.waits, orderly.kept]

/-- Starting what waits keeps the queue in order. -/
lemma pumped (orderly : c.Orderly refused) (wf : c.WellFormed) (effects : List Effect) :
    ((ask effects c).andThen pump).connection.Orderly refused := by
  rw [andThen_eq rfl]
  exact orderly.along wf (pump_carried wf).path rfl fun k _ waits => startFrom_kept wf waits

/-- A cancellation keeps the queue in order. -/
lemma cancel (orderly : c.Orderly refused) (wf : c.WellFormed) (k : Nat) :
    (c.cancel k).1.connection.Orderly refused := by
  cases get : c.requests[k]? with
  | none =>
    rw [cancel_of_none get]
    exact orderly
  | some r =>
    rw [cancel_eq get]
    split
    · exact orderly
    · rename_i unsettled
      have move := Move.cancel get (by simpa using unsettled)
      rw [advance_eq rfl]
      refine pumped (orderly.along wf (.single move) rfl fun j mem waits => .inl ?_)
        (move.wellFormed wf) _
      -- a refused request has settled, so it is another one
      refine wf.mem_queue_settleRequest.mpr ⟨waits, ?_⟩
      rintro rfl
      obtain ⟨s, there, status⟩ := orderly.cancelled mem
      obtain rfl := Option.some.inj (there.symm.trans get)
      exact unsettled (s.isSettled_eq status)

/-- Cancellations one after the other keep the queue in order. -/
lemma cancelEach (orderly : c.Orderly refused) (wf : c.WellFormed) (rest : c.AtRest)
    (ks : List Nat) : (cancelEach ks c).connection.Orderly refused := by
  induction ks generalizing c with
  | nil => exact orderly
  | cons k ks ih =>
    have first := cancel_carried wf rest k
    rw [cancelEach_cons, andThen_eq first.refused_eq]
    exact ih (orderly.cancel wf k) (first.path.wellFormed wf) first.atRest

/-- An outcome of a submission keeps the queue in order. -/
lemma conclude (orderly : c.Orderly refused) (wf : c.WellFormed) (rest : c.AtRest)
    (get : c.requests[k]? = some r) {index : Nat}
    (due : r.status = .inFlight → index = r.sentCount) (outcome : Outcome) :
    (c.conclude k index outcome).connection.Orderly refused := by
  obtain ⟨effects, c', move, same⟩ := conclude_eq wf rest get due outcome
  rw [same]
  refine pumped (orderly.along wf (.single move) rfl fun j mem waits => .inl ?_)
    (move.wellFormed wf) _
  obtain ⟨s, there, status⟩ := orderly.cancelled mem
  exact move.mem_queue_of_outcome wf waits there (s.isSettled_eq status)

/-- A new request joins the queue. With an aborted signal it is one of the refused ones. -/
lemma withRequest (orderly : c.Orderly refused) (pending : r.status = .pending)
    (unsent : r.sentCount = 0) (aborted : Bool) :
    (c.withRequest (joining r aborted)).Orderly
      (refused ++ if aborted then [c.requests.length] else []) := by
  have old {k : Nat} {s : WriteRequest} (get : c.requests[k]? = some s) :
      (c.requests ++ [joining r aborted])[k]? = some s := by
    rw [List.getElem?_append_left (List.getElem?_eq_some_iff.mp get).1]
    exact get
  refine ⟨fun {k} mem => ?_, fun {k s} waits get => ?_, fun {k} mem => ?_⟩
  · obtain mem | new := List.mem_append.mp mem
    · obtain ⟨s, get, status⟩ := orderly.cancelled mem
      exact ⟨s, old get, status⟩
    · cases aborted with
      | false => cases new
      | true =>
        obtain rfl := List.mem_singleton.mp new
        exact ⟨_, List.getElem?_concat_length, by simp [joining, unsent]⟩
  · obtain get | ⟨rfl, rfl⟩ := getElem?_concat_cases get
    · obtain waits | here := List.mem_append.mp waits
      · exact (orderly.waits waits get).imp_right (List.mem_append_left _)
      · rw [List.mem_singleton.mp here, List.getElem?_eq_none (Nat.le_refl _)] at get
        cases get
    · cases aborted with
      | false => exact .inl pending
      | true => exact .inr (List.mem_append_right _ (List.mem_singleton_self _))
  · obtain mem | new := List.mem_append.mp mem
    · obtain waits | before := orderly.kept mem
      · exact .inl (List.mem_append_left _ waits)
      · obtain ⟨t, here, _⟩ := orderly.cancelled mem
        have bound := (List.getElem?_eq_some_iff.mp here).1
        refine .inr fun j less s get => before j less s ?_
        rwa [Connection.withRequest, List.getElem?_append_left (Nat.lt_trans less bound)] at get
    · cases aborted with
      | false => cases new
      | true =>
        rw [List.mem_singleton.mp new]
        exact .inl (List.mem_append_right _ (List.mem_singleton_self _))

end Orderly

/-! ## Runs and the queue -/

/-- The signal that an operation sends a message with. -/
def Operation.signal? : Operation → Option String
  | .send _ _ _ signal => signal
  | .sendControlMessage _ _ _ signal => signal
  | _ => none

/-- The places of the pending requests, in the order of sending. -/
def pending (c : Connection) : List Nat :=
  (List.range c.requests.length).filter fun k => c.requests[k]?.any (·.phase = .pending)

/-- The places of those of `refused` that were sent after the request in the slot. -/
def overdue (c : Connection) (refused : List Nat) : List Nat :=
  (List.range c.requests.length).filter fun k => k ∈ refused ∧ c.active.any (· < k)

/-- The pending requests are those that have not been started or settled. -/
lemma mem_pending : k ∈ c.pending ↔ ∃ r, c.requests[k]? = some r ∧ r.status = .pending := by
  simp only [pending, List.mem_filter, List.mem_range, Option.any_eq_true, decide_eq_true_eq]
  refine ⟨fun ⟨_, r, get, phase⟩ => ⟨r, get, ?_⟩, fun ⟨r, get, status⟩ =>
    ⟨(List.getElem?_eq_some_iff.mp get).1, r, get, r.phase_eq status⟩⟩
  exact WriteRequest.phase_eq_pending_iff.mp phase

/-- The overdue requests are those that were refused while an older one is in the slot. -/
lemma Orderly.mem_overdue (orderly : c.Orderly refused) :
    k ∈ c.overdue refused ↔ k ∈ refused ∧ ∃ a < k, c.active = some a := by
  simp only [overdue, List.mem_filter, List.mem_range, Option.any_eq_true, decide_eq_true_eq]
  constructor
  · rintro ⟨_, mem, a, active, less⟩
    exact ⟨mem, a, less, active⟩
  · rintro ⟨mem, a, less, active⟩
    obtain ⟨r, get, _⟩ := orderly.cancelled mem
    exact ⟨(List.getElem?_eq_some_iff.mp get).1, mem, a, active, less⟩

/-- Between two operations, what waits is pending or was refused behind the request in the slot. -/
lemma Orderly.mem_queue (orderly : c.Orderly refused) (wf : c.WellFormed) (rest : c.AtRest) :
    k ∈ c.queue ↔ k ∈ c.pending ∨ k ∈ c.overdue refused := by
  rw [mem_pending, orderly.mem_overdue]
  constructor
  · intro waits
    have get := List.getElem?_eq_getElem (wf.lt_length waits)
    refine (orderly.waits waits get).imp (fun status => ⟨_, get, status⟩) fun mem => ⟨mem, ?_⟩
    cases active : c.active with
    | none => simp [rest active] at waits
    | some a => exact ⟨a, wf.active_lt active waits, rfl⟩
  · rintro (⟨r, get, status⟩ | ⟨mem, a, less, active⟩)
    · exact wf.mem_of_pending get status
    · refine (orderly.kept mem).resolve_right fun before => ?_
      obtain ⟨r, get, flying⟩ := wf.inFlight_of_active active
      cases (r.isSettled_eq flying).symm.trans (before a less r get)

namespace Run

variable {layout : Layout} {maxPacketCount maxMessageSize : Number} {run : Run}

/-- The places of the requests that an operation sends with a signal that is aborted already. -/
def refusal (run : Run) (operation : Operation) : List Nat :=
  if operation.signal?.any run.aborted.contains then
    (List.range (run.apply operation).connection.requests.length).drop
      run.connection.requests.length
  else []

/-- The places of the requests that were sent so when a run went on with some operations. -/
def refusals (run : Run) : List Operation → List Nat
  | [] => []
  | operation :: operations =>
    run.refusal operation ++ (run.apply operation).refusals operations

/-- An operation that adds no request refuses none. -/
lemma refusal_of_unsent {operation : Operation} (same :
    (run.apply operation).connection.requests.length = run.connection.requests.length) :
    run.refusal operation = [] := by
  simp [refusal, same]

/-- A send that is not refused. -/
lemma Sound.orderly_send (sound : Sound layout maxPacketCount maxMessageSize run)
    (orderly : run.connection.Orderly refused) {id : Nat} {maxPacketSize : Number}
    {message : Message} {signal : Option String} {turn : Turn}
    (sent : run.connection.send id maxPacketSize message signal (signal.any run.aborted.contains) =
      .ok turn) :
    turn.connection.requests.length = run.connection.requests.length + 1 ∧
      turn.connection.Orderly (refused ++
        if signal.any run.aborted.contains then [run.connection.requests.length] else []) := by
  obtain ⟨r, created, opened, rfl⟩ := send_eq sent
  have valid := WriteRequest.create_valid created
  have pending := WriteRequest.create_pending created
  obtain ⟨effects, move, same⟩ := enqueue_eq sound.wellFormed sound.atRest opened valid pending
    (signal.any run.aborted.contains)
  have wf := move.wellFormed sound.wellFormed
  rw [same]
  refine ⟨?_, (orderly.withRequest pending (valid.pending_sentCount pending) _).pumped wf _⟩
  rw [andThen_eq rfl]
  exact ((pump_carried wf).path.length_eq rfl).trans (by simp [withRequest])

/-- Every operation keeps the queue in order, with the requests that it refuses. -/
lemma Sound.orderly_apply (sound : Sound layout maxPacketCount maxMessageSize run)
    (orderly : run.connection.Orderly refused) (operation : Operation) :
    (run.apply operation).connection.Orderly (refused ++ run.refusal operation) := by
  have wf := sound.wellFormed
  have rest := sound.atRest
  have unsent (signed : operation.signal? = none)
      (orderly : (run.apply operation).connection.Orderly refused) :
      (run.apply operation).connection.Orderly (refused ++ run.refusal operation) := by
    simpa [refusal, signed] using orderly
  have unchanged (same : run.apply operation = run) :
      (run.apply operation).connection.Orderly (refused ++ run.refusal operation) := by
    rw [refusal_of_unsent (by rw [same]), same, List.append_nil]
    exact orderly
  have added {id : Nat} {maxPacketSize : Number} {message : Message} {turn : Turn}
      (sent : run.connection.send id maxPacketSize message operation.signal?
        (operation.signal?.any run.aborted.contains) = .ok turn)
      (same : (run.apply operation).connection = turn.connection) :
      (run.apply operation).connection.Orderly (refused ++ run.refusal operation) := by
    obtain ⟨grown, orderly⟩ := sound.orderly_send orderly sent
    rw [refusal, same, grown]
    simpa [List.range_succ] using orderly
  cases operation with
  | send id maxPacketSize message signal =>
    cases sent : run.connection.send id maxPacketSize message signal
        (signal.any run.aborted.contains) with
    | error cause => exact unchanged (by simp only [Run.apply, sent])
    | ok turn => exact added sent (by simp only [Run.apply, sent, absorb])
  | sendControlMessage id maxPacketSize message signal =>
    cases sent : run.connection.sendControlMessage id maxPacketSize message signal
        (signal.any run.aborted.contains) with
    | error cause => exact unchanged (by simp only [Run.apply, sent])
    | ok turn =>
      obtain ⟨carrier, _, sent'⟩ := sendControlMessage_eq sent
      exact added sent' (by simp only [Run.apply, sent, absorb])
  | cancel k => exact unsent rfl (orderly.cancel wf k)
  | abort signal => exact unsent rfl (orderly.cancelEach wf rest _)
  | start =>
    cases started : run.connection.start with
    | error cause => exact unchanged (by simp only [Run.apply, started])
    | ok turn =>
      refine unsent rfl ?_
      have same : turn.connection.requests = run.connection.requests ∧
          turn.connection.queue = run.connection.queue := by
        unfold Connection.start at started
        split at started
        · cases started
        · split at started <;> cases started <;> exact ⟨rfl, rfl⟩
      simp only [Run.apply, started]
      exact orderly.congr same.1 same.2
  | close =>
    refine unsent rfl ?_
    change run.connection.close.connection.Orderly refused
    cases closed : run.connection.closed with
    | true =>
      rw [close_of_closed closed]
      exact orderly
    | false =>
      obtain ⟨shut, requests, _⟩ := close_shut wf closed
      exact orderly.idle requests shut.empty
  | reset =>
    refine unsent rfl ?_
    change run.connection.reset.connection.Orderly refused
    rw [reset_eq wf]
    exact orderly.idle rfl rfl
  | receive bytes =>
    refine unsent rfl ?_
    change (run.connection.receive bytes).1.connection.Orderly refused
    rw [connection_receive]
    exact orderly.congr rfl rfl
  | conclude k index outcome =>
    by_cases awaits : run.Awaits k index
    · refine unsent rfl ?_
      obtain ⟨r, get, due⟩ := sound.path.due awaits.1 awaits.2
      simp only [Run.apply, awaits, if_true]
      exact orderly.conclude wf rest get due outcome
    · exact unchanged (by simp only [Run.apply, awaits, if_false])

/-- All operations keep the queue in order, with the requests that they refuse. -/
lemma Sound.orderly_foldl (sound : Sound layout maxPacketCount maxMessageSize run)
    (orderly : run.connection.Orderly refused) (operations : List Operation) :
    (operations.foldl Run.apply run).connection.Orderly (refused ++ run.refusals operations) := by
  induction operations generalizing run refused with
  | nil => simpa [refusals] using orderly
  | cons operation operations ih =>
    rw [refusals, ← List.append_assoc]
    exact ih (sound.apply operation) (sound.orderly_apply orderly operation)

/-- The queue holds the pending requests and those that were sent with an aborted signal after the
request in the slot, in the order of sending and without the request in the slot. The requests that
were sent with an aborted signal have settled as cancelled with nothing sent, so what the queue
counts are the pending requests and these. -/
theorem queue_eq (layout : Layout) (maxPacketCount maxMessageSize : Number)
    (operations : List Operation) :
    let run := of (new layout maxPacketCount maxMessageSize) operations
    let refused := refusals (begin (new layout maxPacketCount maxMessageSize)) operations
    let c := run.connection
    (∀ k, k ∈ c.queue ↔ k ∈ c.pending ∨ k ∈ c.overdue refused) ∧
      c.queue.Pairwise (· < ·) ∧ (∀ k, c.active = some k → k ∉ c.queue) ∧
      (∀ k ∈ refused, ∃ r, c.requests[k]? = some r ∧ r.status = .settled (.cancelled 0)) ∧
      c.queue.length = c.pending.length + (c.overdue refused).length := by
  intro run refused c
  have sound : Sound layout maxPacketCount maxMessageSize run := sound_of operations
  have wf := sound.wellFormed
  have orderly : c.Orderly refused := by
    have start : (new layout maxPacketCount maxMessageSize).Orderly [] :=
      ⟨List.not_mem_nil.elim, List.not_mem_nil.elim, List.not_mem_nil.elim⟩
    have begun : Sound layout maxPacketCount maxMessageSize (begin (new layout _ _)) :=
      ⟨.rest _, fun _ => rfl⟩
    exact begun.orderly_foldl start operations
  have mem (k : Nat) : k ∈ c.queue ↔ k ∈ c.pending ∨ k ∈ c.overdue refused :=
    orderly.mem_queue wf sound.atRest
  have apart : c.pending.Disjoint (c.overdue refused) := by
    intro k waits late
    obtain ⟨r, get, pending⟩ := mem_pending.mp waits
    obtain ⟨s, there, cancelled⟩ := orderly.cancelled (orderly.mem_overdue.mp late).1
    obtain rfl := Option.some.inj (get.symm.trans there)
    cases pending.symm.trans cancelled
  refine ⟨mem, wf.sorted, fun k active waits => Nat.lt_irrefl k (wf.active_lt active waits),
    fun k refused => orderly.cancelled refused, ?_⟩
  have whole : c.queue.Perm (c.pending ++ c.overdue refused) := by
    have nodup : (c.pending ++ c.overdue refused).Nodup :=
      (List.nodup_range.filter _).append (List.nodup_range.filter _) apart
    rw [List.perm_ext_iff_of_nodup (wf.sorted.imp Nat.ne_of_lt) nodup]
    simpa using mem
  rw [whole.length_eq, List.length_append]

/-- Two messages, the second one with a signal that was aborted before. -/
def belated : List Operation :=
  [.send 1 3 ⟨.data, [1]⟩ none, .abort "stop", .send 2 3 ⟨.data, [2]⟩ (some "stop")]

/-- A request that was cancelled before it joined the queue is counted as waiting while another one
is in the slot, although nothing is pending. -/
theorem queue_counts_cancelled :
    let c := (of (new .default 4096 1048576) belated).connection
    c.active = some 0 ∧ c.queue = [1] ∧ c.pending = [] ∧
      c.requests.map (·.phase) = [.inFlight, .cancelled] ∧
      refusals (begin (new .default 4096 1048576)) belated = [1] := by
  decide +kernel

end Run

end PacketLink.Connection
