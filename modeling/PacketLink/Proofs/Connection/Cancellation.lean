import PacketLink.Proofs.Connection.Ahead
import PacketLink.Proofs.Connection.Operations

/-!
# What cancelling does

Cancelling the request in flight starts the next one, so the requests that are cancelled one after
the other may be started in between. `cancelEach_settled` says that all of them have settled in the
end, and `Path.unheard` what a request may become when no outcome is heard. Where the request in
flight is none of them, nothing is started (`cancelEach_idle`), and neither when every request is
cancelled (`cancelAll_quiet`, `cancelAll_requests`). `send_new` says of a request that is cancelled
before it is queued that it hands nothing over.
-/

namespace PacketLink

/-- What cancelling makes of a request. -/
def WriteRequest.cancelled (r : WriteRequest) : WriteRequest :=
  if r.isSettled then r else { r with status := .settled (.cancelled r.sentCount) }

/-- A request that has settled cannot be cancelled. -/
lemma WriteRequest.cancelled_of_settled {r : WriteRequest} (settled : r.isSettled = true) :
    r.cancelled = r := if_pos settled

/-- A request that was cancelled has settled, one way or the other. -/
lemma WriteRequest.isSettled_cancelled (r : WriteRequest) : r.cancelled.isSettled = true := by
  unfold cancelled
  split
  · assumption
  · rfl

namespace Connection

variable {c c' : Connection} {inputs : List Input} {effects : List Effect} {k i : Nat}
  {r : WriteRequest}

/-! ## Moves that hear nothing -/

/-- A request `r'` is what `r` may become when no outcome is heard: started, or cancelled with the
count that it had. -/
structure Unheard (r r' : WriteRequest) : Prop where
  eq_status : r' = { r with status := r'.status }
  cancelled : r'.isSettled = true → r' = r ∨ r'.status = .settled (.cancelled r.sentCount)

/-- A request of which nothing was heard may stay as it is. -/
lemma Unheard.refl (r : WriteRequest) : Unheard r r := ⟨rfl, fun _ => .inl rfl⟩

/-- What a request may become in two steps it may become in one. -/
lemma Unheard.trans {r' r'' : WriteRequest} (first : Unheard r r') (second : Unheard r' r'') :
    Unheard r r'' := by
  have same := first.eq_status
  refine ⟨?_, fun settled => ?_⟩
  · rw [second.eq_status, same]
  · obtain rfl | status := second.cancelled settled
    · exact first.cancelled settled
    · exact .inr (by rw [status, same])

/-- Without an outcome a request is at most started or cancelled. -/
lemma Move.unheard (move : Move c [] effects c') (here : c.requests[k]? = some r) :
    ∃ r', c'.requests[k]? = some r' ∧ Unheard r r' := by
  cases move with
  | launch _ _ get => exact exists_setRequest .refl get ⟨rfl, fun h => by cases h⟩ here
  | cancel get =>
    rw [settleRequest, requests_vacate]
    exact exists_setRequest .refl get ⟨rfl, fun _ => .inr rfl⟩ here
  | _ => exact ⟨r, here, .refl r⟩

/-- Without an outcome a request is at most started and cancelled. -/
lemma Path.unheard (path : Path c inputs effects c') (silent : inputs = [])
    (here : c.requests[k]? = some r) : ∃ r', c'.requests[k]? = some r' ∧ Unheard r r' := by
  induction path with
  | rest => exact ⟨r, here, .refl r⟩
  | step _ move ih =>
    obtain ⟨rfl, rfl⟩ := List.append_eq_nil_iff.mp silent
    obtain ⟨s, there, first⟩ := ih rfl
    obtain ⟨t, get, second⟩ := move.unheard there
    exact ⟨t, get, first.trans second⟩

/-- Without an outcome only first packets of pending requests are handed over. -/
lemma Path.of_mem_called (path : Path c inputs effects c') (silent : inputs = [])
    (mem : (k, i) ∈ called effects) :
    i = 0 ∧ ∃ r, c.requests[k]? = some r ∧ r.status = .pending := by
  induction path with
  | rest => cases mem
  | step path move ih =>
    obtain ⟨rfl, rfl⟩ := List.append_eq_nil_iff.mp silent
    rw [called_append, List.mem_append] at mem
    obtain mem | mem := mem
    · exact ih rfl mem
    · obtain ⟨s, there, ⟨pending, first⟩ | ⟨_, _, heard⟩⟩ := move.of_mem_called mem
      · -- the request was there before, and nothing becomes pending again
        obtain ⟨r, here, ahead⟩ := path.exists_ahead_of_unsent rfl there
        obtain rfl := ahead.pending pending
        exact ⟨first, s, here, pending⟩
      · cases heard

/-! ## Cancelling -/

/-- A request that is cancelled has settled, whatever is started after it. -/
lemma cancel_settled (wf : c.WellFormed)
    (get : (c.cancel k).1.connection.requests[k]? = some r) : r.isSettled = true := by
  cases here : c.requests[k]? with
  | none =>
    rw [cancel_of_none here] at get
    cases here.symm.trans get
  | some s =>
    rw [cancel_eq here] at get
    split at get
    · rename_i settled
      obtain rfl := Option.some.inj (here.symm.trans get)
      exact settled
    · rename_i unsettled
      have move := Move.cancel here (by simpa using unsettled)
      have next := (pump_carried (move.wellFormed wf)).path
      have cancelled : (c.settleRequest k s s.sentCount (.cancelled s.sentCount)).requests[k]? =
          some { s with status := .settled (.cancelled s.sentCount) } := by
        rw [settleRequest, requests_vacate, getElem?_setRequest here, if_pos rfl]
      obtain ⟨t, last, ahead⟩ := next.ahead cancelled
      rw [advance_eq rfl, andThen_eq rfl] at get
      obtain rfl := Option.some.inj (last.symm.trans get)
      rw [ahead.settled rfl]
      rfl

/-- Requests that are cancelled one after the other have settled, whatever is started in between. -/
lemma cancelEach_settled {ks : List Nat} (wf : c.WellFormed) (rest : c.AtRest) (mem : k ∈ ks)
    (get : (cancelEach ks c).connection.requests[k]? = some r) : r.isSettled = true := by
  induction ks generalizing c with
  | nil => cases mem
  | cons j ks ih =>
    have first := cancel_carried wf rest j
    have wf' := first.path.wellFormed wf
    rw [cancelEach_cons, andThen_eq first.refused_eq] at get
    obtain rfl | mem := List.mem_cons.mp mem
    · have later := (cancelEach_carried ks wf' first.atRest).path
      obtain ⟨s, cancelled, ahead⟩ := later.exists_ahead_of_unsent rfl get
      have settled := cancel_settled wf cancelled
      rw [ahead.settled settled]
      exact settled
    · exact ih wf' first.atRest mem get

/-- Nothing is started when the requests that are cancelled are not in the slot. -/
lemma cancelEach_idle {ks : List Nat} (wf : c.WellFormed) (rest : c.AtRest)
    (idle : ∀ k ∈ ks, c.active ≠ some k) :
    Quiet (cancelEach ks c).effects ∧ (cancelEach ks c).connection.counter = c.counter := by
  induction ks generalizing c with
  | nil => exact ⟨List.forall_mem_nil _, rfl⟩
  | cons k ks ih =>
    obtain ⟨apart, idle⟩ := List.forall_mem_cons.mp idle
    have unchanged : (c.cancel k).1 = stay c → Quiet (cancelEach (k :: ks) c).effects ∧
        (cancelEach (k :: ks) c).connection.counter = c.counter := by
      intro same
      rw [cancelEach_cons, same, stay_andThen]
      exact ih wf rest idle
    cases get : c.requests[k]? with
    | none => exact unchanged (by rw [cancel_of_none get])
    | some r =>
      by_cases settled : r.isSettled = true
      · exact unchanged (by rw [cancel_eq get, if_pos settled])
      · have next : c.settleRequest k r r.sentCount (.cancelled r.sentCount) =
            { c.setRequest k { r with status := .settled (.cancelled r.sentCount) } with
              queue := c.queue.filter (· ≠ k) } := vacate_of_idle apart
        have still : (c.settleRequest k r r.sentCount (.cancelled r.sentCount)).AtRest := by
          rw [next]
          exact fun free => by simp [rest free]
        have move := Move.cancel get (by simpa using settled)
        have later := ih (move.wellFormed wf) still (by rw [next]; exact idle)
        rw [cancelEach_cons, cancel_eq get, if_neg settled, advance_eq_ask rfl still,
          andThen_eq rfl]
        refine ⟨List.forall_mem_append.mpr ⟨quiet_settlement k r _, later.1⟩, later.2.trans ?_⟩
        rw [next]
        rfl

/-! ## Cancelling every request -/

/-- Nothing is started when nothing waits. -/
lemma cancel_quiet (empty : c.queue = []) (k : Nat) :
    Quiet (c.cancel k).1.effects ∧ (c.cancel k).1.connection.queue = [] := by
  have unchanged : (c.cancel k).1 = stay c →
      Quiet (c.cancel k).1.effects ∧ (c.cancel k).1.connection.queue = [] := by
    intro same
    rw [same]
    exact ⟨List.forall_mem_nil _, empty⟩
  cases get : c.requests[k]? with
  | none => exact unchanged (by rw [cancel_of_none get])
  | some r =>
    by_cases settled : r.isSettled = true
    · exact unchanged (by rw [cancel_eq get, if_pos settled])
    · have still (s : WriteRequest) : ((c.setRequest k s).vacate k).queue = [] := by
        simp [queue_vacate, setRequest, empty]
      rw [cancel_eq get, if_neg settled, advance_eq_ask rfl fun _ => still _]
      exact ⟨quiet_settlement k r _, still _⟩

/-- With an empty queue nothing is started in the place of what is cancelled. -/
lemma cancelEach_quiet (ks : List Nat) (empty : c.queue = []) :
    Quiet (cancelEach ks c).effects ∧ (cancelEach ks c).connection.queue = [] := by
  induction ks generalizing c with
  | nil => exact ⟨List.forall_mem_nil _, empty⟩
  | cons k ks ih =>
    obtain ⟨quiet, empty⟩ := cancel_quiet empty k
    obtain ⟨later, still⟩ := ih empty
    rw [cancelEach_cons, Turn.andThen]
    split
    · exact ⟨quiet, empty⟩
    · exact ⟨List.forall_mem_append.mpr ⟨quiet, later⟩, still⟩

/-- Cancelling every request starts none of them. -/
lemma cancelAll_quiet (c : Connection) : Quiet c.cancelAll.effects := by
  obtain ⟨quiet, empty⟩ := cancelEach_quiet c.queue (c := { c with queue := [] }) rfl
  rw [cancelAll, Turn.andThen]
  split
  · exact quiet
  · exact List.forall_mem_append.mpr ⟨quiet, (cancelEach_quiet _ empty).1⟩

/-- Cancelling every request leaves those that have settled as they are, and ends the others with
the counts that they have. -/
lemma cancelAll_requests (wf : c.WellFormed) :
    c.cancelAll.connection.requests = c.requests.map WriteRequest.cancelled := by
  obtain ⟨_, path, free, empty⟩ := cancelAll_path wf
  apply List.ext_getElem?
  intro k
  rw [List.getElem?_map]
  cases get : c.requests[k]? with
  | none =>
    have beyond := List.getElem?_eq_none_iff.mp get
    rw [← path.length_eq rfl] at beyond
    exact List.getElem?_eq_none beyond
  | some r =>
    obtain ⟨r', get', unheard⟩ := path.unheard rfl get
    obtain ⟨_, there, ahead⟩ := path.ahead get
    obtain rfl := Option.some.inj (get'.symm.trans there)
    have settled' := (path.wellFormed wf).isSettled get' (by simp [free]) (by simp [empty])
    rw [get', Option.map_some, Option.some.injEq]
    by_cases settled : r.isSettled = true
    · rw [ahead.settled settled, WriteRequest.cancelled_of_settled settled]
    · -- it was not settled before, so its status is new
      obtain rfl | status := unheard.cancelled settled'
      · exact absurd settled' settled
      · rw [unheard.eq_status, status, WriteRequest.cancelled, if_neg settled]

/-! ## Sending -/

/-- What a new request becomes when it is sent. With a signal that is aborted it has settled and
hands nothing over. -/
lemma send_new (wf : c.WellFormed) (rest : c.AtRest) {id : Nat} {maxPacketSize : Number}
    {message : Message} {signal : Option String} {aborted : Bool} {turn : Turn}
    (sent : c.send id maxPacketSize message signal aborted = .ok turn)
    (new : c.requests.length ≤ k) (get : turn.connection.requests[k]? = some r) :
    r.signal = signal ∧
      (aborted = true → r.isSettled = true ∧ ∀ i, (k, i) ∉ called turn.effects) := by
  obtain ⟨created, isNew, opened, rfl⟩ := send_eq sent
  obtain ⟨effects, move, same⟩ := enqueue_eq wf rest opened
    (WriteRequest.create_valid isNew) (WriteRequest.create_pending isNew) aborted
  rw [same, andThen_eq rfl] at get ⊢
  have later := (pump_carried (move.wellFormed wf)).path
  have bound := (List.getElem?_eq_some_iff.mp get).1
  have grown :
      (c.withRequest (joining created aborted)).requests.length = c.requests.length + 1 := by
    simp [withRequest]
  obtain rfl : k = c.requests.length := by
    have := later.length_eq rfl
    simp only [ask] at this bound
    omega
  have here : (c.withRequest (joining created aborted)).requests[c.requests.length]? =
      some (joining created aborted) := by simp [withRequest]
  obtain ⟨t, last, ahead⟩ := later.ahead here
  obtain rfl := Option.some.inj (last.symm.trans get)
  refine ⟨?_, fun refused => ?_⟩
  · rw [ahead.signal_eq, signal_joining, WriteRequest.create_signal isNew]
  · have settled := isSettled_joining created refused
    refine ⟨by rwa [ahead.settled settled], fun i => ?_⟩
    rw [called_append, List.mem_append, not_or]
    refine ⟨fun mem => ?_, later.not_mem_called here settled⟩
    obtain ⟨s, there, _⟩ := move.of_mem_called mem
    rw [List.getElem?_eq_none (Nat.le_refl _)] at there
    cases there

end Connection

end PacketLink
