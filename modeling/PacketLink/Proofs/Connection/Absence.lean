import PacketLink.Proofs.Connection.Flight
import PacketLink.Proofs.Connection.Parallel

/-!
# Requests that were never started

A request that is cancelled while it waits might as well not have been sent. The run in which it was
sent, and the run in which it was not while everything else happens in the same way, ask for the
same things in the same order, but for what is about this request. Main statement:
`Run.cancelled_leaves_no_trace`.
-/

namespace PacketLink.Connection

variable {c c' : Connection} {inputs : List Input} {trace effects : List Effect} {k : Nat}
  {r : WriteRequest}

/-! ## Requests that were not started -/

/-- A request that waits, or that was cancelled before anything of it was sent. -/
structure Untouched (r : WriteRequest) : Prop where
  sentCount_eq : r.sentCount = 0
  status : r.status = .pending ∨ r.status = .settled (.cancelled 0)

/-- A request in flight was started. -/
lemma Untouched.not_inFlight (untouched : Untouched r) (flying : r.status = .inFlight) : False := by
  obtain pending | cancelled := untouched.status
  · cases pending.symm.trans flying
  · cases cancelled.symm.trans flying

/-- All requests that were not started are untouched. -/
def Clean (c : Connection) (trace : List Effect) : Prop :=
  ∀ {k : Nat} {r : WriteRequest}, c.requests[k]? = some r → wasStarted trace k = false → Untouched r

/-- A move that starts no request touches none. -/
lemma Move.clean (move : Move c inputs effects c') (clean : c.Clean trace) :
    c'.Clean (trace ++ effects) := by
  intro k r get unstarted
  rw [wasStarted_append, Bool.or_eq_false_iff] at unstarted
  obtain ⟨before, now⟩ := unstarted
  -- of one request that changes, only what it has become is in question
  have changed {j : Nat} {s s' : WriteRequest} (get' : c.requests[j]? = some s)
      (here : (c.setRequest j s').requests[k]? = some r) (same : j = k → Untouched s') :
      Untouched r := by
    rw [getElem?_setRequest get'] at here
    split at here
    · cases here
      exact same (Eq.symm ‹_›)
    · exact clean here before
  cases move with
  | join _ valid pending =>
    obtain get | ⟨_, rfl⟩ := getElem?_concat_cases get
    · exact clean get before
    · exact ⟨valid.pending_sentCount pending, .inl pending⟩
  | refuse _ valid pending =>
    obtain get | ⟨_, rfl⟩ := getElem?_concat_cases get
    · exact clean get before
    · have unsent := valid.pending_sentCount pending
      exact ⟨unsent, .inr (by rw [unsent])⟩
  | launch _ _ get' =>
    refine changed get' get ?_
    rintro rfl
    simp [wasStarted, Effect.starts] at now
  | follow get' flying =>
    refine changed get' get ?_
    rintro rfl
    exact ((clean get' before).not_inFlight flying).elim
  | complete get' flying | fail _ get' flying =>
    rw [settleRequest, requests_vacate] at get
    refine changed get' get ?_
    rintro rfl
    exact ((clean get' before).not_inFlight flying).elim
  | cancel get' unsettled =>
    rw [settleRequest, requests_vacate] at get
    refine changed get' get ?_
    rintro rfl
    have unsent := (clean get' before).sentCount_eq
    exact ⟨unsent, .inr (by rw [unsent])⟩
  | take bytes =>
    rw [connection_receive] at get
    exact clean get before
  | _ => exact clean get before

/-- In every run the requests that were not started are untouched. -/
lemma Path.clean {layout : Layout} {maxPacketCount maxMessageSize : Number}
    (path : Path (new layout maxPacketCount maxMessageSize) inputs trace c) : c.Clean trace := by
  induction path with
  | rest => exact fun get => by cases get
  | step _ move ih => exact move.clean ih

namespace Run

variable {layout : Layout} {maxPacketCount maxMessageSize : Number} {run : Run}

/-- The request in place `k` has been cancelled, and it was never started. -/
structure CancelledPending (run : Run) (k : Nat) : Prop where
  unstarted : wasStarted run.trace k = false
  cancelled : run.connection.requests[k]?.any (·.phase = .cancelled) = true

/-- An operation after which there is one more request has sent a message. -/
lemma exists_sent (sound : Sound layout maxPacketCount maxMessageSize run) {operation : Operation}
    (grown : (run.apply operation).connection.requests.length =
      run.connection.requests.length + 1) :
    ∃ id maxPacketSize message signal turn,
      run.connection.send id maxPacketSize message signal (signal.any run.aborted.contains) =
          .ok turn ∧
        run.apply operation = run.absorb [.send message] turn := by
  have wf := sound.wellFormed
  have rest := sound.atRest
  have silent {inputs : List Input} {turn : Turn}
      (carried : Turn.Carried run.connection inputs turn) (unsent : sends inputs = [])
      (grown : turn.connection.requests.length = run.connection.requests.length + 1) : False := by
    have := carried.path.length_eq unsent
    omega
  cases operation with
  | send id maxPacketSize message signal =>
    simp only [apply] at grown ⊢
    split at grown
    · rename_i turn sent
      exact ⟨id, maxPacketSize, message, signal, turn, sent, rfl⟩
    · omega
  | sendControlMessage id maxPacketSize message signal =>
    simp only [apply] at grown ⊢
    split at grown
    · rename_i turn sent
      obtain ⟨carrier, carries, sent'⟩ := sendControlMessage_eq sent
      exact ⟨id, maxPacketSize, carrier, signal, turn, sent', by rw [carries]; rfl⟩
    · omega
  | cancel k => exact (silent (cancel_carried wf rest k) rfl grown).elim
  | abort signal => exact (silent (cancelEach_carried _ wf rest) rfl grown).elim
  | start =>
    simp only [apply] at grown
    split at grown
    · exact (silent (start_carried rest ‹_›) rfl grown).elim
    · omega
  | close => exact (silent (close_carried wf rest) rfl grown).elim
  | reset => exact (silent (reset_carried wf) rfl grown).elim
  | receive bytes => exact (silent (receive_carried rest bytes) rfl grown).elim
  | conclude k index outcome =>
    simp only [apply] at grown
    split at grown
    · rename_i awaits
      obtain ⟨r, get, due⟩ := sound.path.due awaits.1 awaits.2
      exact (silent (conclude_carried wf rest get due outcome) rfl grown).elim
    · omega

/-- A send leads from a run to one that is the same run without the new request, if that is not
started. -/
lemma mirrors_send (sound : Sound layout maxPacketCount maxMessageSize run)
    (heard : Heard run.connection run.inputs) {id : Nat} {maxPacketSize : Number}
    {message : Message} {signal : Option String} {turn : Turn}
    (sent : run.connection.send id maxPacketSize message signal (signal.any run.aborted.contains) =
      .ok turn)
    (unstarted : Unstarted ⟨run.connection.requests.length, 1⟩ turn.effects) :
    Mirrors ⟨run.connection.requests.length, 1⟩ [] [] (run.absorb [.send message] turn) run := by
  have carried := send_carried sound.wellFormed sound.atRest sent
  obtain ⟨r, created, opened, rfl⟩ := send_eq sent
  obtain ⟨without_eq, apart⟩ := Turn.Mirrors.enqueue_omitted sound.wellFormed sound.atRest r _
    ⟨carried.refused_eq, unstarted⟩
  generalize run.connection.enqueue r _ = turn at *
  have before {k : Nat} (lt : k < run.connection.requests.length) :
      Omitted.place? ⟨run.connection.requests.length, 1⟩ k = some k :=
    Omitted.place?_eq_some.mpr (.inl ⟨lt, rfl⟩)
  have effects : traceWithout ⟨run.connection.requests.length, 1⟩ turn.effects = [] :=
    congrArg Turn.effects without_eq
  have same : traceWithout ⟨run.connection.requests.length, 1⟩ (run.trace ++ turn.effects) =
      run.trace := by
    rw [traceWithout_append, effects, List.append_nil]
    exact traceWithout_eq_self fun effect mem k about => before (sound.path.place?_lt mem about)
  refine ⟨(congrArg Turn.connection without_eq).symm, apart, rfl, ⟨_, rfl, same.symm⟩,
    fun {k j} kept i => ?_, fun {k j} kept i => ?_⟩
  · show (k, i) ∈ called (run.trace ++ turn.effects) ↔ (j, i) ∈ called run.trace
    rw [← mem_called_traceWithout kept, same]
  · -- no answer was for a request that was not there
    have listed {k : Nat} (mem : (k, i) ∈ answers run.inputs) :
        k < run.connection.requests.length := by
      obtain ⟨r, get, _⟩ := heard k i mem
      exact (List.getElem?_eq_some_iff.mp get).1
    have unheard : answers (run.inputs ++ [.send message]) = answers run.inputs := by
      rw [answers, List.filterMap_append]
      exact List.append_nil _
    show (k, i) ∈ answers (run.inputs ++ [.send message]) ↔ (j, i) ∈ answers run.inputs
    rw [unheard]
    obtain ⟨_, rfl⟩ | ⟨behind, rfl⟩ := Omitted.place?_eq_some.mp kept
    · rfl
    · refine iff_of_false (fun mem => ?_) fun mem => ?_
      · have := listed mem
        dsimp only at behind
        omega
      · have := listed mem
        dsimp only at behind
        omega

/-- A request that was cancelled while it waited leaves no trace but its own end: everything else is
as in the run in which it was not sent. The transport is called with the same packets, hence with
the same counters, in the same order; the other requests stand where they would, shifted by one
place; and apart from the one event of the request itself the same events are emitted. -/
theorem cancelled_leaves_no_trace (layout : Layout) (maxPacketCount maxMessageSize : Number)
    (before after : List Operation) (operation : Operation)
    (sent : (of (new layout maxPacketCount maxMessageSize)
        (before ++ [operation])).connection.requests.length =
      (of (new layout maxPacketCount maxMessageSize) before).connection.requests.length + 1)
    (cancelled : (of (new layout maxPacketCount maxMessageSize)
        (before ++ operation :: after)).CancelledPending
      (of (new layout maxPacketCount maxMessageSize) before).connection.requests.length) :
    let place := (of (new layout maxPacketCount maxMessageSize) before).connection.requests.length
    let omitted : Omitted := ⟨place, 1⟩
    let run := of (new layout maxPacketCount maxMessageSize) (before ++ operation :: after)
    let other := of (new layout maxPacketCount maxMessageSize)
      (before ++ after.filterMap (Operation.without omitted))
    other.connection = run.connection.without omitted ∧
      other.connection.requests = run.connection.requests.eraseIdx place ∧
      other.trace = traceWithout omitted run.trace ∧
      (calls other.trace).map (·.packet) = (calls run.trace).map (·.packet) ∧
      events other.trace = (events run.trace).filterMap (Event.without omitted) ∧
      outcomes run.trace place = [.cancelled 0] := by
  intro place omitted run other
  let earlier := of (new layout maxPacketCount maxMessageSize) before
  have sound : Sound layout maxPacketCount maxMessageSize earlier := sound_of before
  have soundRun : Sound layout maxPacketCount maxMessageSize run := sound_of _
  have next : of (new layout maxPacketCount maxMessageSize) (before ++ [operation]) =
      earlier.apply operation := of_append ..
  have run_eq : after.foldl apply (earlier.apply operation) = run :=
    (of_append (new layout maxPacketCount maxMessageSize) before (operation :: after)).symm
  have other_eq : (after.filterMap (Operation.without omitted)).foldl apply earlier = other :=
    (of_append ..).symm
  have sound' := sound.apply operation
  obtain ⟨_, later, _, trace⟩ := sound'.onward after
  rw [next] at sent
  obtain ⟨id, maxPacketSize, message, signal, turn, sent, applied⟩ := exists_sent sound sent
  rw [run_eq] at trace
  rw [applied] at run_eq trace sound'
  -- the only omitted request was not started in the whole run
  have unstarted : Unstarted omitted run.trace := by
    intro k left
    have := Omitted.place?_eq_none.mp left
    rw [show k = place by dsimp only [omitted] at this; omega]
    exact cancelled.unstarted
  have unstarted' := unstarted
  rw [trace, absorb, unstarted_append, unstarted_append] at unstarted'
  have spares : Spares omitted [] (after.foldl apply (earlier.absorb [.send message] turn)) := by
    intro all same
    rw [run_eq, List.nil_append] at same
    exact same ▸ unstarted
  have mirrors := (mirrors_send sound (heard_of before) sent unstarted'.1.2).foldl sound' after
    spares
  rw [run_eq, other_eq] at mirrors
  have other_trace : other.trace = traceWithout omitted run.trace := by
    obtain ⟨all, trace_eq, trace_eq'⟩ := mirrors.trace_eq
    rw [trace_eq', trace_eq, List.nil_append, List.nil_append]
  refine ⟨mirrors.connection_eq, ?_, other_trace, ?_, ?_, ?_⟩
  · rw [mirrors.connection_eq]
    exact (List.eraseIdx_eq_take_drop_succ ..).symm
  · rw [other_trace]
    refine map_packet_calls fun k i left mem => ?_
    obtain ⟨start, shape⟩ := soundRun.path.shape
    obtain ⟨r, get, lt⟩ := shape.of_mem_called mem
    rw [shape.handedOver_eq_zero get (unstarted k left)] at lt
    exact Nat.not_lt_zero i lt
  · rw [other_trace, events_traceWithout]
  · obtain ⟨r, get, phase⟩ := (Option.any_eq_true ..).mp cancelled.cancelled
    obtain pending | settled := (soundRun.path.clean get cancelled.unstarted).status
    · rw [r.phase_eq pending] at phase
      simp [WriteStatus.phase] at phase
    · exact soundRun.path.outcomes_eq get settled

/-- A message is in flight. -/
def flying : List Operation := [.send 1 3 ⟨.data, [1]⟩ none]

/-- What happens after a second message was sent: it is cancelled, and a third one follows. -/
def overtaken : List Operation :=
  [.cancel 1, .conclude 0 0 .accepted, .send 3 3 ⟨.data, [3]⟩ none]

/-- A request that is cancelled while it is queued is nowhere to be seen in the packets. -/
theorem cancelled_leaves_no_trace_queued :
    let run := of (new .default 4096 1048576)
      (flying ++ .send 2 3 ⟨.data, [2]⟩ none :: overtaken)
    let other := of (new .default 4096 1048576)
      (flying ++ [.conclude 0 0 .accepted, .send 3 3 ⟨.data, [3]⟩ none])
    run.CancelledPending 1 ∧ other.trace = traceWithout ⟨1, 1⟩ run.trace ∧
      called run.trace = [(0, 0), (2, 0)] ∧ called other.trace = [(0, 0), (1, 0)] := by
  intro run other
  have cancelled : run.CancelledPending 1 := ⟨by decide +kernel, by decide +kernel⟩
  have one : (of (new .default 4096 1048576) flying).connection.requests.length = 1 := by
    decide +kernel
  have same := cancelled_leaves_no_trace .default 4096 1048576 flying overtaken
    (.send 2 3 ⟨.data, [2]⟩ none) (by decide +kernel) (by rw [one]; exact cancelled)
  rw [one] at same
  exact ⟨cancelled, same.2.2.1, by decide +kernel, by decide +kernel⟩

end Run

end PacketLink.Connection
