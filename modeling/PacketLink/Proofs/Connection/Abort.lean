import PacketLink.Proofs.Connection.Run

/-!
# What an abort leaves behind

An abort cancels the requests that were created with its signal one after the other. When the one in
flight is among them, the next request is started before its own turn to be cancelled has come, so a
pending request may hand over its first packet during the abort (`Run.abort_starts`). After the
abort nothing of these requests is handed over, and nothing of one that is created with the signal
later. Main statement: `Run.abort_silences`.
-/

namespace PacketLink.Connection.Run

variable {layout : Layout} {maxPacketCount maxMessageSize : Number} {run run' start : Run}
  {signal : String} {k i : Nat} {r : WriteRequest}

/-- The requests of a signal are those that were created with it. -/
lemma mem_signalled : k ∈ run.signalled signal ↔
    ∃ r, run.connection.requests[k]? = some r ∧ r.signal = some signal := by
  simp only [signalled, List.mem_filter, List.mem_range, Option.any_eq_true, decide_eq_true_eq]
  exact ⟨fun ⟨_, signalled⟩ => signalled, fun ⟨r, get, same⟩ =>
    ⟨(List.getElem?_eq_some_iff.mp get).1, r, get, same⟩⟩

/-- Since `start` nothing was handed over for the requests of an aborted signal, all of which have
settled. -/
structure Silenced (signal : String) (start run : Run) (inputs : List Input)
    (later : List Effect) : Prop where
  mem_aborted : signal ∈ run.aborted
  trace_eq : run.trace = start.trace ++ later
  path : Path start.connection inputs later run.connection
  silent : ∀ {k : Nat} {r : WriteRequest}, run.connection.requests[k]? = some r →
    r.signal = some signal → r.isSettled = true ∧ ∀ i, (k, i) ∉ called later

/-- What is silenced stays so whatever happens next. -/
lemma Silenced.advances {inputs input : List Input} {later : List Effect} {turn : Turn}
    (silenced : Silenced signal start run inputs later)
    (sound : Sound layout maxPacketCount maxMessageSize run)
    (advances : run.Advances run' input turn) :
    Silenced signal start run' (inputs ++ input) (later ++ turn.effects) := by
  refine ⟨advances.aborted_subset silenced.mem_aborted, ?_, ?_, fun {k r} get same => ?_⟩
  · rw [advances.trace_eq, silenced.trace_eq, List.append_assoc]
  · rw [advances.connection_eq]
    exact silenced.path.trans advances.carried.path
  · rw [advances.connection_eq] at get
    simp only [called_append, List.mem_append, not_or]
    by_cases old : k < run.connection.requests.length
    · -- a request that has settled stays so and hands nothing over
      obtain ⟨s, here, ahead⟩ := advances.carried.path.exists_ahead old get
      obtain ⟨settled, none⟩ := silenced.silent here (ahead.signal_eq.symm.trans same)
      have still := ahead.settled settled
      exact ⟨still ▸ settled, fun i =>
        ⟨none i, advances.carried.path.not_mem_called here settled⟩⟩
    · have new := Nat.le_of_not_lt old
      obtain ⟨settled, none⟩ := advances.refused new get same silenced.mem_aborted
      -- and nothing was handed over before for a request that was not there
      obtain ⟨first, shape⟩ := sound.path.shape
      refine ⟨settled, fun i => ⟨fun mem => ?_, none i⟩⟩
      have handed : (k, i) ∈ called run.trace := by
        rw [silenced.trace_eq, called_append]
        exact List.mem_append_right _ mem
      obtain ⟨s, there, _⟩ := shape.of_mem_called handed
      exact old (List.getElem?_eq_some_iff.mp there).1

/-- What is silenced stays so through all later operations. -/
lemma Silenced.foldl {inputs : List Input} {later : List Effect}
    (silenced : Silenced signal start run inputs later)
    (sound : Sound layout maxPacketCount maxMessageSize run) (operations : List Operation) :
    ∃ inputs' later', Silenced signal start (operations.foldl apply run) inputs' later' := by
  induction operations generalizing run inputs later with
  | nil => exact ⟨inputs, later, silenced⟩
  | cons operation operations ih =>
    obtain ⟨input, turn, advances⟩ := sound.advances operation
    exact ih (silenced.advances sound advances) (sound.apply operation)

/-- The abort itself: the requests of the signal have settled after it. -/
lemma Sound.silenced_abort (sound : Sound layout maxPacketCount maxMessageSize run)
    (signal : String) :
    Silenced signal (run.apply (.abort signal)) (run.apply (.abort signal)) [] [] := by
  refine ⟨List.mem_cons_self, (List.append_nil _).symm, .rest _, fun {k r} get same =>
    ⟨?_, fun i mem => by cases mem⟩⟩
  have abort := (cancelEach_carried (run.signalled signal) sound.wellFormed sound.atRest).path
  obtain ⟨s, here, ahead⟩ := abort.exists_ahead_of_unsent rfl get
  exact cancelEach_settled sound.wellFormed sound.atRest
    (mem_signalled.mpr ⟨s, here, ahead.signal_eq.symm.trans same⟩) get

/-- Once a signal has been aborted, nothing of a request with the signal is handed over, and every
one that had not settled stays cancelled with the count that it had. The abort hands over nothing
but first packets of pending requests, and nothing at all, with no counter drawn, when no request
with the signal is in flight. -/
theorem abort_silences (layout : Layout) (maxPacketCount maxMessageSize : Number)
    (before after : List Operation) (signal : String) :
    let earlier := of (new layout maxPacketCount maxMessageSize) before
    let aborted := earlier.apply (.abort signal)
    let run := of (new layout maxPacketCount maxMessageSize) (before ++ .abort signal :: after)
    ∃ during later, aborted.trace = earlier.trace ++ during ∧ run.trace = aborted.trace ++ later ∧
      (∀ (k : Nat) (r : WriteRequest), run.connection.requests[k]? = some r →
        r.signal = some signal → r.isSettled = true ∧ ∀ i, (k, i) ∉ called later) ∧
      (∀ (k : Nat) (r : WriteRequest), earlier.connection.requests[k]? = some r →
        r.signal = some signal → r.isSettled = false → run.connection.requests[k]? =
          some { r with status := .settled (.cancelled r.sentCount) }) ∧
      (∀ k i, (k, i) ∈ called during → i = 0 ∧
        ∃ r, earlier.connection.requests[k]? = some r ∧ r.status = .pending) ∧
      ((∀ (k : Nat) (r : WriteRequest), earlier.connection.requests[k]? = some r →
          r.signal = some signal → r.status ≠ .inFlight) →
        called during = [] ∧ aborted.connection.counter = earlier.connection.counter) := by
  intro earlier aborted run
  have sound : Sound layout maxPacketCount maxMessageSize earlier := sound_of before
  have wf := sound.wellFormed
  have abort := (cancelEach_carried (earlier.signalled signal) wf sound.atRest).path
  obtain ⟨inputs, later, silenced⟩ :=
    (sound.silenced_abort signal).foldl (sound.apply (.abort signal)) after
  have last : after.foldl apply aborted = run :=
    (of_append (new layout maxPacketCount maxMessageSize) before (.abort signal :: after)).symm
  rw [last] at silenced
  refine ⟨_, later, rfl, silenced.trace_eq, fun k r get same => silenced.silent get same,
    fun k r get same unsettled => ?_, fun k i mem => abort.of_mem_called rfl mem, fun idle => ?_⟩
  · obtain ⟨s, cancelled, unheard⟩ := abort.unheard rfl get
    have settled := cancelEach_settled wf sound.atRest (mem_signalled.mpr ⟨r, get, same⟩) cancelled
    obtain rfl | status := unheard.cancelled settled
    · cases unsettled.symm.trans settled
    · obtain ⟨t, there, ahead⟩ := silenced.path.ahead cancelled
      rw [there, ahead.settled settled, unheard.eq_status, status]
  · have slot : ∀ k ∈ earlier.signalled signal, earlier.connection.active ≠ some k := by
      intro k mem active
      obtain ⟨r, get, same⟩ := mem_signalled.mp mem
      obtain ⟨s, get', flying⟩ := wf.inFlight_of_active active
      obtain rfl := Option.some.inj (get.symm.trans get')
      exact idle k r get same flying
    obtain ⟨quiet, counter⟩ := cancelEach_idle wf sound.atRest slot
    exact ⟨quiet.called_eq, counter⟩

/-- Two messages with one signal, the second one waiting behind the first. -/
def sharing : List Operation :=
  [.send 1 3 ⟨.data, [1]⟩ (some "stop"), .send 2 3 ⟨.data, [2]⟩ (some "stop")]

/-- An abort may start a request that it cancels: the second request was pending, and its packet is
handed over and a counter drawn for it before it is cancelled. -/
theorem abort_starts :
    let earlier := of (new .default 4096 1048576) sharing
    let aborted := of (new .default 4096 1048576) (sharing ++ [.abort "stop"])
    earlier.connection.requests.map (fun r => (r.signal, r.phase)) =
        [(some "stop", .inFlight), (some "stop", .pending)] ∧
      called earlier.trace = [(0, 0)] ∧ earlier.connection.counter.value = 1 ∧
      aborted.connection.requests.map (fun r => (r.phase, r.sentCount)) =
        [(.cancelled, 0), (.cancelled, 0)] ∧
      called aborted.trace = [(0, 0), (1, 0)] ∧ aborted.connection.counter.value = 2 := by
  decide +kernel

end PacketLink.Connection.Run
