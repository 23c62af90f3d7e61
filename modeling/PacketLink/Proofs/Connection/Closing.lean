import Mathlib.Data.List.Induction
import PacketLink.Proofs.Connection.Inbound
import PacketLink.Proofs.Connection.Settlement

/-!
# What closing leaves behind

`Shut` is what a connection is once it has been closed: it takes no packets, and nothing waits or is
in flight. No move leads out of it, hands a packet over or changes a request (`Path.shut`), and a
connection that is closed has been left so by its first closing (`Run.shut_of_closed`).
`subscriptions` counts the handlers that a connection has registered with its transport and not
removed: one while it listens, and none otherwise. Main statement: `Run.close_final`. A second
closing does nothing at all, so it leaves what has arrived since the first (`Run.close_keeps`).
-/

namespace PacketLink.Connection

/-- The number of registered handlers after an effect, when there were `n` before. -/
def Effect.handlers (n : Nat) : Effect → Nat
  | .subscribe => n + 1
  | .unsubscribe => n - 1
  | _ => n

/-- The number of handlers that are registered with the transport. -/
def subscriptions (trace : List Effect) : Nat := trace.foldl Effect.handlers 0

/-- A connection that has closed. -/
structure Shut (c : Connection) : Prop where
  closed : c.closed = true
  deaf : c.listening = false
  free : c.active = none
  empty : c.queue = []

variable {c c' : Connection} {inputs : List Input} {trace effects : List Effect} {k : Nat}
  {r : WriteRequest}

/-! ## Handlers -/

/-- Effects that concern no handler. -/
lemma handlers_eq (apart : ∀ effect ∈ effects, ∀ n, effect.handlers n = n) (n : Nat) :
    effects.foldl Effect.handlers n = n := by
  induction effects with
  | nil => rfl
  | cons effect effects ih =>
    obtain ⟨first, rest⟩ := List.forall_mem_cons.mp apart
    rw [List.foldl_cons, first]
    exact ih rest

/-- The settlement of a request registers no handler and removes none. -/
lemma handlers_settlement (k : Nat) (r : WriteRequest) (result : WriteResult) :
    ∀ effect ∈ settlement k r result, ∀ n, effect.handlers n = n := by
  simp [settlement, WriteRequest.settle, relay, Effect.handlers]

/-- Packets register no handler and remove none. -/
lemma handlers_receive (c : Connection) (bytes : Bytes) :
    ∀ effect ∈ (c.receive bytes).1.effects, ∀ n, effect.handlers n = n := by
  intro effect mem n
  have reports := report_receive c bytes effect mem
  cases effect with
  | subscribe => cases reports
  | unsubscribe => cases reports
  | _ => rfl

/-- A connection listens or not, whatever is in its slot. -/
lemma listening_vacate (c : Connection) (k : Nat) : (c.vacate k).listening = c.listening := by
  unfold vacate
  split <;> rfl

/-- The number of handlers of a connection that listens or not. -/
def handlerCount (c : Connection) : Nat := if c.listening then 1 else 0

/-- A connection has as many handlers registered as it should, one if it listens. -/
lemma Move.handlers (move : Move c inputs effects c') :
    effects.foldl Effect.handlers c.handlerCount = c'.handlerCount := by
  cases move with
  | complete | cancel =>
    rw [handlers_eq (handlers_settlement _ _ _), handlerCount, handlerCount, settleRequest,
      listening_vacate, setRequest]
  | fail =>
    show List.foldl Effect.handlers c.handlerCount (settlement _ _ _) = _
    rw [handlers_eq (handlers_settlement _ _ _), handlerCount, handlerCount, settleRequest,
      listening_vacate, setRequest]
  | refuse =>
    rw [handlers_eq (handlers_settlement _ _ _), handlerCount, handlerCount]
  | take bytes =>
    rw [handlers_eq (handlers_receive c bytes), connection_receive, handlerCount, handlerCount]
  | listen opened deaf => simp [handlerCount, deaf, Effect.handlers]
  | retire =>
    simp only [handlerCount]
    split <;> rfl
  | _ => rfl

/-- A connection has one handler while it listens, and none otherwise. -/
lemma Path.subscriptions_eq {layout : Layout} {maxPacketCount maxMessageSize : Number}
    (path : Path (new layout maxPacketCount maxMessageSize) inputs trace c) :
    subscriptions trace = c.handlerCount := by
  induction path with
  | rest => rfl
  | step _ move ih =>
    rw [subscriptions] at ih
    rw [subscriptions, List.foldl_append, ih, move.handlers]

/-! ## Moves of a closed connection -/

namespace Shut

/-- All requests of a closed connection have settled. -/
lemma isSettled (shut : c.Shut) (wf : c.WellFormed) (get : c.requests[k]? = some r) :
    r.isSettled = true :=
  wf.isSettled get (by simp [shut.free]) (by simp [shut.empty])

/-- On a closed connection nothing is in flight. -/
lemma not_inFlight (shut : c.Shut) (wf : c.WellFormed) (get : c.requests[k]? = some r)
    (flying : r.status = .inFlight) : False := by
  have active := wf.active_of_inFlight get flying
  rw [shut.free] at active
  cases active

end Shut

/-- A closed connection only takes packets, drops them, and takes note of late outcomes. -/
lemma Move.shut (move : Move c inputs effects c') (wf : c.WellFormed) (shut : c.Shut) :
    c'.Shut ∧ c'.requests = c.requests ∧ called effects = [] := by
  have isSettled {k : Nat} {r : WriteRequest} := shut.isSettled (k := k) (r := r) wf
  have not_inFlight {k : Nat} {r : WriteRequest} := shut.not_inFlight (k := k) (r := r) wf
  obtain ⟨closed, deaf, free, empty⟩ := shut
  cases move with
  | join opened | refuse opened | listen opened | retire opened => cases opened.symm.trans closed
  | skip head | launch _ head => cases head.symm.trans empty
  | follow get flying | complete get flying | fail _ get flying | strand _ get flying =>
    exact (not_inFlight get flying).elim
  | cancel get unsettled => cases unsettled.symm.trans (isSettled get)
  | take bytes =>
    rw [connection_receive]
    exact ⟨⟨closed, deaf, free, empty⟩, rfl, (quiet_receive c bytes).called_eq⟩
  | restart | drain | note => exact ⟨⟨closed, deaf, free, empty⟩, rfl, rfl⟩

/-- No move leads out of a closed connection. -/
lemma Path.shut (path : Path c inputs effects c') (wf : c.WellFormed) (shut : c.Shut) :
    c'.Shut ∧ c'.requests = c.requests ∧ called effects = [] := by
  induction path with
  | rest => exact ⟨shut, rfl, rfl⟩
  | step path move ih =>
    obtain ⟨shut', requests, silent⟩ := ih
    obtain ⟨shut'', requests', silent'⟩ := move.shut (path.wellFormed wf) shut'
    refine ⟨shut'', requests'.trans requests, ?_⟩
    rw [called_append, silent, silent', List.append_nil]

/-- What the first closing of a connection does. -/
lemma close_shut (wf : c.WellFormed) (opened : c.closed = false) :
    c.close.connection.Shut ∧ c.close.connection.requests = c.requests.map .cancelled ∧
      called c.close.effects = [] := by
  let retired : Connection := { c with closed := true, listening := false }
  have wf' : retired.WellFormed := (Move.retire opened).wellFormed wf
  obtain ⟨done, path, free, empty⟩ := cancelAll_path wf'
  have keeps : retired.cancelAll.connection.frame = retired.frame := Turn.Keeps.cancelAll retired
  rw [close, if_neg (by simp [opened]), andThen_eq rfl]
  dsimp only [ask]
  rw [andThen_eq done]
  refine ⟨⟨?_, ?_, free, empty⟩, cancelAll_requests wf', ?_⟩
  · exact (congrArg Connection.closed keeps :)
  · exact (congrArg Connection.listening keeps :)
  · have first : called (if c.listening then [.unsubscribe] else []) = [] := by split <;> rfl
    rw [called_append, called_append, first, (cancelAll_quiet _).called_eq]
    rfl

/-- A second closing does nothing. -/
lemma close_of_closed (closed : c.closed = true) : c.close = stay c := if_pos closed

namespace Run

variable {layout : Layout} {maxPacketCount maxMessageSize : Number} {run : Run}

/-- A packet arrives at the transport, which hands it to every handler that is registered. -/
def deliver (run : Run) (bytes : Bytes) : Run :=
  (List.replicate (subscriptions run.trace) (.receive bytes)).foldl apply run

/-- Nothing but a closing closes a connection. -/
lemma opened_apply (sound : Sound layout maxPacketCount maxMessageSize run)
    (opened : run.connection.closed = false) {operation : Operation}
    (other : operation ≠ .close) : (run.apply operation).connection.closed = false := by
  have keeps {turn : Turn} (keeps : turn.Keeps run.connection) (inputs : List Input) :
      (run.absorb inputs turn).connection.closed = false :=
    ((congrArg Connection.closed keeps :) : turn.connection.closed = _).trans opened
  cases operation with
  | send id maxPacketSize message signal =>
    simp only [apply]
    split
    · exact keeps (.send ‹_›) _
    · exact opened
  | sendControlMessage id maxPacketSize message signal =>
    simp only [apply]
    split
    · obtain ⟨_, _, sent⟩ := sendControlMessage_eq ‹_›
      exact keeps (.send sent) _
    · exact opened
  | cancel k => exact keeps (.cancel ..) _
  | abort signal => exact keeps (.cancelEach (run.signalled signal) run.connection) []
  | start =>
    simp only [apply]
    split
    · rename_i turn started
      unfold Connection.start at started
      split at started
      · cases started
      · split at started <;> cases started <;> exact opened
    · exact opened
  | close => exact absurd rfl other
  | reset =>
    obtain ⟨done, _⟩ := cancelAll_path sound.wellFormed
    have same := keeps (.cancelAll run.connection) []
    simp only [apply, reset, andThen_eq done]
    exact same
  | receive bytes =>
    simp only [apply, absorb]
    rw [connection_receive]
    exact opened
  | conclude k index outcome =>
    simp only [apply]
    split
    · exact keeps (.conclude ..) _
    · exact opened

/-- A connection that is closed has nothing left to do. -/
lemma shut_of_closed (operations : List Operation) :
    let run := of (new layout maxPacketCount maxMessageSize) operations
    run.connection.closed = true → run.connection.Shut := by
  induction operations using List.reverseRec with
  | nil => exact fun closed => by cases closed
  | append_singleton operations operation ih =>
    intro run closed
    let earlier := of (new layout maxPacketCount maxMessageSize) operations
    have sound : Sound layout maxPacketCount maxMessageSize earlier := sound_of operations
    have last : run = earlier.apply operation := of_append ..
    rw [last] at closed ⊢
    cases before : earlier.connection.closed with
    | true =>
      -- it was closed before, and has only gone on along a path
      obtain ⟨_, _, advances⟩ := sound.advances operation
      rw [advances.connection_eq]
      exact (advances.carried.path.shut sound.wellFormed (ih before)).1
    | false =>
      by_cases closes : operation = .close
      · rw [closes]
        exact (close_shut sound.wellFormed before).1
      · cases (opened_apply sound before closes).symm.trans closed

/-- What closing does, the first time and again. -/
lemma shut_close (operations : List Operation) :
    let run := of (new layout maxPacketCount maxMessageSize) operations
    let closed := run.apply .close
    closed.connection.Shut ∧
      closed.connection.requests = run.connection.requests.map .cancelled ∧
      ∃ during, closed.trace = run.trace ++ during ∧ called during = [] := by
  intro run closed
  have sound : Sound layout maxPacketCount maxMessageSize run := sound_of operations
  cases before : run.connection.closed with
  | true =>
    have shut : run.connection.Shut := shut_of_closed operations before
    have same : closed = run := by
      show run.absorb [] run.connection.close = run
      rw [close_of_closed before, absorb_stay]
    have settled : run.connection.requests.map .cancelled = run.connection.requests.map id :=
      List.map_congr_left fun r mem => by
        obtain ⟨k, get⟩ := List.mem_iff_getElem?.mp mem
        exact WriteRequest.cancelled_of_settled (shut.isSettled sound.wellFormed get)
    rw [List.map_id] at settled
    rw [same]
    exact ⟨shut, settled.symm, [], (List.append_nil _).symm, rfl⟩
  | false =>
    obtain ⟨shut, requests, silent⟩ := close_shut sound.wellFormed before
    exact ⟨shut, requests, _, rfl, silent⟩

/-- Closing settles every request for good, those that had not settled as cancelled with the counts
that they had, and each of them is announced once over the whole run. No packet is handed to the
transport any more; to send or to start is refused and changes nothing; and no handler is left at
the transport, so that what arrives there goes nowhere. What had arrived in part is dropped, unless
the connection was closed already. -/
theorem close_final (layout : Layout) (maxPacketCount maxMessageSize : Number)
    (before after : List Operation) :
    let earlier := of (new layout maxPacketCount maxMessageSize) before
    let closed := earlier.apply .close
    let run := of (new layout maxPacketCount maxMessageSize) (before ++ .close :: after)
    (closed.connection.requests = earlier.connection.requests.map .cancelled ∧
        run.connection.requests = closed.connection.requests ∧
        ∀ (k : Nat) (r : WriteRequest), closed.connection.requests[k]? = some r →
          ∃ result, r.status = .settled result ∧ outcomes closed.trace k = [result] ∧
            outcomes run.trace k = [result]) ∧
      (∃ later, run.trace = earlier.trace ++ later ∧ called later = []) ∧
      (∀ id maxPacketSize message signal aborted,
        run.connection.send id maxPacketSize message signal aborted = .error .closed) ∧
      run.connection.start = .error .startClosed ∧
      (∀ id maxPacketSize message signal,
        run.apply (.send id maxPacketSize message signal) = run) ∧
      run.apply .start = run ∧
      (subscriptions run.trace = 0 ∧ ∀ bytes, run.deliver bytes = run) ∧
      (earlier.connection.closed = false →
        ∀ kind, (closed.connection.inbound kind).progress = none) := by
  intro earlier closed run
  have sound : Sound layout maxPacketCount maxMessageSize earlier := sound_of before
  have soundClosed : Sound layout maxPacketCount maxMessageSize closed := sound.apply .close
  have last : after.foldl apply closed = run :=
    (of_append (new layout maxPacketCount maxMessageSize) before (.close :: after)).symm
  have soundRun : Sound layout maxPacketCount maxMessageSize run := sound_of _
  obtain ⟨shutClosed, requests, during, trace, silent⟩ :=
    @shut_close layout maxPacketCount maxMessageSize before
  obtain ⟨inputs, later, path, trace'⟩ := soundClosed.onward after
  rw [last] at path trace'
  obtain ⟨shut, kept, silent'⟩ := path.shut soundClosed.wellFormed shutClosed
  have none : subscriptions run.trace = 0 := by
    rw [soundRun.path.subscriptions_eq, handlerCount, shut.deaf]
    rfl
  have refused (id : Nat) (maxPacketSize : Number) (message : Message) (signal : Option String)
      (aborted : Bool) :
      run.connection.send id maxPacketSize message signal aborted = .error .closed :=
    if_pos shut.closed
  have startRefused : run.connection.start = .error .startClosed := if_pos shut.closed
  refine ⟨⟨requests, kept, fun k r get => ?_⟩, ⟨during ++ later, ?_, ?_⟩, refused, startRefused,
    fun id maxPacketSize message signal => ?_, ?_, ⟨none, fun bytes => ?_⟩, fun opened kind => ?_⟩
  · obtain ⟨result, settled⟩ :=
      WriteRequest.exists_result (shutClosed.isSettled soundClosed.wellFormed get)
    rw [WriteRequest.result?_eq_some] at settled
    exact ⟨result, settled, soundClosed.path.outcomes_eq get settled,
      soundRun.path.outcomes_eq (kept ▸ get) settled⟩
  · rw [trace', trace, List.append_assoc]
  · rw [called_append, silent, silent', List.append_nil]
  · simp only [apply, refused]
  · simp only [apply, startRefused]
  · rw [deliver, none]
    rfl
  · rw [show closed.connection = earlier.connection.close.connection from rfl,
      inbound_close sound.wellFormed opened kind]
    rfl

/-- The first packet of two arrives at a connection that has closed. -/
def closedEarly : List Operation := [.close, .receive [64, 1]]

/-- What has arrived in part since the first closing survives the second one, and the next packet
completes it. -/
theorem close_keeps :
    let closed := (of (new .default 4096 1048576) closedEarly).apply .close
    (¬∀ kind, (closed.connection.inbound kind).progress = none) ∧
      (closed.connection.receive [36, 2]).2.data? = some [1, 2] := by
  intro closed
  have held : (closed.connection.inbound .data).progress.isSome = true := by decide +kernel
  refine ⟨fun dropped => ?_, by decide +kernel⟩
  rw [dropped .data] at held
  cases held

end Run

end PacketLink.Connection
