import PacketLink.Proofs.Connection.Operations

/-!
# Connections that anybody could come to have

`Reachable` takes every operation in any order, over a transport that answers whenever and whatever
it likes, and lets requests be started by hand. Then requests in flight stand outside the slot, and
an operation may break off. What is left of good order is `Tended`: the slot and the queue hold
places of requests, and nothing waits while the slot is free. Main statement:
`Tended.sendContent_done`, by which what is sent on such a connection joins the queue and nothing
breaks off.
-/

namespace PacketLink.Connection

/-- A connection after any operations, also those that broke off. A request that somebody starts by
hand draws from a counter of his own and hears outcomes from him. -/
inductive Reachable : Connection → Prop
  | new (layout : Layout) (maxPacketCount maxMessageSize : Number) :
    Reachable (new layout maxPacketCount maxMessageSize)
  | send {c : Connection} {id : Nat} {maxPacketSize : Number} {content : Message ⊕ ControlMessage}
    {signal : Option String} {aborted : Bool} {turn : Turn} (reachable : Reachable c)
    (sent : c.sendContent id maxPacketSize content signal aborted = .ok turn) :
    Reachable turn.connection
  | cancel {c : Connection} (reachable : Reachable c) (k : Nat) :
    Reachable (c.cancel k).1.connection
  | conclude {c : Connection} (reachable : Reachable c) (k index : Nat) (outcome : Outcome) :
    Reachable (c.conclude k index outcome).connection
  | receive {c : Connection} (reachable : Reachable c) (bytes : Bytes) :
    Reachable (c.receive bytes).1.connection
  | start {c : Connection} {turn : Turn} (reachable : Reachable c) (started : c.start = .ok turn) :
    Reachable turn.connection
  | close {c : Connection} (reachable : Reachable c) : Reachable c.close.connection
  | reset {c : Connection} (reachable : Reachable c) : Reachable c.reset.connection
  | startByHand {c : Connection} {k : Nat} {r : WriteRequest} {counter : Counter}
    {turn : WriteRequest.Turn} (reachable : Reachable c) (get : c.requests[k]? = some r)
    (started : r.start counter = .ok turn) : Reachable (c.setRequest k turn.request)
  | concludeByHand {c : Connection} {k : Nat} {r : WriteRequest} (reachable : Reachable c)
    (get : c.requests[k]? = some r) (counter : Counter) (index : Nat) (outcome : Outcome) :
    Reachable (c.setRequest k (r.conclude counter index outcome).request)
  | noteByHand {c : Connection} (reachable : Reachable c) (k : Nat) (result : WriteResult) :
    Reachable (c.noteSettled k result).connection

/-- The slot and the queue hold places of requests. -/
structure Placed (c : Connection) : Prop where
  active_lt : ∀ {k : Nat}, c.active = some k → k < c.requests.length
  queue_lt : ∀ {k : Nat}, k ∈ c.queue → k < c.requests.length

/-- What holds of a connection between any two operations. -/
structure Tended (c : Connection) : Prop extends Placed c where
  atRest : c.AtRest

variable {c c' : Connection} {k : Nat} {r : WriteRequest}

/-! ## Places -/

namespace Placed

/-- Places stay places while there are as many requests or more. -/
lemma of_le (placed : c.Placed) (more : c.requests.length ≤ c'.requests.length)
    (active : ∀ {k : Nat}, c'.active = some k → c.active = some k) (queue : c'.queue ⊆ c.queue) :
    c'.Placed :=
  ⟨fun taken => Nat.lt_of_lt_of_le (placed.active_lt (active taken)) more,
    fun mem => Nat.lt_of_lt_of_le (placed.queue_lt (queue mem)) more⟩

/-- What a request does moves nothing in the slot and the queue. -/
lemma update (placed : c.Placed) (k : Nat) (turn : WriteRequest.Turn) :
    (update c k turn).connection.Placed :=
  placed.of_le (by simp [Connection.update, setRequest]) (fun active => active)
    (List.Subset.refl _)

/-- A request that leaves the slot or the queue leaves the others where they are. -/
lemma vacate (placed : c.Placed) (k : Nat) : (c.vacate k).Placed := by
  refine placed.of_le (by rw [requests_vacate]) (fun active => ?_) fun j mem => ?_
  · rw [active_vacate] at active
    split at active
    · cases active
    · exact active
  · rw [queue_vacate] at mem
    split at mem
    · exact mem
    · exact List.mem_of_mem_filter mem

/-- A new request is placed behind the others. -/
lemma withRequest (placed : c.Placed) (r : WriteRequest) : (c.withRequest r).Placed := by
  have more : (c.withRequest r).requests.length = c.requests.length + 1 := List.length_append
  refine ⟨fun active => ?_, fun mem => ?_⟩
  · rw [more]
    exact Nat.lt_succ_of_lt (placed.active_lt active)
  · rw [more]
    obtain old | here := List.mem_append.mp mem
    · exact Nat.lt_succ_of_lt (placed.queue_lt old)
    · rw [List.mem_singleton.mp here]
      exact Nat.lt_succ_self _

end Placed

/-! ## Operations -/

/-- Whatever is sent, a new request goes behind the queue. -/
lemma sendContent_eq_enqueue {id : Nat} {maxPacketSize : Number}
    {content : Message ⊕ ControlMessage} {signal : Option String} {aborted : Bool} {turn : Turn}
    (sent : c.sendContent id maxPacketSize content signal aborted = .ok turn) :
    ∃ r, r.status = .pending ∧ turn = c.enqueue r aborted := by
  obtain ⟨message, _, sent⟩ := sendContent_ok sent
  obtain ⟨r, created, _, enqueued⟩ := send_eq sent
  exact ⟨r, WriteRequest.create_pending created, enqueued⟩

namespace Tended

/-- It depends on the slot, the queue and the number of requests. -/
lemma congr (tended : c.Tended) (requests : c'.requests.length = c.requests.length)
    (active : c'.active = c.active) (queue : c'.queue = c.queue) : c'.Tended := by
  refine ⟨⟨?_, ?_⟩, ?_⟩
  · rw [active, requests]
    exact tended.active_lt
  · rw [queue, requests]
    exact tended.queue_lt
  · show c'.active = none → c'.queue = []
    rw [active, queue]
    exact tended.atRest

/-- A request may become any other one. -/
lemma setRequest (tended : c.Tended) (k : Nat) (r : WriteRequest) : (c.setRequest k r).Tended :=
  tended.congr (by simp [Connection.setRequest]) rfl rfl

/-- What a request does leaves the connection tended. -/
lemma update (tended : c.Tended) (k : Nat) (turn : WriteRequest.Turn) :
    (update c k turn).connection.Tended :=
  (tended.setRequest k turn.request).congr rfl rfl rfl

/-- Two turns leave the connection tended if each of them does. -/
lemma andThen {turn : Turn} {next : Connection → Turn} (tended : turn.connection.Tended)
    (then_tended : ∀ {c : Connection}, c.Tended → (next c).connection.Tended) :
    (turn.andThen next).connection.Tended := by
  unfold Turn.andThen
  split
  · exact tended
  · exact then_tended tended

/-- Whoever waits first takes the slot when it is free, also when it cannot be started. -/
lemma startFrom (queue : List Nat) (placed : Placed { c with queue }) :
    (startFrom queue c).connection.Tended := by
  induction queue generalizing c with
  | nil => exact ⟨placed, fun _ => rfl⟩
  | cons k queue ih =>
    have rest : Placed { c with queue } :=
      placed.of_le (Nat.le_refl _) (fun active => active) (List.subset_cons_self ..)
    unfold Connection.startFrom
    split
    · rename_i busy
      refine ⟨placed, fun free => ?_⟩
      rw [show c.active = none from free] at busy
      cases busy
    · split
      · exact ih rest
      · split
        · exact ih rest
        · have here : k < c.requests.length := placed.queue_lt (List.mem_cons_self ..)
          split
          · rename_i turn _
            have started : Placed (Connection.update { c with queue } k turn).connection :=
              rest.update k turn
            dsimp only
            rw [andThen_eq rfl, andThen_eq rfl]
            split
            · exact ih started
            · refine ⟨⟨fun active => ?_, started.queue_lt⟩, fun free => by cases free⟩
              cases active
              simpa [Connection.update, Connection.setRequest, stay, ask] using here
          · exact ⟨⟨fun active => by cases active; exact here, rest.queue_lt⟩,
              fun free => by cases free⟩

/-- Starting what waits leaves the connection tended. -/
lemma pump (placed : c.Placed) : c.pump.connection.Tended := startFrom c.queue placed

/-- A turn of one request with what follows from it leaves the connection tended. -/
lemma advance (tended : c.Tended) (k : Nat) (turn : WriteRequest.Turn) :
    (advance c k turn).connection.Tended := by
  unfold Connection.advance
  dsimp only
  split
  · exact (tended.update k turn).andThen fun tended => pump (tended.vacate k)
  · exact tended.update k turn

/-- A cancellation leaves the connection tended. -/
lemma cancel (tended : c.Tended) (k : Nat) : (c.cancel k).1.connection.Tended := by
  unfold Connection.cancel
  split
  · exact tended.advance k _
  · exact tended

/-- An outcome of a submission leaves the connection tended. -/
lemma conclude (tended : c.Tended) (k index : Nat) (outcome : Outcome) :
    (c.conclude k index outcome).connection.Tended := by
  unfold Connection.conclude
  split
  · dsimp only
    split
    · exact tended.update k _
    · exact tended.advance k _
  · exact tended

/-- Hearing of a settlement leaves the connection tended. -/
lemma noteSettled (tended : c.Tended) (k : Nat) (result : WriteResult) :
    (c.noteSettled k result).connection.Tended := by
  unfold Connection.noteSettled
  refine andThen ?_ fun tended => pump (tended.vacate k)
  exact tended

/-- Cancellations one after the other leave the connection tended. -/
lemma cancelEach (ks : List Nat) (tended : c.Tended) :
    (cancelEach ks c).connection.Tended := by
  induction ks generalizing c with
  | nil => exact tended
  | cons k ks ih =>
    rw [cancelEach_cons]
    exact (tended.cancel k).andThen ih

/-- Cancelling every request leaves the connection tended. -/
lemma cancelAll (tended : c.Tended) : c.cancelAll.connection.Tended := by
  have aside : Tended { c with queue := [] } :=
    ⟨⟨tended.active_lt, fun mem => by cases mem⟩, fun _ => rfl⟩
  exact (aside.cancelEach c.queue).andThen fun tended => tended.cancelEach _

/-- A reset leaves the connection tended. -/
lemma reset (tended : c.Tended) : c.reset.connection.Tended :=
  tended.cancelAll.andThen fun tended => tended.congr rfl rfl rfl

/-- A closing leaves the connection tended. -/
lemma close (tended : c.Tended) : c.close.connection.Tended := by
  unfold Connection.close
  split
  · exact tended
  · refine andThen (tended.congr rfl rfl rfl) fun tended => ?_
    exact tended.cancelAll.andThen fun tended => tended.congr rfl rfl rfl

/-- Beginning to listen leaves the connection tended. -/
lemma start {turn : Turn} (tended : c.Tended) (started : c.start = .ok turn) :
    turn.connection.Tended := by
  unfold Connection.start at started
  split at started
  · cases started
  · split at started
    · cases started
      exact tended
    · cases started
      exact tended.congr rfl rfl rfl

/-- A new request joins the queue before the next one is started: its place is neither in the slot
nor in the queue yet. -/
lemma enqueue_eq (tended : c.Tended) (pending : r.status = .pending) (aborted : Bool) :
    ∃ effects, c.enqueue r aborted =
      (ask effects (c.withRequest (joining r aborted))).andThen Connection.pump :=
  ⟨_, enqueue_eq_andThen tended.atRest (fun active => Nat.lt_irrefl _ (tended.active_lt active))
    (fun mem => Nat.lt_irrefl _ (tended.queue_lt mem)) (r.isSettled_eq pending) aborted⟩

/-- A message that is sent leaves the connection tended. -/
lemma sendContent {id : Nat} {maxPacketSize : Number} {content : Message ⊕ ControlMessage}
    {signal : Option String} {aborted : Bool} {turn : Turn} (tended : c.Tended)
    (sent : c.sendContent id maxPacketSize content signal aborted = .ok turn) :
    turn.connection.Tended := by
  obtain ⟨r, pending, rfl⟩ := sendContent_eq_enqueue sent
  obtain ⟨effects, joins⟩ := tended.enqueue_eq pending aborted
  rw [joins, andThen_eq rfl]
  exact pump (tended.withRequest _)

/-- A packet that arrives leaves the connection tended. -/
lemma receive (tended : c.Tended) (bytes : Bytes) : (c.receive bytes).1.connection.Tended := by
  rw [connection_receive]
  exact tended.congr rfl rfl rfl

end Tended

/-- Whatever came before, a connection is tended between two operations. -/
lemma Reachable.tended (reachable : c.Reachable) : c.Tended := by
  induction reachable with
  | new => exact ⟨⟨nofun, nofun⟩, fun _ => rfl⟩
  | send _ sent tended => exact tended.sendContent sent
  | cancel _ k tended => exact tended.cancel k
  | conclude _ k index outcome tended => exact tended.conclude k index outcome
  | receive _ bytes tended => exact tended.receive bytes
  | start _ started tended => exact tended.start started
  | close _ tended => exact tended.close
  | reset _ tended => exact tended.reset
  | startByHand _ _ _ tended => exact tended.setRequest _ _
  | concludeByHand _ _ _ _ _ tended => exact tended.setRequest _ _
  | noteByHand _ k result tended => exact tended.noteSettled k result

/-! ## A new request -/

/-- Starting the requests of a queue adds none. -/
@[simp] lemma length_startFrom (queue : List Nat) (c : Connection) :
    (startFrom queue c).connection.requests.length = c.requests.length := by
  induction queue generalizing c with
  | nil => rfl
  | cons k queue ih =>
    unfold startFrom
    split
    · rfl
    · split
      · exact ih c
      · split
        · exact ih c
        · split
          · dsimp only
            rw [andThen_eq rfl, andThen_eq rfl]
            split
            · rw [ih]
              exact List.length_set
            · exact List.length_set
          · rfl

/-- The only request that waits can be started unless it is in flight. -/
lemma startFrom_singleton (get : c.requests[k]? = some r) (waits : r.status ≠ .inFlight) :
    (startFrom [k] c).refused = none := by
  unfold startFrom
  rw [get]
  split
  · rfl
  · cases status : r.status with
    | inFlight => exact absurd status waits
    | settled result =>
      have settled : r.isSettled = true := r.isSettled_eq status
      simp only [settled, if_true]
      rfl
    | pending =>
      have unsettled : r.isSettled = false := r.isSettled_eq status
      obtain ⟨turn, started⟩ : ∃ turn, r.start c.counter = .ok turn := by
        unfold WriteRequest.start
        rw [status]
        exact ⟨_, rfl⟩
      simp only [unsettled, started, if_false, Bool.false_eq_true]
      split
      · rw [andThen_eq rfl]
        rfl
      · rw [andThen_eq rfl]
        rfl

/-- What is sent on a tended connection joins the queue, and nothing breaks off: nothing else waits
when it finds the slot free. -/
lemma Tended.sendContent_done {id : Nat} {maxPacketSize : Number}
    {content : Message ⊕ ControlMessage} {signal : Option String} {aborted : Bool} {turn : Turn}
    (tended : c.Tended)
    (sent : c.sendContent id maxPacketSize content signal aborted = .ok turn) :
    turn.refused = none ∧ ∃ s, turn.connection.requests[c.requests.length]? = some s := by
  obtain ⟨r, pending, rfl⟩ := sendContent_eq_enqueue sent
  obtain ⟨effects, joins⟩ := tended.enqueue_eq pending aborted
  rw [joins, andThen_eq rfl]
  refine ⟨?_, _, List.getElem?_eq_getElem ?_⟩
  · show (c.withRequest (joining r aborted)).pump.refused = none
    cases active : c.active with
    | some k =>
      have busy : (c.withRequest (joining r aborted)).AtRest := fun free => by
        rw [show c.active = none from free] at active
        cases active
      rw [pump_eq_stay busy]
      rfl
    | none =>
      have alone : (c.withRequest (joining r aborted)).queue = [c.requests.length] := by
        rw [withRequest, tended.atRest active, List.nil_append]
      have waits : (joining r aborted).status ≠ .inFlight := by
        cases aborted <;> simp [joining, pending]
      rw [Connection.pump, alone]
      exact startFrom_singleton (by simp [withRequest]) waits
  · show c.requests.length < (c.withRequest (joining r aborted)).pump.connection.requests.length
    rw [Connection.pump, length_startFrom, withRequest, List.length_append]
    exact Nat.lt_succ_self _

end PacketLink.Connection
