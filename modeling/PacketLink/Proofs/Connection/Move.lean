import PacketLink.Connection.Inbound
import PacketLink.Proofs.Write.Request

/-!
# The moves of a connection

Every operation on a connection is made of a few moves: a request joins the queue or leaves it,
starts, goes on or settles, and the connection listens, starts over or closes. `Move` lists them
with what the environment told the connection and with what the connection asked for, and a `Path`
is any number of moves. `WellFormed` is what every move keeps: the slot holds exactly the request in
flight, and the queue holds every pending request, in the order of sending and behind the slot.
-/

namespace PacketLink.Connection

/-- What the environment tells a connection. -/
inductive Input where
  /-- A message to be sent. -/
  | send (message : Message)
  /-- What became of a submission of the request in this place. -/
  | outcome (request index : Nat) (outcome : Outcome)
  /-- The bytes of a packet. -/
  | packet (bytes : Bytes)

/-- The message that an input sends. -/
def Input.message? : Input → Option Message
  | .send message => some message
  | _ => none

/-- The messages that were sent, in order. -/
def sends (inputs : List Input) : List Message := inputs.filterMap Input.message?

/-- What a connection asks for when the request in place `k` settles. -/
def settlement (k : Nat) (request : WriteRequest) (result : WriteResult) : List Effect :=
  (request.settle result).2.flatMap (relay k)

/-- What a connection asks for when it hands fragment `f` to the transport, as packet `i` of the
request in place `k`. -/
def submission (c : Connection) (k i : Nat) (f : Fragment) : List Effect :=
  let packet := f.wire c.layout c.counter.value
  [.writeLog k (.submitting i c.counter.value packet.length), .submit k i packet]

/-- The request in place `k` settles with `result` after `sentCount` packets. -/
def settleRequest (c : Connection) (k : Nat) (request : WriteRequest) (sentCount : Nat)
    (result : WriteResult) : Connection :=
  (c.setRequest k { request with status := .settled result, sentCount }).vacate k

/-- The things that a connection does, each with what it was told and what it asks for. -/
inductive Move : Connection → List Input → List Effect → Connection → Prop where
  /-- A new request goes behind the queue. -/
  | join {c : Connection} {r : WriteRequest} :
    c.closed = false → r.Valid c.layout → r.status = .pending →
    Move c [.send r.message] []
      { c with requests := c.requests ++ [r], queue := c.queue ++ [c.requests.length] }
  /-- A new request goes behind the queue that was cancelled before. -/
  | refuse {c : Connection} {r : WriteRequest} :
    c.closed = false → r.Valid c.layout → r.status = .pending →
    Move c [.send r.message] (settlement c.requests.length r (.cancelled r.sentCount))
      { c with
        requests := c.requests ++ [{ r with status := .settled (.cancelled r.sentCount) }]
        queue := c.queue ++ [c.requests.length] }
  /-- A settled request leaves the queue. -/
  | skip {c : Connection} {k : Nat} {r : WriteRequest} {queue : List Nat} :
    c.queue = k :: queue → c.requests[k]? = some r → r.isSettled = true →
    Move c [] [] { c with queue }
  /-- The next request takes the slot and submits its first packet. -/
  | launch {c : Connection} {k : Nat} {r : WriteRequest} {f : Fragment} {queue : List Nat} :
    c.active = none → c.queue = k :: queue → c.requests[k]? = some r → r.status = .pending →
    r.fragments[0]? = some f →
    Move c [] (.writeLog k (.started r.fragments.length) :: c.submission k 0 f)
      { c.setRequest k { r with status := .inFlight } with
        queue, active := some k, counter := c.counter.advance 1 }
  /-- The request in flight goes on to its next packet. -/
  | follow {c : Connection} {k : Nat} {r : WriteRequest} {f : Fragment} :
    c.requests[k]? = some r → r.status = .inFlight → r.fragments[r.sentCount + 1]? = some f →
    Move c [.outcome k r.sentCount .accepted] (c.submission k (r.sentCount + 1) f)
      { c.setRequest k { r with sentCount := r.sentCount + 1 } with
        counter := c.counter.advance 1 }
  /-- The last packet of the request in flight was accepted. -/
  | complete {c : Connection} {k : Nat} {r : WriteRequest} :
    c.requests[k]? = some r → r.status = .inFlight → r.sentCount + 1 = r.fragments.length →
    Move c [.outcome k r.sentCount .accepted]
      (settlement k { r with sentCount := r.sentCount + 1 } (.completed r.fragments.length))
      (c.settleRequest k r (r.sentCount + 1) (.completed r.fragments.length))
  /-- A packet of the request in flight was rejected. -/
  | fail {c : Connection} {k : Nat} {r : WriteRequest} {fault : Fault}
    (told : fault.message?.isSome) :
    c.requests[k]? = some r → r.status = .inFlight →
    Move c [.outcome k r.sentCount (.rejected fault)]
      (.writeLog k (.submitFailed ⟨r.sentCount, fault, told⟩) ::
        settlement k r (.failed (.submit ⟨r.sentCount, fault, told⟩) r.sentCount))
      (c.settleRequest k r r.sentCount (.failed (.submit ⟨r.sentCount, fault, told⟩) r.sentCount))
  /-- A packet of the request in flight was rejected with a fault that says nothing. -/
  | strand {c : Connection} {k : Nat} {r : WriteRequest} {fault : Fault} :
    fault.message? = none → c.requests[k]? = some r → r.status = .inFlight →
    Move c [.outcome k r.sentCount (.rejected fault)] [] c
  | cancel {c : Connection} {k : Nat} {r : WriteRequest} :
    c.requests[k]? = some r → r.isSettled = false →
    Move c [] (settlement k r (.cancelled r.sentCount))
      (c.settleRequest k r r.sentCount (.cancelled r.sentCount))
  /-- Counters and inbound streams start over. -/
  | restart {c : Connection} :
    c.active = none → c.queue = [] →
    Move c [] [.log .reset] { c.resetInbound with counter := c.counter.reset }
  | listen {c : Connection} :
    c.closed = false → c.listening = false →
    Move c [] [.subscribe, .log .started] { c with listening := true }
  /-- The connection closes before its requests are cancelled. -/
  | retire {c : Connection} :
    c.closed = false →
    Move c [] (if c.listening then [.unsubscribe] else [])
      { c with closed := true, listening := false }
  /-- A closed connection has no requests left. -/
  | drain {c : Connection} :
    c.closed = true → c.active = none → c.queue = [] →
    Move c [] [.log .closed] c.resetInbound
  /-- The bytes of a packet arrive. -/
  | take {c : Connection} (bytes : Bytes) :
    Move c [.packet bytes] (c.receive bytes).1.effects (c.receive bytes).1.connection
  /-- An outcome comes too late. -/
  | note {c : Connection} {k index : Nat} {r : WriteRequest} (outcome : Outcome) :
    c.requests[k]? = some r → r.isInFlight = false →
    Move c [.outcome k index outcome] [.writeLog k (.outcomeIgnored index r.phase)] c

/-- Any number of moves, with everything the environment told and the connection asked for. -/
inductive Path : Connection → List Input → List Effect → Connection → Prop where
  | rest (c : Connection) : Path c [] [] c
  | step {c c' c'' : Connection} {inputs input : List Input} {effects effect : List Effect} :
    Path c inputs effects c' → Move c' input effect c'' →
    Path c (inputs ++ input) (effects ++ effect) c''

namespace Path

variable {c c' c'' : Connection} {inputs later : List Input} {effects asked : List Effect}

/-- A move is a path. -/
lemma single (move : Move c inputs effects c') : Path c inputs effects c' := (rest c).step move

/-- One path after the other is a path. -/
lemma trans (first : Path c inputs effects c') (second : Path c' later asked c'') :
    Path c (inputs ++ later) (effects ++ asked) c'' := by
  induction second with
  | rest => simpa using first
  | step _ move ih => simpa only [← List.append_assoc] using ih.step move

end Path

/-! ## Requests along a path -/

/-- The request in one place is replaced, and the others stay. -/
lemma getElem?_setRequest {c : Connection} {k : Nat} {r : WriteRequest}
    (get : c.requests[k]? = some r) (r' : WriteRequest) (j : Nat) :
    (c.setRequest k r').requests[j]? = if j = k then some r' else c.requests[j]? := by
  obtain ⟨bound, _⟩ := List.getElem?_eq_some_iff.mp get
  simp only [setRequest, List.getElem?_set, if_pos bound, eq_comm]

/-- One among others and a new one. -/
lemma getElem?_concat_cases {α : Type} {others : List α} {new found : α} {j : Nat}
    (get : (others ++ [new])[j]? = some found) :
    others[j]? = some found ∨ j = others.length ∧ found = new := by
  rw [List.getElem?_append] at get
  split at get
  · exact .inl get
  · rw [List.getElem?_singleton] at get
    split at get
    · exact .inr ⟨by omega, (Option.some.inj get).symm⟩
    · cases get

/-- A request leaves the slot or the queue, but the connection keeps it. -/
@[simp] lemma requests_vacate (c : Connection) (k : Nat) : (c.vacate k).requests = c.requests := by
  unfold vacate
  split <;> rfl

/-- Leaving the slot does not change the layout. -/
@[simp] lemma layout_vacate (c : Connection) (k : Nat) : (c.vacate k).layout = c.layout := by
  unfold vacate
  split <;> rfl

/-- Leaving the slot does not change the counter. -/
@[simp] lemma counter_vacate (c : Connection) (k : Nat) : (c.vacate k).counter = c.counter := by
  unfold vacate
  split <;> rfl

/-- A request that is not in the slot leaves the queue. -/
lemma vacate_of_idle {c : Connection} {k : Nat} (idle : c.active ≠ some k) :
    c.vacate k = { c with queue := c.queue.filter (· ≠ k) } :=
  if_neg idle

/-- The slot is free when its request has left it. -/
lemma active_vacate (c : Connection) (k : Nat) :
    (c.vacate k).active = if c.active = some k then none else c.active := by
  unfold vacate
  split <;> rfl

/-- A request that is not in the slot is in the queue no more. -/
lemma queue_vacate (c : Connection) (k : Nat) :
    (c.vacate k).queue = if c.active = some k then c.queue else c.queue.filter (· ≠ k) := by
  unfold vacate
  split <;> rfl

/-- What holds of a connection after any number of moves. -/
structure WellFormed (c : Connection) : Prop where
  space_eq : c.counter.space = c.layout.counterSpace
  valid : ∀ {k : Nat} {r : WriteRequest}, c.requests[k]? = some r → r.Valid c.layout
  inFlight_of_active : ∀ {k : Nat}, c.active = some k →
    ∃ r, c.requests[k]? = some r ∧ r.status = .inFlight
  active_of_inFlight : ∀ {k : Nat} {r : WriteRequest},
    c.requests[k]? = some r → r.status = .inFlight → c.active = some k
  mem_of_pending : ∀ {k : Nat} {r : WriteRequest},
    c.requests[k]? = some r → r.status = .pending → k ∈ c.queue
  sorted : c.queue.Pairwise (· < ·)
  lt_length : ∀ {k : Nat}, k ∈ c.queue → k < c.requests.length
  active_lt : ∀ {k j : Nat}, c.active = some k → j ∈ c.queue → k < j

namespace WellFormed

variable {c : Connection} {k : Nat} {r : WriteRequest}

/-- The place in the slot is that of a request. -/
lemma active_lt_length (wf : c.WellFormed) (active : c.active = some k) :
    k < c.requests.length := by
  obtain ⟨r, get, _⟩ := wf.inFlight_of_active active
  exact (List.getElem?_eq_some_iff.mp get).1

/-- The slot and the queue are all that is left to do. -/
lemma isSettled (wf : c.WellFormed) (get : c.requests[k]? = some r) (idle : c.active ≠ some k)
    (gone : k ∉ c.queue) : r.isSettled = true := by
  cases status : r.status with
  | pending => exact absurd (wf.mem_of_pending get status) gone
  | inFlight => exact absurd (wf.active_of_inFlight get status) idle
  | settled result => exact r.isSettled_eq status

/-- While the slot is free, a request that has not settled is pending. -/
lemma pending_of_free (wf : c.WellFormed) (free : c.active = none)
    (get : c.requests[k]? = some r) (unsettled : r.isSettled ≠ true) : r.status = .pending := by
  cases status : r.status with
  | pending => rfl
  | inFlight =>
    have active := wf.active_of_inFlight get status
    rw [free] at active
    cases active
  | settled result => exact absurd (r.isSettled_eq status) unsettled

/-- A valid request may be added behind the queue. -/
lemma append (wf : c.WellFormed) (valid : r.Valid c.layout) (waits : r.status ≠ .inFlight) :
    WellFormed
      { c with requests := c.requests ++ [r], queue := c.queue ++ [c.requests.length] } := by
  refine ⟨wf.space_eq, fun get => ?_, fun active => ?_, fun get flying => ?_, fun get pending => ?_,
    ?_, fun mem => ?_, fun active mem => ?_⟩
  · obtain get | ⟨rfl, rfl⟩ := getElem?_concat_cases get
    · exact wf.valid get
    · exact valid
  · obtain ⟨s, get, flying⟩ := wf.inFlight_of_active active
    exact ⟨s, by rw [List.getElem?_append_left (wf.active_lt_length active)]; exact get, flying⟩
  · obtain get | ⟨rfl, rfl⟩ := getElem?_concat_cases get
    · exact wf.active_of_inFlight get flying
    · exact absurd flying waits
  · obtain get | ⟨rfl, rfl⟩ := getElem?_concat_cases get
    · exact List.mem_append_left _ (wf.mem_of_pending get pending)
    · exact List.mem_append_right _ (List.mem_singleton_self _)
  · refine List.pairwise_append.mpr ⟨wf.sorted, List.pairwise_singleton .., fun j mem i here => ?_⟩
    rw [List.mem_singleton.mp here]
    exact wf.lt_length mem
  · obtain mem | mem := List.mem_append.mp mem
    · exact List.length_append ▸ Nat.lt_add_right _ (wf.lt_length mem)
    · simp [List.mem_singleton.mp mem]
  · obtain mem | mem := List.mem_append.mp mem
    · exact wf.active_lt active mem
    · exact List.mem_singleton.mp mem ▸ wf.active_lt_length active

/-- A request may settle. -/
lemma settleRequest (wf : c.WellFormed) (get : c.requests[k]? = some r) (sentCount : Nat)
    (result : WriteResult) : (c.settleRequest k r sentCount result).WellFormed := by
  have lookup := getElem?_setRequest get { r with status := .settled result, sentCount }
  refine ⟨?_, fun {j s} get' => ?_, fun {j} active => ?_, fun {j s} get' flying => ?_,
    fun {j s} get' pending => ?_, ?_, fun {j} mem => ?_, fun {i j} active mem => ?_⟩ <;>
    simp only [Connection.settleRequest, requests_vacate, layout_vacate, counter_vacate,
      active_vacate, queue_vacate, lookup] at *
  · exact wf.space_eq
  · split at get'
    · cases get'
      exact (wf.valid get).amend _ _ (fun h => by cases h) fun h => by cases h
    · exact wf.valid get'
  · split at active
    · cases active
    · -- the request in the slot is another one, which has not changed
      obtain ⟨s, get', flying⟩ := wf.inFlight_of_active active
      refine ⟨s, ?_, flying⟩
      rw [if_neg fun h => by simp_all [setRequest]]
      exact get'
  · split at get'
    · cases get'
      cases flying
    · have active := wf.active_of_inFlight get' flying
      rw [if_neg fun h => ?_]
      · exact active
      · simp_all [setRequest]
  · split at get'
    · cases get'
      cases pending
    · have mem := wf.mem_of_pending get' pending
      split
      · exact mem
      · exact List.mem_filter.mpr ⟨mem, by simpa⟩
  · split
    · exact wf.sorted
    · exact wf.sorted.filter _
  · rw [setRequest, List.length_set]
    split at mem
    · exact wf.lt_length mem
    · exact wf.lt_length (List.mem_filter.mp mem).1
  · split at active
    · cases active
    · rw [if_neg ‹_›] at mem
      exact wf.active_lt active (List.mem_filter.mp mem).1

/-- The next request takes the free slot. -/
lemma launch (wf : c.WellFormed) {queue : List Nat} (free : c.active = none)
    (head : c.queue = k :: queue) (get : c.requests[k]? = some r) (pending : r.status = .pending) :
    WellFormed
      { c.setRequest k { r with status := .inFlight } with
        queue, active := some k, counter := c.counter.advance 1 } := by
  have lookup := getElem?_setRequest get { r with status := .inFlight }
  have sorted := head ▸ wf.sorted
  obtain ⟨behind, sorted⟩ := List.pairwise_cons.mp sorted
  refine ⟨wf.space_eq, fun {j s} get' => ?_, fun {j} active => ?_, fun {j s} get' flying => ?_,
    fun {j s} get' pending => ?_, sorted, fun {j} mem => ?_, fun {i j} active mem => ?_⟩
  · rw [lookup] at get'
    split at get'
    · cases get'
      exact (wf.valid get).start pending
    · exact wf.valid get'
  · cases active
    exact ⟨_, (lookup k).trans (if_pos rfl), rfl⟩
  · rw [lookup] at get'
    split at get'
    · rw [‹j = k›]
    · have active := wf.active_of_inFlight get' flying
      rw [free] at active
      cases active
  · rw [lookup] at get'
    split at get'
    · cases get'
      cases pending
    · have mem := head ▸ wf.mem_of_pending get' pending
      exact (List.mem_cons.mp mem).resolve_left ‹_›
  · rw [setRequest, List.length_set]
    exact wf.lt_length (head ▸ List.mem_cons_of_mem k mem)
  · cases active
    exact behind j mem

/-- The request in flight has one more packet accepted, but not its last one. -/
lemma follow (wf : c.WellFormed) (get : c.requests[k]? = some r) (flying : r.status = .inFlight)
    (more : r.sentCount + 1 < r.fragments.length) :
    WellFormed
      { c.setRequest k { r with sentCount := r.sentCount + 1 } with
        counter := c.counter.advance 1 } := by
  have lookup := getElem?_setRequest get { r with sentCount := r.sentCount + 1 }
  have active := wf.active_of_inFlight get flying
  refine ⟨wf.space_eq, fun {j s} get' => ?_, fun {j} active' => ?_, fun {j s} get' flying' => ?_,
    fun {j s} get' pending => ?_, wf.sorted, fun {j} mem => ?_, wf.active_lt⟩
  · rw [lookup] at get'
    split at get'
    · cases get'
      exact (wf.valid get).amend _ _ (fun h => by simp [flying] at h) fun _ => more
    · exact wf.valid get'
  · cases active.symm.trans active'
    exact ⟨_, (lookup k).trans (if_pos rfl), flying⟩
  · rw [lookup] at get'
    split at get'
    · rw [‹j = k›]
      exact active
    · exact wf.active_of_inFlight get' flying'
  · rw [lookup] at get'
    split at get'
    · cases get'
      simp [flying] at pending
    · exact wf.mem_of_pending get' pending
  · rw [setRequest, List.length_set]
    exact wf.lt_length mem

/-- Everything but the requests, the queue, the slot and the counter may change at will. -/
lemma congr {c' : Connection} (wf : c.WellFormed) (layout : c'.layout = c.layout)
    (space : c'.counter.space = c.counter.space) (requests : c'.requests = c.requests)
    (queue : c'.queue = c.queue) (active : c'.active = c.active) : c'.WellFormed := by
  refine ⟨?_, ?_, ?_, ?_, ?_, ?_, ?_, ?_⟩ <;> simp only [layout, space, requests, queue, active]
  exacts [wf.space_eq, wf.valid, wf.inFlight_of_active, wf.active_of_inFlight, wf.mem_of_pending,
    wf.sorted, wf.lt_length, wf.active_lt]

/-- A settled request need not wait. -/
lemma skip (wf : c.WellFormed) {queue : List Nat} (head : c.queue = k :: queue)
    (get : c.requests[k]? = some r) (settled : r.isSettled = true) :
    WellFormed { c with queue } := by
  have sorted := head ▸ wf.sorted
  refine ⟨wf.space_eq, wf.valid, wf.inFlight_of_active, wf.active_of_inFlight,
    fun {j s} get' pending => ?_, (List.pairwise_cons.mp sorted).2,
    fun mem => wf.lt_length (head ▸ List.mem_cons_of_mem k mem),
    fun active mem => wf.active_lt active (head ▸ List.mem_cons_of_mem k mem)⟩
  obtain rfl | mem := List.mem_cons.mp (head ▸ wf.mem_of_pending get' pending)
  · cases get.symm.trans get'
    cases (r.isSettled_eq pending).symm.trans settled
  · exact mem

end WellFormed

/-- A new connection is well-formed. -/
lemma wellFormed_new (layout : Layout) (maxPacketCount maxMessageSize : Number) :
    (new layout maxPacketCount maxMessageSize).WellFormed := by
  refine ⟨rfl, fun get => ?_, fun active => ?_, fun get => ?_, fun get => ?_, .nil, fun mem => ?_,
    fun active => ?_⟩
  · cases get
  · cases active
  · cases get
  · cases get
  · cases mem
  · cases active

section Receive

variable (c : Connection) (bytes : Bytes)

/-- What arrives changes nothing but the inbound streams. -/
lemma connection_receive :
    (c.receive bytes).1.connection =
      { c with
        data := (c.receive bytes).1.connection.data
        control := (c.receive bytes).1.connection.control } := by
  unfold receive
  split
  · rename_i packet _
    cases kind : packet.kind <;> rfl
  · rfl

end Receive

/-- No move changes the layout. -/
lemma Move.layout_eq {c c' : Connection} {inputs : List Input} {effects : List Effect}
    (move : Move c inputs effects c') : c'.layout = c.layout := by
  cases move with
  | complete | fail | cancel => exact layout_vacate _ _
  | take bytes => rw [connection_receive]
  | _ => rfl

/-- Nothing changes the layout. -/
lemma Path.layout_eq {c c' : Connection} {inputs : List Input} {effects : List Effect}
    (path : Path c inputs effects c') : c'.layout = c.layout := by
  induction path with
  | rest => rfl
  | step _ move ih => exact move.layout_eq.trans ih

/-- Every move leaves a well-formed connection. -/
lemma Move.wellFormed {c c' : Connection} {inputs : List Input} {effects : List Effect}
    (move : Move c inputs effects c') (wf : c.WellFormed) : c'.WellFormed := by
  cases move with
  | join _ valid pending => exact wf.append valid (by simp [pending])
  | refuse _ valid pending => exact wf.append (valid.settle _) (by simp)
  | skip head get settled => exact wf.skip head get settled
  | launch free head get pending _ => exact wf.launch free head get pending
  | follow get flying more =>
    exact wf.follow get flying (List.getElem?_eq_some_iff.mp more).1
  | complete get _ _ => exact wf.settleRequest get _ _
  | fail _ get _ => exact wf.settleRequest get _ _
  | strand => exact wf
  | cancel get _ => exact wf.settleRequest get _ _
  | restart => exact wf.congr rfl rfl rfl rfl rfl
  | listen => exact wf.congr rfl rfl rfl rfl rfl
  | retire => exact wf.congr rfl rfl rfl rfl rfl
  | drain => exact wf.congr rfl rfl rfl rfl rfl
  | take bytes =>
    rw [connection_receive]
    exact wf.congr rfl rfl rfl rfl rfl
  | note => exact wf

/-- Every path leaves a well-formed connection. -/
lemma Path.wellFormed {c c' : Connection} {inputs : List Input} {effects : List Effect}
    (path : Path c inputs effects c') (wf : c.WellFormed) : c'.WellFormed := by
  induction path with
  | rest => exact wf
  | step _ move ih => exact move.wellFormed ih

/-! ## Messages along a path -/

/-- A request keeps its message whatever becomes of it. -/
lemma messages_setRequest {c : Connection} {k : Nat} {r : WriteRequest}
    (get : c.requests[k]? = some r) (status : WriteStatus) (sentCount : Nat) :
    (c.setRequest k { r with status, sentCount }).requests.map (·.message) =
      c.requests.map (·.message) := by
  apply List.ext_getElem?
  intro j
  rw [List.getElem?_map, List.getElem?_map, getElem?_setRequest get]
  split
  · rename_i here
    rw [here, get]
    rfl
  · rfl

/-- A move adds the message that it was told to send, if it was. -/
lemma Move.messages_eq {c c' : Connection} {inputs : List Input} {effects : List Effect}
    (move : Move c inputs effects c') :
    c'.requests.map (·.message) = c.requests.map (·.message) ++ sends inputs := by
  cases move with
  | join => simp [sends, Input.message?]
  | refuse => simp [sends, Input.message?, WriteRequest.message]
  | launch _ _ get => exact (messages_setRequest get _ _).trans (List.append_nil _).symm
  | follow get => exact (messages_setRequest get _ _).trans (List.append_nil _).symm
  | complete get | fail _ get | cancel get =>
    rw [settleRequest, requests_vacate]
    exact (messages_setRequest get _ _).trans (List.append_nil _).symm
  | take bytes =>
    rw [connection_receive]
    exact (List.append_nil _).symm
  | _ => exact (List.append_nil _).symm

/-- The requests carry the messages that were sent, in the order of sending. -/
lemma Path.messages_append {c c' : Connection} {inputs : List Input} {effects : List Effect}
    (path : Path c inputs effects c') :
    c'.requests.map (·.message) = c.requests.map (·.message) ++ sends inputs := by
  induction path with
  | rest => exact (List.append_nil _).symm
  | step _ move ih =>
    rw [move.messages_eq, ih, sends, sends, sends, List.filterMap_append, List.append_assoc]

/-- The requests of a run are the messages that were sent, in order. -/
lemma Path.messages_eq {layout : Layout} {maxPacketCount maxMessageSize : Number} {c : Connection}
    {inputs : List Input} {effects : List Effect}
    (path : Path (new layout maxPacketCount maxMessageSize) inputs effects c) :
    c.requests.map (·.message) = sends inputs :=
  path.messages_append

/-- Without a send there are as many requests as before. -/
lemma Path.length_eq {c c' : Connection} {inputs : List Input} {effects : List Effect}
    (path : Path c inputs effects c') (unsent : sends inputs = []) :
    c'.requests.length = c.requests.length := by
  have messages := congrArg List.length path.messages_append
  simpa [unsent] using messages

end PacketLink.Connection
