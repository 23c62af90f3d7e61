import PacketLink.Proofs.Connection.Move

/-!
# Operations as moves

`Turn.Carried` says of a turn that it did not break off, that what it did is a path of moves, and
that it left no request waiting behind a free slot. Every operation on a well-formed connection at
rest is carried out so: `pump_carried`, `cancel_carried`, `conclude_carried`, `send_carried`,
`reset_carried`, `close_carried`. The outcome of a submission may come late, but for the request in
flight it is the outcome of the packet that it waits for.
-/

namespace PacketLink.Connection

/-- A connection between two operations: nothing waits while the slot is free. -/
def AtRest (c : Connection) : Prop := c.active = none → c.queue = []

/-- A turn from `c` that is a path of moves, with what the environment told on the way. -/
structure Turn.Carried (c : Connection) (inputs : List Input) (turn : Turn) : Prop where
  refused_eq : turn.refused = none
  path : Path c inputs turn.effects turn.connection
  atRest : turn.connection.AtRest

variable {c : Connection} {k : Nat} {r : WriteRequest} {inputs : List Input}

/-! ## Turns one after the other -/

/-- A turn that has gone through is followed by the next one. -/
lemma andThen_eq {turn : Turn} (done : turn.refused = none) (next : Connection → Turn) :
    turn.andThen next =
      ⟨(next turn.connection).connection, turn.effects ++ (next turn.connection).effects,
        (next turn.connection).refused⟩ := by
  simp only [Turn.andThen, done]

/-- Doing nothing before a turn changes nothing about it. -/
@[simp] lemma stay_andThen (c : Connection) (next : Connection → Turn) :
    (stay c).andThen next = next c := by
  simp [andThen_eq, stay, ask]

/-- Doing nothing after a turn changes nothing about it. -/
@[simp] lemma andThen_stay (turn : Turn) : turn.andThen stay = turn := by
  unfold Turn.andThen
  split
  · rfl
  · rename_i done
    rcases turn with ⟨connection, effects, refused⟩
    cases done
    simp [stay, ask]

/-- Turns one after the other may be put in brackets either way. -/
lemma andThen_assoc (turn : Turn) (first second : Connection → Turn) :
    (turn.andThen first).andThen second = turn.andThen fun c => (first c).andThen second := by
  cases done : turn.refused with
  | some cause => simp [Turn.andThen, done]
  | none =>
    cases done' : (first turn.connection).refused with
    | some cause => simp [Turn.andThen, done, done']
    | none => simp [Turn.andThen, done, done']

/-- Doing nothing is a path without moves. -/
lemma Turn.Carried.stay (rest : c.AtRest) : Carried c [] (stay c) := ⟨rfl, .rest c, rest⟩

/-- A turn that begins with a path of moves. -/
lemma Turn.Carried.after {turn : Turn} (done : turn.refused = none)
    (path : Path c [] turn.effects turn.connection) {next : Connection → Turn}
    (carried : Carried turn.connection inputs (next turn.connection)) :
    Carried c inputs (turn.andThen next) := by
  rw [andThen_eq done]
  exact ⟨carried.refused_eq, path.trans carried.path, carried.atRest⟩

/-! ## Starting the next request -/

/-- Requests of a queue are started one after the other until one is in flight. -/
lemma startFrom_carried (queue : List Nat) (wf : WellFormed { c with queue }) :
    Turn.Carried { c with queue } [] (startFrom queue c) := by
  induction queue with
  | nil => exact .stay fun _ => rfl
  | cons k queue ih =>
    unfold startFrom
    split
    · rename_i busy
      refine ⟨rfl, .rest _, fun free => ?_⟩
      rw [show c.active = none from free] at busy
      cases busy
    · rename_i free
      have free : c.active = none := by simpa using free
      split
      · rename_i missing
        have bound := wf.lt_length (List.mem_cons_self ..)
        rw [List.getElem?_eq_none_iff] at missing
        exact absurd bound (Nat.not_lt.mpr missing)
      · rename_i r get
        by_cases settled : r.isSettled = true
        · -- the request leaves the queue and the next one is looked at
          rw [if_pos settled]
          have move : Move { c with queue := k :: queue } [] [] { c with queue } :=
            .skip (r := r) rfl get settled
          have carried := ih (move.wellFormed wf)
          exact ⟨carried.refused_eq, (Path.single move).trans carried.path, carried.atRest⟩
        · rw [if_neg settled]
          have pending := wf.pending_of_free free get settled
          have valid := wf.valid get
          obtain ⟨f, first⟩ : ∃ f, r.fragments[0]? = some f :=
            ⟨_, List.getElem?_eq_getElem valid.framed.length_pos⟩
          rw [WriteRequest.start_eq valid pending first wf.space_eq]
          have move := Move.launch (c := { c with queue := k :: queue }) free rfl get pending first
          exact ⟨rfl, .single move, fun free => by cases free⟩

/-- What waits is started when the slot is free. -/
lemma pump_carried (wf : c.WellFormed) : Turn.Carried c [] c.pump :=
  startFrom_carried c.queue wf

/-- Nothing is started when nothing waits behind a free slot. -/
lemma pump_eq_stay (rest : c.AtRest) : c.pump = stay c := by
  unfold pump
  cases waiting : c.queue with
  | nil => simp [startFrom, ← waiting]
  | cons k queue =>
    have busy : c.active.isSome := by
      cases active : c.active with
      | none => simp [rest active] at waiting
      | some j => rfl
    simp only [startFrom, busy, if_true, ← waiting]

/-! ## Settling a request -/

/-- Putting a request where it is changes nothing. -/
lemma setRequest_self (get : c.requests[k]? = some r) : c.setRequest k r = c := by
  obtain ⟨bound, rfl⟩ := List.getElem?_eq_some_iff.mp get
  simp [setRequest]

/-- An operation that settles the request in place `k` ends with the start of the next one. -/
lemma advance_eq {s : WriteRequest} (settled : s.isSettled = true)
    (effects : List WriteRequest.Effect) :
    advance c k ⟨s, c.counter, effects⟩ =
      (ask (effects.flatMap (relay k)) ((c.setRequest k s).vacate k)).andThen pump := by
  rw [advance, if_pos settled, andThen_eq rfl, andThen_eq rfl]
  rfl

/-- A move before the next request is started. -/
lemma Turn.Carried.pumped {c' : Connection} {effects : List Effect} (wf : c.WellFormed)
    (move : Move c inputs effects c') : Carried c inputs ((ask effects c').andThen pump) := by
  have carried := pump_carried (move.wellFormed wf)
  rw [← List.append_nil inputs, andThen_eq rfl]
  exact ⟨carried.refused_eq, (Path.single move).trans carried.path, carried.atRest⟩

/-- When nothing waits behind the slot, such an operation starts nothing. -/
lemma advance_eq_ask {s : WriteRequest} {effects : List WriteRequest.Effect}
    (settled : s.isSettled = true) (rest : ((c.setRequest k s).vacate k).AtRest) :
    advance c k ⟨s, c.counter, effects⟩ =
      ask (effects.flatMap (relay k)) ((c.setRequest k s).vacate k) := by
  have next : ((c.setRequest k s).vacate k).pump = stay ((c.setRequest k s).vacate k) :=
    pump_eq_stay rest
  rw [advance_eq settled, andThen_eq rfl]
  simp [ask, stay, next]

/-- What cancelling the request in place `k` does, and whether it cancels it. -/
lemma cancel_eq (get : c.requests[k]? = some r) :
    c.cancel k =
      if r.isSettled then (stay c, false)
      else
        (advance c k
          ⟨{ r with status := .settled (.cancelled r.sentCount) }, c.counter,
            (r.settle (.cancelled r.sentCount)).2⟩, true) := by
  unfold cancel WriteRequest.cancel
  rw [get]
  by_cases settled : r.isSettled = true
  · simp [settled]
  · simp [settled, WriteRequest.settle]

/-- Nothing is cancelled where no request is. -/
lemma cancel_of_none (missing : c.requests[k]? = none) : c.cancel k = (stay c, false) := by
  simp [cancel, missing]

/-- A cancellation is a path of moves, of whichever request it is. -/
lemma cancel_carried (wf : c.WellFormed) (rest : c.AtRest) (k : Nat) :
    Turn.Carried c [] (c.cancel k).1 := by
  cases get : c.requests[k]? with
  | none =>
    rw [cancel_of_none get]
    exact .stay rest
  | some r =>
    rw [cancel_eq get]
    split
    · exact .stay rest
    · rename_i unsettled
      rw [advance_eq rfl]
      exact .pumped wf (.cancel get (by simpa using unsettled))

/-! ## Cancelling several requests -/

/-- Without places nothing is cancelled. -/
@[simp] lemma cancelEach_nil (c : Connection) : cancelEach [] c = stay c := rfl

/-- The first place is cancelled before the others. -/
lemma cancelEach_cons (k : Nat) (ks : List Nat) (c : Connection) :
    cancelEach (k :: ks) c = (c.cancel k).1.andThen (cancelEach ks) := by
  have fold (turn : Turn) :
      ks.foldl (fun turn k => turn.andThen fun c => (c.cancel k).1) turn =
        turn.andThen (cancelEach ks) := by
    unfold cancelEach
    induction ks generalizing turn with
    | nil => exact (andThen_stay turn).symm
    | cons j ks ih =>
      simp only [List.foldl_cons, stay_andThen]
      rw [ih, andThen_assoc]
      congr 1
      funext c
      rw [ih]
  -- the definition begins with a turn that does nothing, so the fold has to begin anywhere
  rw [cancelEach, List.foldl_cons, stay_andThen]
  exact fold _

/-- Cancellations one after the other are a path of moves. -/
lemma cancelEach_carried (ks : List Nat) (wf : c.WellFormed) (rest : c.AtRest) :
    Turn.Carried c [] (cancelEach ks c) := by
  induction ks generalizing c with
  | nil => exact .stay rest
  | cons k ks ih =>
    rw [cancelEach_cons]
    have first := cancel_carried wf rest k
    exact .after first.refused_eq first.path (ih (first.path.wellFormed wf) first.atRest)

/-- Cancelling what waits, with the queue put aside: the queue is what the connection would have if
it was cancelled from its head on. -/
lemma cancelEach_queue (ks : List Nat) (wf : WellFormed { c with queue := ks }) :
    let turn := cancelEach ks { c with queue := [] }
    turn.refused = none ∧ Path { c with queue := ks } [] turn.effects turn.connection ∧
      turn.connection.queue = [] ∧ turn.connection.active = c.active := by
  induction ks generalizing c with
  | nil => exact ⟨rfl, .rest _, rfl, rfl⟩
  | cons k ks ih =>
    have aside : k ∉ ks := fun mem => by
      have sorted := (List.pairwise_cons.mp wf.sorted).1 k mem
      exact Nat.lt_irrefl k sorted
    have idle : c.active ≠ some k := fun active =>
      Nat.lt_irrefl k (wf.active_lt active (List.mem_cons_self ..))
    obtain ⟨r, get⟩ : ∃ r, c.requests[k]? = some r :=
      ⟨_, List.getElem?_eq_getElem (wf.lt_length (List.mem_cons_self ..))⟩
    -- a settled request is passed over; another one is cancelled where the queue still holds it
    rw [cancelEach_cons, cancel_eq (c := { c with queue := [] }) get]
    split
    · rename_i settled
      have move : Move { c with queue := k :: ks } [] [] { c with queue := ks } :=
        .skip (r := r) rfl get settled
      rw [stay_andThen]
      obtain ⟨done, path, queue, active⟩ := ih (move.wellFormed wf)
      exact ⟨done, (Path.single move).trans path, queue, active⟩
    · rename_i unsettled
      have move := Move.cancel (c := { c with queue := k :: ks }) get (by simpa using unsettled)
      have left : (k :: ks).filter (· ≠ k) = ks := by
        rw [List.filter_cons_of_neg (by simp), List.filter_eq_self]
        intro j mem
        exact decide_eq_true fun same => aside (same ▸ mem)
      have next : settleRequest { c with queue := k :: ks } k r r.sentCount
            (.cancelled r.sentCount) =
          { c.setRequest k { r with status := .settled (.cancelled r.sentCount) } with
            queue := ks } := by
        refine (vacate_of_idle (c := setRequest { c with queue := k :: ks } k _) idle).trans ?_
        simp only [setRequest, left]
      have next' : (setRequest { c with queue := [] } k
            { r with status := .settled (.cancelled r.sentCount) }).vacate k =
          { c.setRequest k { r with status := .settled (.cancelled r.sentCount) } with
            queue := [] } :=
        vacate_of_idle (c := setRequest { c with queue := [] } k _) idle
      rw [next] at move
      rw [advance_eq_ask rfl (by rw [next']; exact fun _ => rfl), next', andThen_eq rfl]
      obtain ⟨done, path, queue, active⟩ := ih (move.wellFormed wf)
      exact ⟨done, (Path.single move).trans path, queue, active⟩

/-- Cancelling every request leaves nothing to do. -/
lemma cancelAll_path (wf : c.WellFormed) :
    c.cancelAll.refused = none ∧ Path c [] c.cancelAll.effects c.cancelAll.connection ∧
      c.cancelAll.connection.active = none ∧ c.cancelAll.connection.queue = [] := by
  obtain ⟨done, path, queue, active⟩ := cancelEach_queue c.queue wf
  unfold cancelAll
  generalize cancelEach c.queue { c with queue := [] } = turn at *
  rw [andThen_eq done]
  cases slot : turn.connection.active with
  | none =>
    refine ⟨rfl, ?_, slot, queue⟩
    simpa [stay, ask] using path
  | some k =>
    have wf := path.wellFormed wf
    obtain ⟨r, get, flying⟩ := wf.inFlight_of_active slot
    have unsettled : r.isSettled = false := r.isSettled_eq flying
    have move := Move.cancel get unsettled
    have free : (turn.connection.settleRequest k r r.sentCount (.cancelled r.sentCount)).active =
        none := by
      simp [settleRequest, active_vacate, setRequest, slot]
    have empty : (turn.connection.settleRequest k r r.sentCount (.cancelled r.sentCount)).queue =
        [] := by
      simp [settleRequest, queue_vacate, setRequest, queue]
    rw [Option.toList_some, cancelEach_cons, cancel_eq get, unsettled, if_neg (by decide),
      advance_eq_ask rfl fun _ => empty, andThen_eq rfl]
    refine ⟨rfl, ?_, free, empty⟩
    simp only [ask, stay, cancelEach_nil, List.append_nil]
    exact path.trans (.single move)

/-- A reset is a path of moves, and nothing waits after it. -/
lemma reset_carried (wf : c.WellFormed) : Turn.Carried c [] c.reset := by
  obtain ⟨done, path, free, empty⟩ := cancelAll_path wf
  exact .after done path ⟨rfl, .single (.restart free empty), fun _ => empty⟩

/-! ## The life of a connection -/

/-- A connection that is closed stays closed. -/
lemma Move.closed {c' : Connection} {effects : List Effect} (move : Move c inputs effects c')
    (closed : c.closed = true) : c'.closed = true := by
  have vacate (c : Connection) (k : Nat) : (c.vacate k).closed = c.closed := by
    unfold Connection.vacate
    split <;> rfl
  cases move with
  | take bytes =>
    rw [connection_receive]
    exact closed
  | complete | fail | cancel => simpa [settleRequest, vacate, setRequest] using closed
  | retire => rfl
  | _ => exact closed

/-- What is closed stays so. -/
lemma Path.closed {c' : Connection} {effects : List Effect} (path : Path c inputs effects c')
    (closed : c.closed = true) : c'.closed = true := by
  induction path with
  | rest => exact closed
  | step _ move ih => exact move.closed ih

/-- A closing is a path of moves, also when it is not the first. -/
lemma close_carried (wf : c.WellFormed) (rest : c.AtRest) : Turn.Carried c [] c.close := by
  unfold close
  by_cases closed : c.closed = true
  · rw [if_pos closed]
    exact .stay rest
  · rw [if_neg closed]
    have retire : Move c [] _ _ := .retire (by simpa using closed)
    have wf' := retire.wellFormed wf
    obtain ⟨done, path, free, empty⟩ := cancelAll_path wf'
    have drain := Move.drain (path.closed rfl) free empty
    exact .after rfl (.single retire)
      (.after done path ⟨rfl, .single drain, fun _ => empty⟩)

/-- Beginning to listen is a move, unless the connection listens already. -/
lemma start_carried (rest : c.AtRest) {turn : Turn} (started : c.start = .ok turn) :
    Turn.Carried c [] turn := by
  unfold start at started
  split at started
  · cases started
  · rename_i opened
    split at started
    · cases started
      exact .stay rest
    · rename_i deaf
      cases started
      exact ⟨rfl, .single (.listen (by simpa using opened) (by simpa using deaf)), rest⟩

/-- A packet that arrives is a move. -/
lemma receive_carried (rest : c.AtRest) (bytes : Bytes) :
    Turn.Carried c [.packet bytes] (c.receive bytes).1 := by
  refine ⟨?_, .single (.take bytes), ?_⟩
  · unfold receive
    split <;> rfl
  · rw [connection_receive]
    exact rest

/-! ## Outcomes -/

/-- An outcome for a request that is not in flight is only noted. -/
lemma conclude_late (get : c.requests[k]? = some r) (late : r.isInFlight = false) (index : Nat)
    (outcome : Outcome) :
    c.conclude k index outcome = ask [.writeLog k (.outcomeIgnored index r.phase)] c := by
  have same : update c k (r.conclude c.counter index outcome) =
      ask [.writeLog k (.outcomeIgnored index r.phase)] c := by
    simp [WriteRequest.conclude, late, update, setRequest_self get, relay, ask]
  have unchanged : (r.conclude c.counter index outcome).request = r := by
    simp [WriteRequest.conclude, late]
  unfold conclude
  rw [get]
  dsimp only
  split
  · exact same
  · rw [advance, unchanged, if_neg ‹_›, same]

/-- An outcome is heard before the next request is started. For the request in flight, it must be
the outcome that it waits for. -/
lemma conclude_eq (wf : c.WellFormed) (rest : c.AtRest) (get : c.requests[k]? = some r)
    {index : Nat} (due : r.status = .inFlight → index = r.sentCount) (outcome : Outcome) :
    ∃ effects c', Move c [.outcome k index outcome] effects c' ∧
      c.conclude k index outcome = (ask effects c').andThen pump := by
  have valid := wf.valid get
  have still {c' : Connection} (rest : c'.AtRest) (effects : List Effect) :
      ask effects c' = (ask effects c').andThen pump := by
    rw [andThen_eq rfl]
    simp [ask, pump_eq_stay rest, stay]
  by_cases flying : r.isInFlight = true
  · have status : r.status = .inFlight := WriteRequest.status_of_isInFlight flying
    have unsettled : r.isSettled = false := r.isSettled_eq status
    -- the outcome is that of the packet that the request waits for
    obtain rfl := due status
    unfold conclude
    rw [get]
    simp only [unsettled, WriteRequest.conclude, flying, if_true, if_false, Bool.false_eq_true]
    cases outcome with
    | rejected fault =>
      dsimp only
      split
      · exact ⟨_, _, .fail ‹_› get status, advance_eq rfl _⟩
      · rename_i silent
        have mute : fault.message? = none := by simpa using silent
        refine ⟨_, _, .strand mute get status, Eq.trans ?_ (still rest [])⟩
        rw [advance, unsettled, if_neg (by decide), update, setRequest_self get]
        rfl
    | accepted =>
      dsimp only
      split
      · rename_i last
        exact ⟨_, _, .complete get status last, advance_eq rfl _⟩
      · rename_i notLast
        have := valid.inFlight_sentCount status
        have more : r.sentCount + 1 < r.fragments.length := by omega
        obtain ⟨f, next⟩ : ∃ f, r.fragments[r.sentCount + 1]? = some f :=
          ⟨_, List.getElem?_eq_getElem more⟩
        have ahead : ({ r with sentCount := r.sentCount + 1 } : WriteRequest).Valid c.layout :=
          valid.amend _ _ (fun h => by simp [status] at h) fun _ => more
        have going : ({ r with sentCount := r.sentCount + 1 } : WriteRequest).isSettled = false :=
          unsettled
        rw [WriteRequest.submitNext_eq ahead rfl next wf.space_eq, advance, going,
          if_neg (by decide)]
        refine ⟨_, _, .follow get status next, Eq.trans ?_ (still ?_ _)⟩
        · rfl
        · exact rest
  · have late : r.isInFlight = false := by simpa using flying
    rw [conclude_late get late]
    exact ⟨_, _, .note outcome get late, still rest _⟩

/-- An outcome is a path of moves, as long as it is that of the packet which is waited for. -/
lemma conclude_carried (wf : c.WellFormed) (rest : c.AtRest) (get : c.requests[k]? = some r)
    {index : Nat} (due : r.status = .inFlight → index = r.sentCount) (outcome : Outcome) :
    Turn.Carried c [.outcome k index outcome] (c.conclude k index outcome) := by
  obtain ⟨effects, c', move, same⟩ := conclude_eq wf rest get due outcome
  rw [same]
  exact .pumped wf move

/-! ## Sending -/

/-- Send a message, or the message that carries a control message. -/
def sendContent (c : Connection) (id : Nat) (maxPacketSize : Number)
    (content : Message ⊕ ControlMessage) (signal : Option String) (aborted : Bool) :
    Except SendError Turn :=
  match content with
  | .inl message => c.send id maxPacketSize message signal aborted
  | .inr message => c.sendControlMessage id maxPacketSize message signal aborted

/-- The message that carries a control message, unless a field does not fit. -/
def messageOf? : Message ⊕ ControlMessage → Option Message
  | .inl message => some message
  | .inr message =>
    match message.encode with
    | .ok payload => some ⟨.control, payload⟩
    | .error _ => none

/-- A new request as it joins the queue: it has been cancelled when its signal is aborted. -/
def joining (r : WriteRequest) (aborted : Bool) : WriteRequest :=
  if aborted then { r with status := .settled (.cancelled r.sentCount) } else r

/-- A request is cancelled before it is queued without losing its signal. -/
@[simp] lemma signal_joining (r : WriteRequest) (aborted : Bool) :
    (joining r aborted).signal = r.signal := by
  cases aborted <;> rfl

/-- A request whose signal is aborted has settled before it is queued. -/
lemma isSettled_joining (r : WriteRequest) {aborted : Bool} (refused : aborted = true) :
    (joining r aborted).isSettled = true := by
  subst refused
  rfl

/-- A connection with a new request behind its queue. -/
def withRequest (c : Connection) (r : WriteRequest) : Connection :=
  { c with requests := c.requests ++ [r], queue := c.queue ++ [c.requests.length] }

/-- A request joins the queue before the next one is started; one that is refused is cancelled
first. -/
lemma enqueue_eq_andThen (rest : c.AtRest) (idle : c.active ≠ some c.requests.length)
    (new : c.requests.length ∉ c.queue) (unsettled : r.isSettled = false) (aborted : Bool) :
    c.enqueue r aborted =
      (ask (if aborted then
          (r.settle (.cancelled r.sentCount)).2.flatMap (relay c.requests.length) else [])
        (c.withRequest (joining r aborted))).andThen pump := by
  cases aborted with
  | false => simp [enqueue, andThen_eq, stay, ask, withRequest, joining]
  | true =>
    have get :
        ({ c with requests := c.requests ++ [r] } : Connection).requests[c.requests.length]? =
        some r := by simp
    have apart : c.queue.filter (· ≠ c.requests.length) = c.queue := by
      rw [List.filter_eq_self]
      intro j mem
      exact decide_eq_true fun same => new (same ▸ mem)
    have refused : (setRequest { c with requests := c.requests ++ [r] } c.requests.length
          { r with status := .settled (.cancelled r.sentCount) }).vacate c.requests.length =
        { c with
          requests := c.requests ++ [{ r with status := .settled (.cancelled r.sentCount) }] } := by
      refine (vacate_of_idle (c := setRequest { c with requests := c.requests ++ [r] } _ _)
        idle).trans ?_
      simp only [setRequest, apart]
      simp
    simp only [enqueue, if_true, stay_andThen]
    rw [cancel_eq get, unsettled, if_neg (by decide),
      advance_eq_ask rfl (by rw [refused]; exact rest), refused, andThen_eq rfl, andThen_eq rfl]
    rfl

/-- A request that joins the queue of an open connection is one move. -/
lemma enqueue_eq (wf : c.WellFormed) (rest : c.AtRest) (opened : c.closed = false)
    (valid : r.Valid c.layout) (pending : r.status = .pending) (aborted : Bool) :
    ∃ effects, Move c [.send r.message] effects (c.withRequest (joining r aborted)) ∧
      c.enqueue r aborted = (ask effects (c.withRequest (joining r aborted))).andThen pump := by
  have idle : c.active ≠ some c.requests.length := fun active =>
    Nat.lt_irrefl _ (wf.active_lt_length active)
  have new : c.requests.length ∉ c.queue := fun mem => Nat.lt_irrefl _ (wf.lt_length mem)
  have same := enqueue_eq_andThen rest idle new (r.isSettled_eq pending) aborted
  refine ⟨_, ?_, same⟩
  cases aborted with
  | false => exact .join opened valid pending
  | true => exact .refuse opened valid pending

/-- A new request joins the queue, and what waits is started when the slot is free. -/
lemma enqueue_carried (wf : c.WellFormed) (rest : c.AtRest) (opened : c.closed = false)
    (valid : r.Valid c.layout) (pending : r.status = .pending) (aborted : Bool) :
    Turn.Carried c [.send r.message] (c.enqueue r aborted) := by
  obtain ⟨effects, move, same⟩ := enqueue_eq wf rest opened valid pending aborted
  rw [same]
  exact .pumped wf move

section Send

variable {id : Nat} {maxPacketSize : Number} {signal : Option String} {aborted : Bool} {turn : Turn}

/-- A message is sent as a new request on a connection that is open. -/
lemma send_eq {message : Message}
    (sent : c.send id maxPacketSize message signal aborted = .ok turn) :
    ∃ r, WriteRequest.create id c.layout maxPacketSize c.maxPacketCount signal message = .ok r ∧
      c.closed = false ∧ turn = c.enqueue r aborted := by
  unfold send at sent
  split at sent
  · cases sent
  · rename_i opened
    split at sent
    · rename_i r created
      cases sent
      exact ⟨r, created, by simpa using opened, rfl⟩
    · cases sent

/-- A message that is sent is a path of moves. -/
lemma send_carried (wf : c.WellFormed) (rest : c.AtRest) {message : Message}
    (sent : c.send id maxPacketSize message signal aborted = .ok turn) :
    Turn.Carried c [.send message] turn := by
  obtain ⟨r, created, opened, rfl⟩ := send_eq sent
  have carried := enqueue_carried wf rest opened (WriteRequest.create_valid created)
    (WriteRequest.create_pending created) aborted
  rwa [WriteRequest.create_message created] at carried

/-- A control message is sent as the bytes that carry it. -/
lemma sendControlMessage_eq {message : ControlMessage}
    (sent : c.sendControlMessage id maxPacketSize message signal aborted = .ok turn) :
    ∃ carrier, messageOf? (.inr message) = some carrier ∧
      c.send id maxPacketSize carrier signal aborted = .ok turn := by
  unfold sendControlMessage at sent
  split at sent
  · rename_i payload encoded
    exact ⟨⟨.control, payload⟩, by simp [messageOf?, encoded], sent⟩
  · cases sent

/-- What is sent is a message, or the one that carries a control message. -/
lemma sendContent_ok {content : Message ⊕ ControlMessage}
    (sent : c.sendContent id maxPacketSize content signal aborted = .ok turn) :
    ∃ message, messageOf? content = some message ∧
      c.send id maxPacketSize message signal aborted = .ok turn := by
  cases content with
  | inl message => exact ⟨message, rfl, sent⟩
  | inr message => exact sendControlMessage_eq sent

/-- A message of either sort that is sent is a path of moves. -/
lemma sendContent_carried (wf : c.WellFormed) (rest : c.AtRest)
    {content : Message ⊕ ControlMessage}
    (sent : c.sendContent id maxPacketSize content signal aborted = .ok turn) :
    Turn.Carried c ((messageOf? content).toList.map .send) turn := by
  obtain ⟨message, carries, sent⟩ := sendContent_ok sent
  rw [carries]
  exact send_carried wf rest sent

end Send

end PacketLink.Connection
