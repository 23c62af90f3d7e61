import PacketLink.Proofs.Connection.Calm
import PacketLink.Proofs.Network.Link

/-!
# Schedules of a link

A run of a link is any sequence of steps on the side of the sender and turns of the loop. `Joined`
holds at its start and is kept by every step (`Joined.run`): both connections run as paths of moves,
and the receiver has taken exactly what was delivered. What else a run keeps is shown in the same
way: `Kept` says that turns of the sender and bookkeeping keep it, `Passes` that deliveries do,
`Kept.apply` makes a step of that, and `Joined.run_induction` a run of steps.
-/

namespace PacketLink

namespace LinkStep

/-- What a step changes at the endpoint of the sender, when that is all it does. -/
def change? : LinkStep → Option (Endpoint Sender → Endpoint Sender)
  | .failNext message => some (·.failNext message)
  | .setMaxPacketSize size => some (·.setMaxPacketSize size)
  | .setDrop rule => some (·.setDrop rule)
  | .hold => some (·.hold)
  | _ => none

/-- Such a step leaves the submissions at the endpoint alone. -/
lemma change?_keeps {step : LinkStep} {f : Endpoint Sender → Endpoint Sender}
    (change : step.change? = some f) (e : Endpoint Sender) :
    (f e).awaiting = e.awaiting ∧ (f e).held = e.held ∧
      (step ≠ .hold → (f e).holding = e.holding) := by
  cases step with
  | hold =>
    cases change
    exact ⟨rfl, rfl, fun noHold => absurd rfl noHold⟩
  | failNext | setMaxPacketSize | setDrop =>
    cases change
    exact ⟨rfl, rfl, fun _ => rfl⟩
  | _ => cases change

end LinkStep

namespace Network

/-! ## Operations of the sender -/

/-- What the bookkeeping of the sender's operations keeps, and its turns unless they start the
counter over. -/
structure Kept (motive : Network → Prop) : Prop where
  books : ∀ {n : Network}, motive n → ∀ (requestCount : Nat) (handles : List Handle)
    (aborted : List String), motive { n with requestCount, handles, aborted }
  sent : ∀ {n : Network}, motive n → ∀ content, motive (n.observe (.sent 0 content))
  turn : ∀ {n : Network}, Linked n → motive n → ∀ {turn : Connection.Turn}, turn.Calm →
    motive (n.settleTurn 0 turn)

/-- The sender's operations leave the receiver what the deliveries have made of it. -/
lemma Wired.kept (s : Setting) : Kept (Wired s) where
  books := fun wired _ _ _ =>
    wired.of_linked ⟨wired.stations, wired.nodes, wired.delivers, wired.emits⟩ rfl rfl rfl rfl
  sent := fun wired _ => wired.observe rfl rfl rfl
  turn := fun _ wired turn _ => wired.settleTurn_sender turn

namespace Kept

variable {s : Setting} {motive : Network → Prop} {n : Network}

/-- What is kept by turns of the sender is kept when it begins to listen. -/
lemma startNode (kept : Kept motive) (linked : Linked n) (h : motive n) :
    motive (n.startNode 0).1 := by
  unfold Network.startNode
  split
  · split
    · exact kept.turn linked h (.start ‹_›)
    · exact h
  · exact h

/-- What is kept by turns of the sender is kept when it is closed. -/
lemma closeNode (kept : Kept motive) (linked : Linked n) (h : motive n) :
    motive (n.closeNode 0) := by
  unfold Network.closeNode
  split
  · exact kept.turn linked h (.close _)
  · exact h

/-- What is kept by turns of the sender is kept when one of its requests is cancelled. -/
lemma cancelRequest (kept : Kept motive) (linked : Linked n) (h : motive n) (k : Nat) :
    motive (n.cancelRequest (.node 0 k)).1 := by
  obtain ⟨x, get, _⟩ := linked.sender_get
  rw [cancelRequest_eq get]
  exact kept.turn linked h (.cancel x.connection k)

/-- What is kept by turns of the sender is kept when the signal of one request is aborted. -/
lemma abortOne (kept : Kept motive) (wired : Wired s n) (h : motive n) (signal : String)
    (handle : Handle) : motive (abortOne signal n handle) := by
  unfold Network.abortOne
  cases handle.owner with
  | bench bench => simpa [request?, wired.benches_eq] using h
  | node node k =>
    by_cases sender : node = 0
    · subst sender
      split
      · split
        · exact kept.cancelRequest wired.toLinked h k
        · exact h
      · exact h
    · rw [wired.request_eq_none sender]
      exact h

/-- What is kept by turns of the sender is kept when a signal is aborted. -/
lemma abort (kept : Kept motive) (wired : Wired s n) (h : motive n) (signal : String) :
    motive (n.abort signal) := by
  have each (handles : List Handle) {n : Network} (wired : Wired s n) (h : motive n) :
      motive (handles.foldl (Network.abortOne signal) n) := by
    induction handles generalizing n with
    | nil => exact h
    | cons handle handles ih =>
      -- one handle leaves the wiring as the next one needs it
      exact ih ((Wired.kept s).abortOne wired wired signal handle)
        (kept.abortOne wired h signal handle)
  exact each n.handles ((Wired.kept s).books wired n.requestCount n.handles _)
    (kept.books h n.requestCount n.handles _)

/-- What is kept by turns of the sender is kept when a message is sent, also when it is refused. -/
lemma send (kept : Kept motive) (wired : Wired s n) (h : motive n) (name : String)
    (signal : Option String) (content : Message ⊕ ControlMessage) :
    motive (n.send 0 name signal content).1 := by
  obtain ⟨x, get, _⟩ := wired.sender_get
  obtain same | ⟨requestCount, handles, turn, sent, same⟩ := send_cases get name signal content <;>
    rw [same]
  · exact h
  · obtain ⟨message, _, sent⟩ := Connection.sendContent_ok sent
    have calm : turn.Calm := .send sent
    have booked := (Wired.kept s).books wired requestCount handles n.aborted
    exact kept.turn ((Wired.kept s).sent booked content).toLinked
      (kept.sent (kept.books h requestCount handles n.aborted) content) calm

end Kept

/-! ## Holds -/

/-- What is kept at the near endpoint, by deliveries, and while work is left to later turns. -/
structure Passes (motive : Network → Prop) : Prop where
  modifyEndpoint : ∀ {n : Network} {f : Endpoint Sender → Endpoint Sender}, motive n →
    (∀ {s : Station}, n.stations[0]? = some s →
      (f s.endpoint).awaiting = s.endpoint.awaiting) → motive (n.modifyEndpoint 0 f)
  later : ∀ {n : Network} {task : Task}, motive n → task.station? = none → task.event? 1 = none →
    motive (n.later task)
  deliver : ∀ {n : Network}, motive n → ∀ submission, motive (n.deliver 0 submission).1

/-- Deliveries and changes of the near endpoint leave the receiver what it should be. -/
lemma Wired.passes (s : Setting) : Passes (Wired s) where
  modifyEndpoint := fun wired awaiting => wired.modifyNear fun get => ⟨rfl, awaiting get⟩
  later := fun wired station event => wired.later station event
  deliver := fun wired submission => (wired.deliver submission).1

namespace Passes

variable {motive : Network → Prop} {n : Network}

/-- What deliveries keep is kept when one submission is released. -/
lemma releaseOne (passes : Passes motive) (h : motive n) (submission : Submission Sender)
    (error : Option String) : motive (n.releaseOne 0 submission error).1 := by
  unfold Network.releaseOne
  cases error with
  | some message => exact passes.later h rfl rfl
  | none =>
    have delivered := passes.deliver h submission
    cases result : n.deliver 0 submission with
    | mk n' fault =>
      rw [result] at delivered
      cases fault with
      | none => exact passes.later delivered rfl rfl
      | some fault => exact delivered

/-- What deliveries keep is kept when the oldest submission that is held is released. -/
lemma release (passes : Passes motive) (h : motive n) (error : Option String) :
    motive (n.release 0 error).1 := by
  unfold Network.release
  cases get : n.stations[0]? with
  | none => exact h
  | some near =>
    dsimp only [Option.bind_some, Endpoint.takeHeld]
    cases near.endpoint.held with
    | nil => exact h
    | cons oldest rest =>
      have taken : motive (n.setEndpoint 0 { near.endpoint with held := rest }) :=
        passes.modifyEndpoint h fun get' => by cases get.symm.trans get'; rfl
      have released := passes.releaseOne taken oldest error
      dsimp only
      cases result : (n.setEndpoint 0 { near.endpoint with held := rest }).releaseOne 0 oldest
          error with
      | mk n' fault =>
        rw [result] at released
        cases fault with
        | none => exact released
        | some fault => exact released

/-- What deliveries keep is kept by releases one after the other. -/
lemma releaseAll (passes : Passes motive) (h : motive n) (count : Nat) :
    motive (releaseAll 0 count n).1 := by
  induction count generalizing n with
  | zero => exact h
  | succ count ih =>
    unfold Network.releaseAll
    have next := passes.release h none
    cases result : n.release 0 none with
    | mk n' answer =>
      rw [result] at next
      rcases answer with fault | released
      · exact next
      · cases released with
        | false => exact next
        | true => exact ih next

/-- What deliveries keep is kept when everything that is held is released. -/
lemma resume (passes : Passes motive) (h : motive n) : motive (n.resume 0).1 := by
  have stopped : motive (n.modifyEndpoint 0 (·.stopHolding)) :=
    passes.modifyEndpoint h fun _ => rfl
  unfold Network.resume
  dsimp only
  split
  · exact passes.releaseAll stopped _
  · exact stopped

end Passes

/-! ## Steps -/

/-- A reset is a turn of the sender. -/
lemma resetNode_eq {n : Network} {x : Node} (get : n.nodes[0]? = some x) :
    n.resetNode 0 = n.settleTurn 0 x.connection.reset := by
  simp only [Network.resetNode, get]

/-- Every step leaves the network sound. -/
lemma Sound.apply {layouts : Nat → Layout} {n : Network} (sound : Sound layouts [] n)
    (step : LinkStep) : Sound layouts [] (step.apply n) := by
  have changed {f : Endpoint Sender → Endpoint Sender} (change : step.change? = some f) :
      Sound layouts [] (n.modifyEndpoint 0 f) := by
    refine sound.modifyStation 0 fun station => ?_
    obtain ⟨awaiting, held, _⟩ := LinkStep.change?_keeps change station.endpoint
    simp only [Station.senders, awaiting, held]
  cases step with
  | send name signal content => exact sound.send 0 name signal content
  | cancel k => exact sound.cancelRequest 0 k
  | abort signal => exact sound.abort signal
  | start => exact sound.startNode 0
  | close => exact sound.closeNode 0
  | reset => exact sound.resetNode 0
  | release error => exact (sound.release 0 error).1
  | resume => exact sound.resume 0
  | turn =>
    cases turned : n.turn with
    | none => simpa [LinkStep.apply, turned] using sound
    | some n' => simpa [LinkStep.apply, turned] using sound.turn turned
  | _ => exact changed rfl

end Network

open Network

/-! ## Runs -/

/-- Two connections on a link between two operations. -/
structure Joined (s : Setting) (n : Network) : Prop where
  wired : Wired s n
  sound : Sound (fun _ => s.layout) [] n

namespace Joined

variable {s : Setting}

/-- The network in which the receiver is still to be started. -/
lemma sound_idle (s : Setting) :
    Sound (fun _ => s.layout) []
      (((Network.empty.addLink s.maxPacketSize).addNode 0 (s.sender.connection s.layout)
        []).addNode 1 (s.receiver.connection s.layout) []) := by
  have new (limits : Limits) : (limits.connection s.layout).Steady s.layout [] [] :=
    ⟨fun _ => rfl, ⟨limits.maxPacketCount, limits.maxMessageSize, .rest _⟩,
      fun _ _ mem => by cases mem⟩
  refine ⟨⟨rfl, rfl, rfl, rfl, fun {node x} get => ?_, fun _ => .nil⟩, fun {node x} get => ?_⟩
  · rcases node with _ | _ | node <;> cases get
    · exact Nat.zero_lt_two
    · exact Nat.one_lt_two
  · rcases node with _ | _ | node <;> cases get
    · exact new s.sender
    · exact new s.receiver

/-- The link is joined when the receiver has started. -/
lemma network (s : Setting) : Joined s s.network := by
  have linked : Linked s.network :=
    ⟨⟨_, _, rfl, rfl, rfl, rfl, rfl⟩, ⟨_, _, rfl, rfl, rfl, rfl, rfl⟩, rfl, rfl⟩
  exact ⟨⟨linked, ⟨_, rfl, rfl⟩, rfl⟩, (sound_idle s).startNode 1⟩

end Joined

/-- What the sender's operations keep is kept by every step, when it is kept at the endpoint and by
the turns of the loop. -/
lemma Network.Kept.apply {s : Setting} {motive : Network → Prop} {n : Network} {step : LinkStep}
    (kept : Kept motive) (joined : Joined s n) (h : motive n)
    (reset : step = .reset → ∀ turn, motive (n.settleTurn 0 turn))
    (change : ∀ {f}, step.change? = some f → motive (n.modifyEndpoint 0 f))
    (release : ∀ error, motive (n.release 0 error).1) (resume : motive (n.resume 0).1)
    (turn : ∀ {n'}, Turned n n' → motive n') : motive (step.apply n) := by
  have ⟨wired, sound⟩ := joined
  cases step with
  | send name signal content => exact kept.send wired h name signal content
  | cancel k => exact kept.cancelRequest wired.toLinked h k
  | abort signal => exact kept.abort wired h signal
  | start => exact kept.startNode wired.toLinked h
  | close => exact kept.closeNode wired.toLinked h
  | reset =>
    obtain ⟨x, get, _⟩ := wired.sender_get
    rw [LinkStep.apply, resetNode_eq get]
    exact reset rfl _
  | release error => exact release error
  | resume => exact resume
  | turn =>
    cases turned : n.turn with
    | none => simpa [LinkStep.apply, turned] using h
    | some n' => simpa [LinkStep.apply, turned] using turn (wired.turned sound turned)
  | _ => exact change rfl

namespace Joined

variable {s : Setting} {n : Network}

/-- Every step leaves the two connections joined. -/
lemma apply (joined : Joined s n) (step : LinkStep) : Joined s (step.apply n) := by
  have ⟨wired, sound⟩ := joined
  refine ⟨(Wired.kept s).apply joined wired (fun _ => wired.settleTurn_sender) (fun change => ?_)
    ((Wired.passes s).release wired) ((Wired.passes s).resume wired) wired.turn, sound.apply step⟩
  exact wired.modifyNear fun _ => ⟨rfl, (LinkStep.change?_keeps change _).1⟩

/-- What holds at the start and is kept by every step of a kind holds after a run of such steps. -/
theorem run_induction (s : Setting) {motive : Network → Prop} {allowed : LinkStep → Prop}
    (start : motive s.network)
    (step : ∀ {n step}, Joined s n → allowed step → motive n → motive (step.apply n))
    {steps : List LinkStep} (all : ∀ step ∈ steps, allowed step) :
    Joined s (s.run steps) ∧ motive (s.run steps) := by
  have fold {n : Network} (joined : Joined s n) (h : motive n) :
      Joined s (steps.foldl LinkStep.apply n) ∧ motive (steps.foldl LinkStep.apply n) := by
    induction steps generalizing n with
    | nil => exact ⟨joined, h⟩
    | cons next steps ih =>
      obtain ⟨first, rest⟩ := List.forall_mem_cons.mp all
      exact ih rest (joined.apply next) (step joined first h)
  exact fold (network s) start

/-- After any steps the two connections are joined. -/
lemma run (s : Setting) (steps : List LinkStep) : Joined s (s.run steps) :=
  (run_induction s (motive := fun _ => True) trivial
    (fun _ _ _ => trivial) fun _ _ => trivial).1

/-- The requests of the sender, and the path of moves on which it has come to them. -/
lemma sender (joined : Joined s n) : ∃ c maxPacketCount maxMessageSize,
    n.requestsAt 0 = c.requests ∧
      Connection.Path (.new s.layout maxPacketCount maxMessageSize) (n.inputs 0) (n.asked 0) c := by
  obtain ⟨x, get, _⟩ := joined.wired.sender_get
  obtain ⟨maxPacketCount, maxMessageSize, path⟩ := (joined.sound.steady get).path
  exact ⟨x.connection, maxPacketCount, maxMessageSize, by simp [requestsAt, get], path⟩

/-- The receiver has delivered, or is to deliver on a later turn, what it makes of the packets that
were delivered to it. -/
lemma receivedAt_append (joined : Joined s n) :
    n.receivedAt 1 ++ (n.tasks.filterMap (Task.event? 1)).filterMap Event.received? =
      Connection.received (s.started.takeAll ((n.deliveries 0).map (·.data))).2 := by
  obtain ⟨x, _, same⟩ := joined.wired.receiver
  have trace : n.asked 1 = (s.receiverAfter (n.deliveries 0)).2 := congrArg Prod.snd same
  rw [receivedAt, ← List.filterMap_append, joined.wired.emits, trace]
  rfl

end Joined

/-- A link that takes packets of two bytes, with counters of one bit. -/
def Setting.narrow : Setting where
  layout := { Layout.default with
    counterBits := 1
    counterBits_pos := by decide
    flags_fit := by decide }
  maxPacketSize := 2
  sender := ⟨100, 100⟩
  receiver := ⟨100, 100⟩

end PacketLink
