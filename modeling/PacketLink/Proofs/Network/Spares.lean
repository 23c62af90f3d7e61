import PacketLink.Proofs.Link.Queues
import PacketLink.Proofs.Network.Handlers

/-!
# Operations that spare the submissions of callers

`Network.traffic` follows the submissions that callers have made at a station. Most operations have
nothing to do with them: requests and connections submit on their own account, listeners hear events
and send, hooks start and cancel requests. `Spares` says so, with one lemma for each operation.
-/

namespace PacketLink

/-- The number of a caller's submission. -/
def Sender.ordinal? : Sender → Option Nat
  | .caller _ ordinal => some ordinal
  | _ => none

/-- The submission that went from `station` to its peer. -/
def Passage.delivered? (station : Nat) : Passage → Option (Submission Sender)
  | .delivered other submission => if other = station then some submission else none
  | _ => none

namespace Endpoint

/-- The submissions of callers that the endpoint has. -/
def queues (e : Endpoint Sender) : Queues :=
  ⟨e.holding, e.held.filterMap (·.sender.ordinal?), e.awaiting.filterMap (·.sender.ordinal?)⟩

/-- The queues depend on nothing else of an endpoint. -/
lemma queues_congr {e e' : Endpoint Sender} (holding : e'.holding = e.holding)
    (held : e'.held = e.held) (awaiting : e'.awaiting = e.awaiting) : e'.queues = e.queues := by
  rw [queues, holding, held, awaiting, queues]

/-- Where the submission of a caller goes. -/
lemma queues_submit (e : Endpoint Sender) (submission : Submission Sender) :
    (e.submit submission).1.queues = e.queues ∨
    (e.holding = true ∧ (e.submit submission).1.queues =
      { e.queues with held := e.queues.held ++ submission.sender.ordinal?.toList }) ∨
    (e.holding = false ∧ (e.submit submission).1.queues =
      { e.queues with awaiting := e.queues.awaiting ++ submission.sender.ordinal?.toList }) := by
  have one : [submission].filterMap (·.sender.ordinal?) = submission.sender.ordinal?.toList := by
    cases ordinal : submission.sender.ordinal? <;> simp [ordinal]
  have same := e.holding_submit submission
  obtain ⟨e', _, submitted, awaiting, held⟩ | ⟨holding, e', submitted, awaiting, held⟩ |
    ⟨holding, e', submitted, awaiting, held⟩ := e.submit_cases submission
  · rw [submitted] at same ⊢
    exact .inl (queues_congr same held awaiting)
  · rw [submitted] at same ⊢
    refine .inr (.inl ⟨holding, ?_⟩)
    dsimp only at same ⊢
    rw [queues, same, held, awaiting, List.filterMap_append, one, queues]
  · rw [submitted] at same ⊢
    refine .inr (.inr ⟨holding, ?_⟩)
    dsimp only at same ⊢
    rw [queues, same, held, awaiting, List.filterMap_append, one, queues]

/-- A submission that no caller makes is not among those of callers. -/
lemma queues_submit_of_none (e : Endpoint Sender) {submission : Submission Sender}
    (other : submission.sender.ordinal? = none) : (e.submit submission).1.queues = e.queues := by
  obtain same | ⟨_, same⟩ | ⟨_, same⟩ := e.queues_submit submission
  · exact same
  · rw [same, other, Option.toList_none, List.append_nil]
  · rw [same, other, Option.toList_none, List.append_nil]

end Endpoint

namespace Network

/-- The submissions of callers at the endpoint of a station. -/
def queues (n : Network) (station : Nat) : Queues :=
  ((n.endpoint? station).map (·.queues)).getD ⟨false, [], []⟩

/-- The submissions of callers that went from a station to its peer, in order. -/
def delivered (n : Network) (station : Nat) : List Nat :=
  (n.deliveries station).filterMap (·.sender.ordinal?)

/-- The submissions of callers on their way from a station. -/
def traffic (n : Network) (station : Nat) : Traffic :=
  { n.queues station with delivered := n.delivered station, next := n.callerCount }

/-- Nothing has become of a caller's submission, and nothing was seen of a packet. -/
structure Spares (n n' : Network) : Prop where
  queues_eq : ∀ station, n'.queues station = n.queues station
  callerCount_eq : n'.callerCount = n.callerCount
  passages_eq : n'.lookBack Observation.passage? = n.lookBack Observation.passage?

variable {n n' n'' : Network} {station : Nat} {s : Station}

section Projections

/-- The packets that were delivered from a station are among those that were seen on their way. -/
lemma deliveries_eq (n : Network) (station : Nat) :
    n.deliveries station =
      (n.lookBack Observation.passage?).filterMap (Passage.delivered? station) := by
  rw [deliveries, lookBack, lookBack, List.filterMap_filterMap]
  congr 1
  funext o
  cases o <;> rfl

/-- The endpoint of a station that is known. -/
lemma endpoint?_of_get (get : n.stations[station]? = some s) :
    n.endpoint? station = some s.endpoint := by
  rw [endpoint?, get, Option.map_some]

end Projections

namespace Spares

/-- Nothing spares everything. -/
lemma refl (n : Network) : Spares n n := ⟨fun _ => rfl, rfl, rfl⟩

/-- What two steps leave alone is left alone by both. -/
lemma trans (first : Spares n n') (second : Spares n' n'') : Spares n n'' :=
  ⟨fun station => (second.queues_eq station).trans (first.queues_eq station),
    second.callerCount_eq.trans first.callerCount_eq, second.passages_eq.trans first.passages_eq⟩

/-- What leaves the queues alone leaves the traffic of callers as it is. -/
lemma traffic_eq (spares : Spares n n') (station : Nat) :
    n'.traffic station = n.traffic station := by
  simp only [traffic, delivered, deliveries_eq, spares.queues_eq, spares.callerCount_eq,
    spares.passages_eq]

/-- Where nothing is seen of packets the queues are left alone. -/
lemma of_still (still : Still [] n n') : Spares n n' :=
  ⟨fun station => by rw [queues, still.endpoint_eq, queues], still.callerCount_eq,
    still.passages_eq.trans (List.append_nil _)⟩

/-- What is noticed of something else leaves the queues alone. -/
lemma observe (n : Network) {o : Observation} (unseen : o.passage? = none) :
    Spares n (n.observe o) :=
  ⟨fun _ => rfl, rfl, lookBack_unseen _ unseen⟩

/-- A task that is left for later leaves the queues alone. -/
lemma later (n : Network) (task : Task) : Spares n (n.later task) := ⟨fun _ => rfl, rfl, rfl⟩

/-- A change in an endpoint that keeps its queues leaves them alone. -/
lemma modifyEndpoint (n : Network) (station : Nat) {f : Endpoint Sender → Endpoint Sender}
    (same : ∀ e ∈ n.endpoint? station, (f e).queues = e.queues) :
    Spares n (n.modifyEndpoint station f) := by
  refine ⟨fun other => ?_, rfl, rfl⟩
  by_cases here : station = other
  · subst here
    have changed : (n.endpoint? station).map ((·.queues) ∘ f) =
        (n.endpoint? station).map (·.queues) := Option.map_congr same
    rw [queues, endpoint?_modifyEndpoint, Option.map_map, changed, queues]
  · rw [queues, endpoint?_modifyEndpoint_of_ne _ here, queues]

/-- Records of a request leave the queues alone. -/
lemma logWrite (n : Network) (owner : Owner) (entry : WriteLog) :
    Spares n (n.logWrite owner entry) := by
  unfold Network.logWrite
  split
  · exact observe n rfl
  · exact refl n

/-- A submission that no caller makes. -/
lemma submit (n : Network) (station : Nat) (data : Bytes) {sender : Sender}
    (other : sender.ordinal? = none) : Spares n (n.submit station data sender) := by
  unfold Network.submit
  cases get : n.stations[station]? with
  | none => exact refl n
  | some s =>
    have same : ∀ e ∈ n.endpoint? station,
        (s.endpoint.submit ⟨data, sender⟩).1.queues = e.queues := by
      intro e there
      rw [endpoint?_of_get get] at there
      exact Option.some.inj there ▸ s.endpoint.queues_submit_of_none other
    have placed := modifyEndpoint n station same
    dsimp only
    split
    · exact placed.trans (later ..)
    · exact placed
    · exact placed.trans (later ..)

/-- Putting a request in its place leaves the queues alone. -/
lemma setRequest (n : Network) (owner : Owner) (request : WriteRequest) :
    Spares n (n.setRequest owner request) := by
  cases owner <;> exact ⟨fun _ => rfl, rfl, rfl⟩

/-- What a connection submits is not among the submissions of callers. -/
lemma perform (n : Network) (node : Nat) (effect : Connection.Effect) :
    Spares n (perform node n effect) := by
  unfold Network.perform
  cases n.nodes[node]? with
  | none => exact refl n
  | some x =>
    have asked : Spares n (n.observe (.asked node effect)) := observe n rfl
    cases effect with
    | subscribe => exact asked.trans (of_still (.modifyHandlers _ x.station (·.add _)))
    | unsubscribe => exact asked.trans (of_still (.modifyHandlers _ x.station (·.remove _)))
    | log => exact asked.trans (observe _ rfl)
    | writeLog => exact asked.trans (logWrite ..)
    | submit => exact asked.trans (submit _ _ _ rfl)
    | resolve => exact asked.trans (later ..)
    | emit => exact asked.trans (later ..)

/-- What a connection asks for has to do with no caller. -/
lemma settleTurn (n : Network) (node : Nat) (turn : Connection.Turn) :
    Spares n (n.settleTurn node turn) :=
  settleTurn_induction n node turn (motive := fun _ n' => Spares n n')
    ⟨fun _ => rfl, rfl, rfl⟩ fun _ spares => spares.trans (perform ..)

/-- A message on a connection is no submission of a caller. -/
lemma send (n : Network) (node : Nat) (name : String) (signal : Option String)
    (content : Message ⊕ ControlMessage) : Spares n (n.send node name signal content).1 := by
  cases get : n.nodes[node]? with
  | none =>
    simp only [Network.send, get]
    exact refl n
  | some x =>
    obtain same | ⟨requestCount, handles, turn, _, same⟩ := send_cases get name signal content <;>
      rw [same]
    · exact refl n
    · have booked : Spares n { n with requestCount, handles } := ⟨fun _ => rfl, rfl, rfl⟩
      exact (booked.trans (observe _ rfl)).trans (settleTurn ..)

/-! ### Listeners -/

/-- A listener submits nothing as a caller. -/
lemma tell (n : Network) (node : Nat) (event : Event) (listener : Listener) :
    Spares n (n.tell node event listener).1 := by
  unfold Network.tell
  split
  · exact refl n
  · dsimp only
    split
    · split
      · exact ⟨fun _ => rfl, rfl, rfl⟩
      · split
        · exact refl n
        · rename_i heard _
          have told : Spares n (n.observe (.heard node heard.name event)) := observe n rfl
          split
          · exact told
          · exact told
          · exact (told.trans (send ..)).trans (observe _ rfl)
    · exact refl n

/-- Nor do all the listeners of an event. -/
lemma tellAll (n : Network) (node : Nat) (event : Event) (listeners : List Listener) :
    Spares n (n.tellAll node event listeners).1 := by
  unfold Network.tellAll
  generalize (none : Option Fault) = failed
  induction listeners generalizing n failed with
  | nil => exact refl n
  | cons listener listeners ih =>
    rw [List.foldl_cons]
    exact (tell n node event listener).trans (ih ..)

/-! ### Requests started by hand -/

/-- Cancelling a request takes nothing out of the queues. -/
lemma cancelOwned (n : Network) (owner : Owner) : Spares n (n.cancelOwned owner).1 := by
  unfold Network.cancelOwned
  split
  · split
    · dsimp only
      split <;> exact settleTurn n _ _
    · exact refl n
  · split
    · exact ⟨fun _ => rfl, rfl, rfl⟩
    · exact refl n

/-- A request that is moved on by hand leaves the queues alone. -/
lemma stepHand (n : Network) (hand : Hand) (turn : WriteRequest.Turn) :
    Spares n (n.stepHand hand turn).1 :=
  (setRequest n hand.owner turn.request).trans ⟨fun _ => rfl, rfl, rfl⟩

/-- A request that is started by hand submits to its caller, not to an endpoint. -/
lemma startOwned (n : Network) (owner : Owner) (place : Nat) (modes : List SubmitMode) :
    Spares n (n.startOwned owner place modes).1 := by
  unfold Network.startOwned
  split
  · split
    · refine trans ?_ (stepHand _ _ _)
      exact ⟨fun _ => rfl, rfl, rfl⟩
    · exact refl n
  · exact refl n

/-- Noting what a cancellation came to leaves the queues alone. -/
lemma cancelNoting (n : Network) (noted owner : Owner) :
    Spares n (n.cancelNoting noted owner).1 := cancelOwned n owner

/-- A hook leaves the queues alone. -/
lemma runHook (n : Network) (bench : Nat) (hook : Hook) : Spares n (n.runHook bench hook).1 := by
  unfold Network.runHook
  cases hook with
  | cancel name =>
    dsimp only
    split
    · exact cancelNoting n _ _
    · exact refl n
  | start name counter modes =>
    dsimp only
    split
    · exact startOwned n _ _ _
    · exact refl n

/-- Answering a submission by hand leaves the queues alone. -/
lemma answerSubmission (n : Network) (owner : Owner) (index : Nat) (mode : SubmitMode) :
    Spares n (n.answerSubmission owner index mode).1 := by
  unfold Network.answerSubmission
  cases mode with
  | manual => exact ⟨fun _ => rfl, rfl, rfl⟩
  | accept | reject => exact refl n
  | cancel => exact cancelNoting n owner owner
  | restart =>
    dsimp only
    split <;> exact refl n

/-- A packet that a request hands over by hand comes to no endpoint. -/
lemma submitByHand (n : Network) (owner : Owner) (index : Nat) (packet : Bytes) :
    Spares n (n.submitByHand owner index packet).1 := by
  unfold Network.submitByHand
  split
  · have called : Spares n (n.observe (.called owner packet)) := observe n rfl
    refine trans (trans called ?_) (answerSubmission _ _ _ _)
    exact ⟨fun _ => rfl, rfl, rfl⟩
  · exact refl n

/-- The settlement of a request that was started by hand leaves the queues alone. -/
lemma settleOwned (n : Network) (owner : Owner) (result : WriteResult) :
    Spares n (n.settleOwned owner result).1 := by
  unfold Network.settleOwned
  cases owner with
  | node node k =>
    dsimp only
    split
    · exact settleTurn ..
    · exact refl n
  | bench bench =>
    dsimp only
    split
    · have settled (o : Observation) (unseen : o.passage? = none) :
          Spares n ((n.later (.resolve (.bench bench) result)).observe o) :=
        (later ..).trans (observe _ unseen)
      split
      · exact (settled _ rfl).trans (runHook ..)
      · exact settled _ rfl
    · exact refl n

/-- Every errand leaves the queues alone. -/
lemma run (n : Network) (errand : Errand) : Spares n (n.run errand).1 := by
  cases errand with
  | note owner result => exact observe n rfl
  | answer owner index outcome => exact later ..
  | effect owner effect =>
    cases effect with
    | log entry => exact logWrite ..
    | submit index packet => exact submitByHand ..
    | settle result => exact settleOwned ..

/-- A whole agenda of errands leaves the queues alone. -/
lemma finish (n : Network) (agenda : List Errand) : Spares n (n.finish agenda) := by
  unfold Network.finish
  generalize n.errandLimit agenda = limit
  induction limit generalizing n agenda with
  | zero => cases agenda <;> exact refl n
  | succ limit ih =>
    cases agenda with
    | nil => exact refl n
    | cons errand agenda => exact (run n errand).trans (ih ..)

/-- Cancelling a request leaves the queues alone, whoever keeps it. -/
lemma cancelRequest (n : Network) (owner : Owner) : Spares n (n.cancelRequest owner).1 :=
  (cancelOwned n owner).trans (finish ..)

/-- Aborting a signal leaves the queues alone. -/
lemma abort (n : Network) (signal : String) : Spares n (n.abort signal) := by
  have one (n : Network) (handle : Handle) : Spares n (abortOne signal n handle) := by
    unfold abortOne
    split
    · split
      · exact cancelRequest ..
      · exact refl n
    · exact refl n
  have all (handles : List Handle) (n : Network) :
      Spares n (handles.foldl (abortOne signal) n) := by
    induction handles generalizing n with
    | nil => exact refl n
    | cons handle handles ih => exact (one n handle).trans (ih _)
  refine trans ?_ (all n.handles _)
  exact ⟨fun _ => rfl, rfl, rfl⟩

/-- Passing on an outcome leaves the queues alone. -/
lemma conclude (n : Network) (outcome : Outcome) (sender : Sender) :
    Spares n (n.conclude outcome sender) := by
  unfold Network.conclude
  cases sender with
  | caller => exact observe n rfl
  | request node k index =>
    dsimp only
    split
    · exact (observe n rfl).trans (settleTurn ..)
    · exact refl n
  | hand owner index =>
    dsimp only
    split
    · split
      · exact (stepHand ..).trans (finish ..)
      · exact refl n
    · exact refl n

/-! ### Operations -/

/-- A station may change in everything but its endpoint. -/
lemma modifyStation (n : Network) (station : Nat) {f : Station → Station}
    (same : ∀ s, (f s).endpoint = s.endpoint) : Spares n (n.modifyStation station f) := by
  refine ⟨fun other => ?_, rfl, rfl⟩
  have kept : (n.modifyStation station f).endpoint? other = n.endpoint? other := by
    simp only [endpoint?, Network.modifyStation, List.getElem?_modify]
    cases n.stations[other]? with
    | none => rfl
    | some s => by_cases here : station = other <;> simp [here, same]
  rw [queues, kept, queues]

/-- A new endpoint has nothing. -/
lemma addStation (n : Network) (maxPacketSize : Number) (peer : Option Nat) :
    Spares n (n.addStation maxPacketSize peer) := by
  have added : Spares n
      { n with stations := n.stations ++ [⟨.new maxPacketSize, peer, .empty⟩] } := by
    refine ⟨fun other => ?_, rfl, rfl⟩
    simp only [queues, endpoint?, List.getElem?_append]
    split
    · rfl
    · rename_i far
      rw [List.getElem?_eq_none (Nat.le_of_not_lt far)]
      cases other - n.stations.length <;> rfl
  unfold Network.addStation
  cases peer with
  | none => exact added
  | some other => exact added.trans (modifyStation _ other fun _ => rfl)

/-- A new link has queues of its own, which are empty. -/
lemma addLink (n : Network) (maxPacketSize : Number) : Spares n (n.addLink maxPacketSize) :=
  (addStation n maxPacketSize none).trans (addStation _ maxPacketSize (some n.stations.length))

/-- A request on a bench leaves the queues alone. -/
lemma addBench (n : Network) (name : String) (message : Message) (options : BenchOptions) :
    Spares n (n.addBench name message options).1 := by
  unfold Network.addBench
  dsimp only
  split
  · exact refl n
  · split
    · refine trans (trans ?_ (cancelOwned _ _)) (finish ..)
      exact ⟨fun _ => rfl, rfl, rfl⟩
    · exact ⟨fun _ => rfl, rfl, rfl⟩

/-- Starting a request by hand leaves the queues alone. -/
lemma startRequest (n : Network) (owner : Owner) (place : Nat) (modes : List SubmitMode) :
    Spares n (n.startRequest owner place modes).1 :=
  (startOwned n owner place modes).trans (finish ..)

/-- An answer by hand leaves the queues alone. -/
lemma answerOldest (n : Network) (owner : Owner) (outcome : Outcome) :
    Spares n (n.answerOldest owner outcome).1 := by
  unfold Network.answerOldest
  split
  · exact ⟨fun _ => rfl, rfl, rfl⟩
  · exact refl n

/-- A connection that begins to listen leaves the queues alone. -/
lemma startNode (n : Network) (node : Nat) : Spares n (n.startNode node).1 := by
  unfold Network.startNode
  split
  · split
    · exact settleTurn ..
    · exact refl n
  · exact refl n

/-- A connection that is closed leaves the queues alone. -/
lemma closeNode (n : Network) (node : Nat) : Spares n (n.closeNode node) := by
  unfold Network.closeNode
  split
  · exact settleTurn ..
  · exact refl n

/-- A connection that is reset leaves the queues alone. -/
lemma resetNode (n : Network) (node : Nat) : Spares n (n.resetNode node) := by
  unfold Network.resetNode
  split
  · exact settleTurn ..
  · exact refl n

/-- Removing a listener leaves the queues alone. -/
lemma unlisten (n : Network) (name : String) : Spares n (n.unlisten name) := by
  unfold Network.unlisten
  split
  · split
    · exact ⟨fun _ => rfl, rfl, rfl⟩
    · exact refl n
  · exact refl n

end Spares

end Network

end PacketLink
