import PacketLink.Network.Operations
import PacketLink.Proofs.Connection.Reachable
import PacketLink.Proofs.Network.Sound

/-!
# Connections of a network

Whatever happens in a network, to its connections, to requests started by hand and to those on a
bench, every connection stays one that anybody could come to have. `Reached` says so of the nodes,
with one lemma for each operation; all but a few of them come down to turns of connections
(`Reached.settleTurn`).
-/

namespace PacketLink.Network

/-- The connections are ones that anybody could come to have. -/
structure Reached (nodes : List Node) : Prop where
  reachable : ∀ {node : Nat} {x : Node}, nodes[node]? = some x → x.connection.Reachable

namespace Reached

variable {n : Network}

/-- A node may change as long as its connection stays reachable. -/
lemma modifyNode (reached : Reached n.nodes) (node : Nat) {f : Node → Node}
    (keeps : ∀ x, n.nodes[node]? = some x → (f x).connection.Reachable) :
    Reached (n.modifyNode node f).nodes := by
  refine ⟨fun {other x'} get => ?_⟩
  rw [Network.modifyNode, List.getElem?_modify] at get
  obtain ⟨x, before, same⟩ := Option.map_eq_some_iff.mp get
  split at same
  · rename_i here
    rw [← same]
    exact keeps x (here ▸ before)
  · rw [← same]
    exact reached.reachable before

/-- Everything about a node but its connection may change at will. -/
lemma modifyNode_of_same (reached : Reached n.nodes) (node : Nat) {f : Node → Node}
    (same : ∀ x, (f x).connection = x.connection) : Reached (n.modifyNode node f).nodes :=
  reached.modifyNode node fun x get => (same x).symm ▸ reached.reachable get

/-- A turn may leave any connection that is reachable. -/
lemma settleTurn (reached : Reached n.nodes) (node : Nat) {turn : Connection.Turn}
    (reachable : turn.connection.Reachable) : Reached (n.settleTurn node turn).nodes := by
  rw [nodes_settleTurn]
  exact reached.modifyNode node fun _ _ => reachable

/-! ### Sending and hearing events -/

/-- Sending a message leaves every connection reachable, also when it is refused. -/
lemma send (reached : Reached n.nodes) (node : Nat) (name : String) (signal : Option String)
    (content : Message ⊕ ControlMessage) : Reached (n.send node name signal content).1.nodes := by
  cases get : n.nodes[node]? with
  | none =>
    simp only [Network.send, get]
    exact reached
  | some x =>
    obtain same | ⟨requestCount, handles, turn, sent, same⟩ :=
      send_cases get name signal content <;> rw [same]
    · exact reached
    · refine settleTurn ?_ node (.send (reached.reachable get) sent)
      exact reached

/-- A listener may only add a message, as it replies. -/
lemma tell (reached : Reached n.nodes) (node : Nat) (event : Event) (listener : Listener) :
    Reached (n.tell node event listener).1.nodes := by
  unfold Network.tell
  split
  · exact reached
  · split
    · split
      · exact reached.modifyNode_of_same node fun _ => rfl
      · split
        · exact reached
        · dsimp only
          split
          · exact reached
          · exact reached
          · refine send ?_ node _ none _
            exact reached
    · exact reached

/-- All listeners of an event leave every connection reachable. -/
lemma tellAll (reached : Reached n.nodes) (node : Nat) (event : Event)
    (listeners : List Listener) : Reached (n.tellAll node event listeners).1.nodes := by
  unfold Network.tellAll
  generalize (none : Option Fault) = failed
  induction listeners generalizing n failed with
  | nil => exact reached
  | cons listener listeners ih =>
    rw [List.foldl_cons]
    exact ih (reached.tell node event listener) _

/-! ### Requests started by hand -/

/-- What is done by hand to the request that `owner` keeps, if it is one of a connection. -/
lemma setRequest (reached : Reached n.nodes) {owner : Owner} {r s : WriteRequest}
    (get : n.request? owner = some r)
    (keeps : ∀ {c : Connection} {k : Nat}, c.Reachable → c.requests[k]? = some r →
      (c.setRequest k s).Reachable) : Reached (n.setRequest owner s).nodes := by
  cases owner with
  | node node k =>
    refine reached.modifyNode node fun x there => ?_
    rw [request?, there] at get
    exact keeps (reached.reachable there) get
  | bench bench => exact reached

/-- A request that is moved on by hand leaves its connection reachable, if that move does. -/
lemma stepHand (reached : Reached n.nodes) {hand : Hand} {r : WriteRequest}
    {turn : WriteRequest.Turn} (get : n.request? hand.owner = some r)
    (keeps : ∀ {c : Connection} {k : Nat}, c.Reachable → c.requests[k]? = some r →
      (c.setRequest k turn.request).Reachable) : Reached (n.stepHand hand turn).1.nodes :=
  reached.setRequest get keeps

/-- Cancelling a request by hand or through its connection leaves every connection reachable. -/
lemma cancelOwned (reached : Reached n.nodes) (owner : Owner) :
    Reached (n.cancelOwned owner).1.nodes := by
  unfold Network.cancelOwned
  split
  · rename_i node k
    split
    · rename_i x get
      have cancelled := reached.settleTurn node (.cancel (reached.reachable get) k)
      dsimp only
      split <;> exact cancelled
    · exact reached
  · split
    · exact reached
    · exact reached

/-- Noting what a cancellation came to changes no connection. -/
lemma cancelNoting (reached : Reached n.nodes) (noted owner : Owner) :
    Reached (n.cancelNoting noted owner).1.nodes := reached.cancelOwned owner

/-- Starting a request by hand leaves every connection reachable. -/
lemma startOwned (reached : Reached n.nodes) (owner : Owner) (place : Nat)
    (modes : List SubmitMode) : Reached (n.startOwned owner place modes).1.nodes := by
  unfold Network.startOwned
  split
  · rename_i r counter get _
    split
    · rename_i turn started
      refine stepHand (r := r) ?_ ?_ fun reachable here => .startByHand reachable here started
      · exact reached
      · exact get
    · exact reached
  · exact reached

/-- A hook cancels or starts a request. -/
lemma runHook (reached : Reached n.nodes) (bench : Nat) (hook : Hook) :
    Reached (n.runHook bench hook).1.nodes := by
  unfold Network.runHook
  cases hook with
  | cancel name =>
    dsimp only
    split
    · exact reached.cancelNoting _ _
    · exact reached
  | start name counter modes =>
    dsimp only
    split
    · exact reached.startOwned _ _ _
    · exact reached

/-- Answering a submission by hand cancels the request or starts it again, if anything. -/
lemma answerSubmission (reached : Reached n.nodes) (owner : Owner) (index : Nat)
    (mode : SubmitMode) : Reached (n.answerSubmission owner index mode).1.nodes := by
  unfold Network.answerSubmission
  cases mode with
  | manual | accept | reject => exact reached
  | cancel => exact reached.cancelNoting owner owner
  | restart =>
    dsimp only
    split <;> exact reached

/-- A packet that a request hands over by hand is answered at once or later. -/
lemma submitByHand (reached : Reached n.nodes) (owner : Owner) (index : Nat) (packet : Bytes) :
    Reached (n.submitByHand owner index packet).1.nodes := by
  unfold Network.submitByHand
  split
  · refine answerSubmission ?_ _ _ _
    exact reached
  · exact reached

/-- The settlement of a request that was started by hand runs its hook or goes to its connection. -/
lemma settleOwned (reached : Reached n.nodes) (owner : Owner) (result : WriteResult) :
    Reached (n.settleOwned owner result).1.nodes := by
  unfold Network.settleOwned
  cases owner with
  | node node k =>
    dsimp only
    split
    · rename_i x get
      exact reached.settleTurn node (.noteByHand (reached.reachable get) k result)
    · exact reached
  | bench bench =>
    dsimp only
    split
    · split
      · refine runHook ?_ _ _
        exact reached
      · exact reached
    · exact reached

/-- Every errand leaves every connection reachable. -/
lemma run (reached : Reached n.nodes) (errand : Errand) : Reached (n.run errand).1.nodes := by
  cases errand with
  | note | answer => exact reached
  | effect owner effect =>
    cases effect with
    | log entry =>
      rw [Network.run, nodes_logWrite]
      exact reached
    | submit index packet => exact reached.submitByHand owner index packet
    | settle result => exact reached.settleOwned owner result

/-- So does a whole agenda of errands. -/
lemma finish (reached : Reached n.nodes) (agenda : List Errand) :
    Reached (n.finish agenda).nodes := by
  unfold Network.finish
  generalize n.errandLimit agenda = limit
  induction limit generalizing n agenda with
  | zero => cases agenda <;> exact reached
  | succ limit ih =>
    cases agenda with
    | nil => exact reached
    | cons errand agenda => exact ih (reached.run errand) _

/-- Cancelling a request leaves every connection reachable, whoever keeps the request. -/
lemma cancelRequest (reached : Reached n.nodes) (owner : Owner) :
    Reached (n.cancelRequest owner).1.nodes := (reached.cancelOwned owner).finish _

/-- Starting a request leaves every connection reachable, whoever keeps the request. -/
lemma startRequest (reached : Reached n.nodes) (owner : Owner) (place : Nat)
    (modes : List SubmitMode) : Reached (n.startRequest owner place modes).1.nodes :=
  (reached.startOwned owner place modes).finish _

/-- Aborting a signal cancels requests one after the other. -/
lemma abort (reached : Reached n.nodes) (signal : String) : Reached (n.abort signal).nodes := by
  have one {n : Network} (reached : Reached n.nodes) (handle : Handle) :
      Reached (abortOne signal n handle).nodes := by
    unfold abortOne
    split
    · split
      · exact reached.cancelRequest _
      · exact reached
    · exact reached
  have all (handles : List Handle) {n : Network} (reached : Reached n.nodes) :
      Reached (handles.foldl (abortOne signal) n).nodes := by
    induction handles generalizing n with
    | nil => exact reached
    | cons handle handles ih => exact ih (one reached handle)
  exact all n.handles reached

/-- A request on a bench belongs to no connection. -/
lemma addBench (reached : Reached n.nodes) (name : String) (message : Message)
    (options : BenchOptions) : Reached (n.addBench name message options).1.nodes := by
  unfold Network.addBench
  dsimp only
  split
  · exact reached
  · split
    · refine finish (cancelOwned ?_ _) _
      exact reached
    · exact reached

/-- An answer by hand is left for a later turn. -/
lemma answerOldest (reached : Reached n.nodes) (owner : Owner) (outcome : Outcome) :
    Reached (n.answerOldest owner outcome).1.nodes := by
  unfold Network.answerOldest
  split <;> exact reached

/-- Whoever hears an outcome is a caller, a connection or a request that was started by hand. -/
lemma conclude (reached : Reached n.nodes) (outcome : Outcome) (sender : Sender) :
    Reached (n.conclude outcome sender).nodes := by
  unfold Network.conclude
  cases sender with
  | caller => exact reached
  | request node k index =>
    dsimp only
    split
    · rename_i x get
      refine settleTurn ?_ node (.conclude (reached.reachable get) k index outcome)
      exact reached
    · exact reached
  | hand owner index =>
    dsimp only
    split
    · rename_i hand r found get
      split
      · rename_i counter _
        have owned : hand.owner = owner := by simpa using List.find?_some found
        refine finish (stepHand (r := r) reached (owned ▸ get) fun reachable here => ?_) _
        exact .concludeByHand reachable here counter index outcome
      · exact reached
    · exact reached

/-! ### Connections -/

/-- A connection that begins to listen stays reachable. -/
lemma startNode (reached : Reached n.nodes) (node : Nat) : Reached (n.startNode node).1.nodes := by
  unfold Network.startNode
  split
  · rename_i x get
    split
    · rename_i started
      exact reached.settleTurn node (.start (reached.reachable get) started)
    · exact reached
  · exact reached

/-- A connection that is closed stays reachable. -/
lemma closeNode (reached : Reached n.nodes) (node : Nat) : Reached (n.closeNode node).nodes := by
  unfold Network.closeNode
  split
  · rename_i x get
    exact reached.settleTurn node (.close (reached.reachable get))
  · exact reached

/-- A connection that is reset stays reachable. -/
lemma resetNode (reached : Reached n.nodes) (node : Nat) : Reached (n.resetNode node).nodes := by
  unfold Network.resetNode
  split
  · rename_i x get
    exact reached.settleTurn node (.reset (reached.reachable get))
  · exact reached

/-- Bytes that come without the transport leave the connection reachable. -/
lemma receive (reached : Reached n.nodes) (node : Nat) (data : Bytes) :
    Reached (n.receive node data).1.nodes := by
  unfold Network.receive
  split
  · rename_i x get
    refine settleTurn ?_ node (.receive (reached.reachable get) data)
    exact reached
  · exact reached

/-- A connection that is added has to be reachable itself. -/
lemma addNode (reached : Reached n.nodes) (station : Nat) {connection : Connection}
    (reachable : connection.Reachable) (logPath : List String) :
    Reached (n.addNode station connection logPath).nodes := by
  refine ⟨fun {node x} get => ?_⟩
  dsimp only [Network.addNode] at get
  obtain old | ⟨_, rfl⟩ := Connection.getElem?_concat_cases get
  · exact reached.reachable old
  · exact reachable

/-- Removing a listener changes no connection. -/
lemma unlisten (reached : Reached n.nodes) (name : String) : Reached (n.unlisten name).nodes := by
  unfold Network.unlisten
  split
  · split
    · exact reached.modifyNode_of_same _ fun _ => rfl
    · exact reached
  · exact reached

/-! ### Packets -/

/-- Adding a station changes no connection. -/
lemma addStation (reached : Reached n.nodes) (maxPacketSize : Number) (peer : Option Nat) :
    Reached (n.addStation maxPacketSize peer).nodes := by
  unfold Network.addStation
  cases peer <;> exact reached

/-- Submitting a packet changes no connection. -/
lemma submit (reached : Reached n.nodes) (station : Nat) (data : Bytes) (sender : Sender) :
    Reached (n.submit station data sender).nodes := by
  rw [nodes_submit]
  exact reached

/-- Removing a handler changes no connection. -/
lemma unhandle (reached : Reached n.nodes) (handler : String) :
    Reached (n.unhandle handler).nodes := by
  unfold Network.unhandle
  split <;> exact reached

/-- A handler that takes a packet leaves every connection reachable, whatever it does then. -/
lemma giveTo (reached : Reached n.nodes) (data : Bytes) (handler : Handler) :
    Reached (n.giveTo data handler).1.nodes := by
  unfold Network.giveTo
  cases handler with
  | node node =>
    dsimp only
    split
    · rename_i x get
      refine settleTurn ?_ node (.receive (reached.reachable get) data)
      exact reached
    · exact reached
  | named handler =>
    dsimp only
    split
    · exact reached
    · split
      · exact reached
      · refine unhandle ?_ _
        exact reached
      · refine unhandle ?_ _
        exact reached
      · exact reached
      · exact reached

/-- A visit of handlers leaves every connection reachable. -/
lemma visit (reached : Reached n.nodes) (station : Nat) (data : Bytes) (visits number : Nat) :
    Reached (visit station data visits number n).1.nodes := by
  induction visits generalizing n number with
  | zero => exact reached
  | succ visits ih =>
    unfold Network.visit
    split
    · exact reached
    · rename_i handler _
      have given := reached.giveTo data handler
      split
      · rename_i n' fault failed
        rw [failed] at given
        exact given
      · rename_i n' passed
        rw [passed] at given
        exact ih given _

/-- A delivery leaves every connection reachable. -/
lemma deliver (reached : Reached n.nodes) (station : Nat) (submission : Submission Sender) :
    Reached (n.deliver station submission).1.nodes := by
  unfold Network.deliver
  split
  · exact reached
  · dsimp only
    split
    · exact reached
    · split
      · refine visit ?_ _ _ _ _
        exact reached
      · exact reached

/-- The release of one submission leaves every connection reachable. -/
lemma releaseOne (reached : Reached n.nodes) (station : Nat) (submission : Submission Sender)
    (error : Option String) : Reached (n.releaseOne station submission error).1.nodes := by
  unfold Network.releaseOne
  split
  · exact reached
  · have delivered := reached.deliver station submission
    split <;>
    · rename_i result
      rw [result] at delivered
      exact delivered

/-- So does the release of the oldest one that is held. -/
lemma release (reached : Reached n.nodes) (station : Nat) (error : Option String) :
    Reached (n.release station error).1.nodes := by
  unfold Network.release
  split
  · exact reached
  · rename_i submission endpoint _
    have released : Reached
        ((n.setEndpoint station endpoint).releaseOne station submission error).1.nodes := by
      refine releaseOne ?_ _ _ _
      exact reached
    split <;>
    · rename_i result
      rw [result] at released
      exact released

/-- So do releases one after the other. -/
lemma releaseAll (reached : Reached n.nodes) (station count : Nat) :
    Reached (releaseAll station count n).1.nodes := by
  induction count generalizing n with
  | zero => exact reached
  | succ count ih =>
    have released := reached.release station none
    unfold Network.releaseAll
    split <;> rename_i result <;> rw [result] at released
    · exact released
    · exact released
    · exact ih released

/-- So does the release of everything, also when a handler fails. -/
lemma resume (reached : Reached n.nodes) (station : Nat) :
    Reached (n.resume station).1.nodes := by
  unfold Network.resume
  dsimp only
  split
  · refine releaseAll ?_ _ _
    exact reached
  · exact reached

/-! ### Turns of the loop -/

/-- Every task leaves every connection reachable. -/
lemma carryOut (reached : Reached n.nodes) (task : Task) : Reached (n.carryOut task).nodes := by
  unfold Network.carryOut
  cases task with
  | deliver station =>
    dsimp only
    split
    · exact reached
    · rename_i submission endpoint _
      have delivered : Reached
          ((n.setEndpoint station endpoint).deliver station submission).1.nodes := by
        refine deliver ?_ _ _
        exact reached
      split <;>
      · rename_i result
        rw [result] at delivered
        exact delivered
  | conclude sender outcome => exact reached.conclude outcome sender
  | emit node event listeners =>
    have told : Reached
        ((n.observe (.emitted node event)).tellAll node event listeners).1.nodes := by
      refine tellAll ?_ _ _ _
      exact reached
    dsimp only
    split <;> exact told
  | release | resolve | await => exact reached

/-- Every turn of the loop leaves every connection reachable. -/
lemma turn (reached : Reached n.nodes) {n' : Network} (turned : n.turn = some n') :
    Reached n'.nodes := by
  unfold Network.turn at turned
  split at turned
  · cases turned
  · cases turned
    refine carryOut ?_ _
    exact reached

end Reached

end PacketLink.Network
