import PacketLink.Proofs.Connection.Refusal
import PacketLink.Proofs.Network.Reachable
import PacketLink.Proofs.Script.Overtaking

/-!
# Sends that are refused

Whatever a session is told, its connections are ones that anybody could come to have
(`Session.reached_run`). On such a connection a send is refused for the causes of
`Connection.Refuses` only, and then nothing has happened; any other send goes through. Main
statement: `Network.send_all_or_nothing`.
-/

namespace PacketLink

open Network (Reached)

/-! ## Connections of a session -/

namespace Script.Session

variable (s : Session)

section Calls

variable {s}

/-- What keeps connections reachable at every station does so at the one that is named. -/
lemma reached_atStation (reached : Reached s.network.nodes) {name : String}
    {run : Network → Nat → Network × Answer}
    (keeps : ∀ station, Reached (run s.network station).1.nodes) :
    Reached (s.atStation name run).1.network.nodes := by
  unfold atStation
  split
  · exact keeps _
  · exact reached

/-- What keeps connections reachable at every node does so at the one that is named. -/
lemma reached_atNode (reached : Reached s.network.nodes) {name : String}
    {run : Network → Nat → Network × Answer}
    (keeps : ∀ node, Reached (run s.network node).1.nodes) :
    Reached (s.atNode name run).1.network.nodes := by
  unfold atNode
  split
  · exact keeps _
  · exact reached

/-- What keeps connections reachable for every request does so for the one that is named. -/
lemma reached_withOwner (reached : Reached s.network.nodes) {name : String}
    {run : Network → Owner → Network × Answer}
    (keeps : ∀ owner, Reached (run s.network owner).1.nodes) :
    Reached (s.withOwner name run).1.network.nodes := by
  unfold withOwner
  split
  · exact keeps _
  · exact reached

/-- Creating a request leaves every connection reachable. -/
lemma reached_create (reached : Reached s.network.nodes) (name : String)
    (options : RequestOptions) : Reached (s.create name options).1.network.nodes := by
  unfold create
  split
  · exact reached
  · exact reached.addBench ..

/-- A connection that is created is reachable. -/
lemma reached_connect (reached : Reached s.network.nodes) (name endpoint : String)
    (options : ConnectionOptions) :
    Reached (s.connect name endpoint options).1.network.nodes := by
  unfold connect
  split
  · exact reached.addNode _ (.new ..) _
  · exact reached
  · exact reached

/-- A call leaves every connection as somebody could come to have it. -/
lemma reached_apply (reached : Reached s.network.nodes) (step : Step) :
    Reached (s.apply step).1.network.nodes := by
  cases step with
  | link first second size => exact (reached.addStation _ _).addStation _ _
  | endpoint name size peer => exact reached.addStation _ _
  | maxPacketSize name =>
    refine reached_atStation reached fun station => ?_
    split <;> exact reached
  | setMaxPacketSize | failNext | hold | drop => exact reached_atStation reached fun _ => reached
  | resume name => exact reached_atStation reached fun station => reached.resume station
  | release name error =>
    refine reached_atStation reached fun station => ?_
    have released := reached.release station error
    split <;>
    · rename_i result
      rw [result] at released
      exact released
  | submit name data =>
    refine reached_atStation reached fun station => Reached.submit ?_ _ _ _
    exact reached
  | handle name handler mode => exact reached_atStation reached fun _ => reached
  | unhandle handler => exact reached.unhandle handler
  | counter name format skip =>
    unfold apply
    dsimp only
    split <;> exact reached
  | peek name =>
    unfold apply
    dsimp only
    split <;> exact reached
  | create name options => exact reached_create reached name options
  | startRequest request counter modes =>
    unfold apply
    dsimp only
    split
    · exact reached_withOwner reached fun owner => reached.startRequest owner _ _
    · exact reached
  | answer request outcome =>
    unfold apply
    dsimp only
    split
    · exact reached.answerOldest _ _
    · exact reached
  | cancel request =>
    refine reached_withOwner reached fun owner => ?_
    have cancelled := reached.cancelRequest owner
    split <;>
    · rename_i result
      rw [result] at cancelled
      exact cancelled
  | abort signal => exact reached.abort signal
  | connection name endpoint options => exact reached_connect reached name endpoint options
  | start name => exact reached_atNode reached fun node => reached.startNode node
  | close name => exact reached_atNode reached fun node => reached.closeNode node
  | reset name => exact reached_atNode reached fun node => reached.resetNode node
  | send name request content signal =>
    exact reached_atNode reached fun node => reached.send node request signal content
  | receive name data => exact reached_atNode reached fun node => reached.receive node data
  | listen name listener event mode =>
    exact reached_atNode reached fun node => reached.modifyNode_of_same node fun _ => rfl
  | unlisten listener => exact reached.unlisten listener
  | awaitEvent name waiter event =>
    exact reached_atNode reached fun node => reached.modifyNode_of_same node fun _ => rfl
  | idle => exact reached

/-- Every move leaves every connection reachable. -/
lemma reached_move (reached : Reached s.network.nodes) (move : Move) :
    Reached (s.move move).network.nodes := by
  cases move with
  | call step => exact reached_apply reached step
  | turn =>
    unfold Session.move
    cases turned : s.network.turn with
    | none => exact reached
    | some n => exact reached.turn turned

end Calls

/-- Every connection of a session is one that anybody could come to have. -/
theorem reached_run (moves : List Move) : Reached (run moves).network.nodes := by
  induction moves using List.reverseRecOn with
  | nil => exact ⟨fun get => by cases get⟩
  | append_singleton moves move ih =>
    rw [run_concat]
    exact reached_move ih move

end Script.Session

/-! ## All or nothing -/

namespace Network

variable {n : Network} {node : Nat} {x : Node}

/-- A refused message leaves the network as it is. -/
lemma send_of_error {signal : Option String} {content : Message ⊕ ControlMessage}
    {cause : SendError} (get : n.nodes[node]? = some x)
    (failed : n.sendAt x signal content = .error cause) (name : String) :
    n.send node name signal content = (n, .error cause) := by
  unfold send
  rw [get]
  dsimp only
  split
  · rename_i other same
    cases failed.symm.trans same
    rfl
  · rename_i turn same
    cases failed.symm.trans same

/-- A message that is sent answers with its request. -/
lemma send_of_ok {signal : Option String} {content : Message ⊕ ControlMessage}
    {turn : Connection.Turn} {request : WriteRequest} (get : n.nodes[node]? = some x)
    (sent : n.sendAt x signal content = .ok turn)
    (joined : turn.connection.requests[x.connection.requests.length]? = some request)
    (name : String) : (n.send node name signal content).2 = .ok request := by
  unfold send
  rw [get]
  dsimp only
  split
  · rename_i cause same
    cases sent.symm.trans same
  · rename_i other same
    cases sent.symm.trans same
    rw [joined]

/-- A send on a connection that anybody could come to have fails for the first cause that applies,
and for nothing else. Then nothing has happened: requests, queues, counters, streams and listeners
are as before, nothing more is left to do, nothing was noticed, and no id was given. Any other send
answers with its request, and the operation does not break off. -/
theorem send_all_or_nothing (get : n.nodes[node]? = some x) (reachable : x.connection.Reachable)
    (name : String) (signal : Option String) (content : Message ⊕ ControlMessage) :
    (∀ cause, (n.send node name signal content).2 = .error cause ↔
      x.connection.Refuses (n.maxPacketSizeAt x) content cause) ∧
    (∀ cause, (n.send node name signal content).2 = .error cause →
      (n.send node name signal content).1 = n) ∧
    ((∀ cause, ¬x.connection.Refuses (n.maxPacketSizeAt x) content cause) →
      ∃ turn request, n.sendAt x signal content = .ok turn ∧ turn.refused = none ∧
        (n.send node name signal content).2 = .ok request) := by
  have refuses (cause : SendError) : n.sendAt x signal content = .error cause ↔
      x.connection.Refuses (n.maxPacketSizeAt x) content cause :=
    Connection.sendContent_eq_error_iff
  cases sent : n.sendAt x signal content with
  | error cause =>
    have failed := send_of_error get sent name
    refine ⟨fun other => ?_, fun _ _ => by rw [failed], fun none => ?_⟩
    · rw [failed, ← refuses, sent]
      exact ⟨fun same => by cases same; rfl, fun same => by cases same; rfl⟩
    · exact absurd ((refuses cause).mp sent) (none cause)
  | ok turn =>
    obtain ⟨done, request, joined⟩ := reachable.tended.sendContent_done sent
    have answered := send_of_ok get sent joined name
    refine ⟨fun cause => ?_, fun cause failed => ?_, fun _ => ⟨turn, request, rfl, done, answered⟩⟩
    · rw [answered, ← refuses, sent]
      exact ⟨nofun, nofun⟩
    · rw [answered] at failed
      cases failed

/-- Behind a request in flight waits one that was started by hand. A message that needs three
packets is refused then, because it may have two. -/
theorem send_all_or_nothing_crowded :
    let n := (Script.Session.run [.call (.link "a" "b" (.ofNat 4)),
      .call (.connection "c" "a" ⟨none, some (.ofNat 2), none, none⟩),
      .call (.counter "k" none 0), .call (.send "c" "first" (.inl ⟨.data, [1]⟩) none),
      .call (.send "c" "second" (.inl ⟨.data, [2]⟩) none),
      .call (.startRequest "second" "k" [.manual])]).network
    ∃ x, n.nodes[0]? = some x ∧ x.connection.Reachable ∧ x.connection.active = some 0 ∧
      x.connection.queue = [1] ∧ x.connection.requests.map (·.phase) = [.inFlight, .inFlight] ∧
      n.send 0 "third" none (.inl ⟨.data, [1, 2, 3, 4, 5, 6, 7]⟩) =
        (n, .error (.create (.tooManyPackets 3 (.ofNat 2)))) := by
  intro n
  have crowded : ∀ x ∈ n.nodes[0]?, x.connection.active = some 0 ∧ x.connection.queue = [1] ∧
      x.connection.requests.map (·.phase) = [.inFlight, .inFlight] := by decide +kernel
  have limits : ∀ x ∈ n.nodes[0]?, x.connection.closed = false ∧ x.connection.layout = .default ∧
      x.connection.maxPacketCount = .ofNat 2 ∧ n.maxPacketSizeAt x = .ofNat 4 := by decide +kernel
  obtain ⟨x, get⟩ : ∃ x, n.nodes[0]? = some x := Option.isSome_iff_exists.mp (by decide +kernel)
  obtain ⟨active, queue, phases⟩ := crowded x get
  obtain ⟨opened, layout, count, size⟩ := limits x get
  have reachable := (Script.Session.reached_run _).reachable get
  have refuses : WriteRequest.Refuses .default (.ofNat 4) (.ofNat 2)
      ⟨.data, [1, 2, 3, 4, 5, 6, 7]⟩ (.tooManyPackets 3 (.ofNat 2)) := by
    refine .tooMany ⟨3, by decide⟩ ?_ ?_ <;> decide +kernel
  have long : x.connection.Refuses (n.maxPacketSizeAt x) (.inl ⟨.data, [1, 2, 3, 4, 5, 6, 7]⟩)
      (.create (.tooManyPackets 3 (.ofNat 2))) := by
    refine .create opened rfl ?_
    rw [layout, count, size]
    exact refuses
  obtain ⟨causes, unchanged, _⟩ := send_all_or_nothing get reachable "third" none
    (.inl ⟨.data, [1, 2, 3, 4, 5, 6, 7]⟩)
  have failed := (causes _).mpr long
  exact ⟨x, get, reachable, active, queue, phases, Prod.ext (unchanged _ failed) failed⟩

end Network

end PacketLink
