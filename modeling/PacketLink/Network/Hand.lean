import PacketLink.Network.Transmission

/-!
# Requests started by hand

A request that was started by hand calls back into the network while it submits, and one on a bench
also when it settles. What is still to be done in the current operation stands in an agenda: an item
is carried out and what it leads to comes before the rest. Every item but the first comes from a
request that starts or settles, and each does that once, which bounds the agenda.
-/

namespace PacketLink.Network

/-- One thing to be done before the current operation ends. -/
inductive Errand where
  /-- Carry out what a request asks for. -/
  | effect (owner : Owner) (effect : WriteRequest.Effect)
  /-- Record what a hook or a cancellation during a submission came to. -/
  | note (owner : Owner) (result : HookResult)
  /-- Answer a submission. -/
  | answer (owner : Owner) (index : Nat) (outcome : Outcome)

/-- Put what an operation by hand left behind in its place; its effects are still to be carried
out. -/
def stepHand (n : Network) (hand : Hand) (turn : WriteRequest.Turn) : Network × List Errand :=
  ((n.setRequest hand.owner turn.request).setCounter hand.counter turn.counter,
    turn.effects.map (.effect hand.owner))

/-- Cancel a request; the answer says whether this call cancelled it. -/
def cancelOwned (n : Network) (owner : Owner) :
    Network × List Errand × Except InvalidState Bool :=
  match owner with
  | .node node k =>
    match n.nodes[node]? with
    | some x =>
      let (turn, cancelled) := x.connection.cancel k
      let n := n.settleTurn node turn
      match turn.refused with
      | some cause => (n, [], .error cause)
      | none => (n, [], .ok cancelled)
    | none => (n, [], .ok false)
  | .bench bench =>
    match n.benches[bench]?.bind (·.request.cancel) with
    | some (request, effects) => (n.setRequest owner request, effects.map (.effect owner), .ok true)
    | none => (n, [], .ok false)

/-- Start a request by hand, with a counter and a plan for its submissions. -/
def startOwned (n : Network) (owner : Owner) (place : Nat) (modes : List SubmitMode) :
    Network × List Errand × Option InvalidState :=
  match n.request? owner, n.counter? place with
  | some request, some counter =>
    match request.start counter with
    | .ok turn =>
      let hand : Hand := ⟨owner, place, modes, []⟩
      let (n, errands) := { n with hands := n.hands ++ [hand] }.stepHand hand turn
      (n, errands, none)
    | .error cause => (n, [], some cause)
  | _, _ => (n, [], none)

/-- Cancel a request and note what came of it for the request that `noted` keeps. -/
def cancelNoting (n : Network) (noted owner : Owner) : Network × List Errand :=
  let (n, errands, cancelled) := n.cancelOwned owner
  let result :=
    match cancelled with
    | .ok byThisCall => .cancelled byThisCall
    | .error cause => .refused cause
  (n, errands ++ [.note noted result])

/-- Carry out the hook of a request on a bench that has settled. -/
def runHook (n : Network) (bench : Nat) : Hook → Network × List Errand
  | .cancel name =>
    match n.owner? name with
    | some owner => n.cancelNoting (.bench bench) owner
    | none => (n, [])
  | .start name counter modes =>
    match n.owner? name, n.counterPlace? counter with
    | some owner, some place =>
      let (n, errands, refused) := n.startOwned owner place modes
      (n, errands ++ [.note (.bench bench) ((refused.map .refused).getD .started)])
    | _, _ => (n, [])

/-- Answer the submission of a packet as the plan for the request says. -/
def answerSubmission (n : Network) (owner : Owner) (index : Nat) (mode : SubmitMode) :
    Network × List Errand :=
  match mode with
  | .manual =>
    (n.modifyHand owner fun hand => { hand with unanswered := hand.unanswered ++ [index] }, [])
  | .accept => (n, [.answer owner index .accepted])
  | .reject fault => (n, [.answer owner index (.rejected fault)])
  | .cancel =>
    let (n, errands) := n.cancelNoting owner owner
    (n, errands ++ [.answer owner index .accepted])
  | .restart =>
    match n.request? owner with
    | some request =>
      let fault := Fault.invalidState (.startRequest request.id request.phase)
      (n, [.answer owner index (.rejected fault)])
    | none => (n, [])

/-- Hand over a packet of a request that was started by hand. -/
def submitByHand (n : Network) (owner : Owner) (index : Nat) (packet : Bytes) :
    Network × List Errand :=
  match n.hand? owner with
  | some hand =>
    let n := n.observe (.called owner packet)
    let n := n.modifyHand owner fun hand => { hand with modes := hand.modes.drop 1 }
    n.answerSubmission owner index (hand.modes.head?.getD .manual)
  | none => (n, [])

/-- Tell whoever keeps a request that it has its outcome. -/
def settleOwned (n : Network) (owner : Owner) (result : WriteResult) : Network × List Errand :=
  match owner with
  | .node node k =>
    match n.nodes[node]? with
    | some x => (n.settleTurn node (x.connection.noteSettled k result), [])
    | none => (n, [])
  | .bench bench =>
    match n.benches[bench]? with
    | some b =>
      let n := n.later (.resolve owner result)
      let n := n.observe (.settled bench b.request.phase result)
      match b.hook with
      | some hook => n.runHook bench hook
      | none => (n, [])
    | none => (n, [])

/-- Carry out one errand; the answer holds the errands that it leads to. -/
def run (n : Network) : Errand → Network × List Errand
  | .note owner result => (n.observe (.hooked owner result), [])
  | .answer owner index outcome => (n.later (.conclude (.hand owner index) outcome), [])
  | .effect owner (.log entry) => (n.logWrite owner entry, [])
  | .effect owner (.submit index packet) => n.submitByHand owner index packet
  | .effect owner (.settle result) => n.settleOwned owner result

/-- Carry out at most `limit` errands of an agenda. -/
def runAll : Nat → List Errand → Network → Network
  | _, [], n => n
  | 0, _ :: _, n => n
  | limit + 1, errand :: agenda, n =>
    let (n, errands) := n.run errand
    runAll limit (errands ++ agenda) n

/-- More errands than an agenda can lead to: a request starts at most once and settles at most once,
and each leads to a few errands. -/
def errandLimit (n : Network) (agenda : List Errand) : Nat :=
  agenda.length + 16 * (n.handles.length + 1)

/-- Carry out an agenda. -/
def finish (n : Network) (agenda : List Errand) : Network :=
  runAll (n.errandLimit agenda) agenda n

end PacketLink.Network
