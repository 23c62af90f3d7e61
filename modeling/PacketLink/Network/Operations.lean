import PacketLink.Network.Turn

/-!
# Operations on a network

What somebody outside can do between two turns of the event loop.
-/

namespace PacketLink.Network

/-! ## Stations -/

/-- Add an endpoint; with a peer, the two deliver to each other from now on. -/
def addStation (n : Network) (maxPacketSize : Number) (peer : Option Nat) : Network :=
  let place := n.stations.length
  let station : Station := ⟨.new maxPacketSize, peer, .empty⟩
  let n := { n with stations := n.stations ++ [station] }
  match peer with
  | some other => n.modifyStation other fun s => { s with peer := some place }
  | none => n

/-- Add two endpoints that deliver to each other. -/
def addLink (n : Network) (maxPacketSize : Number) : Network :=
  let first := n.stations.length
  (n.addStation maxPacketSize none).addStation maxPacketSize (some first)

/-- Submit a packet as a caller; the answer is the ordinal of the submission. -/
def submitAsCaller (n : Network) (station : Nat) (data : Bytes) : Network × Nat :=
  let ordinal := n.callerCount
  ({ n with callerCount := ordinal + 1 }.submit station data (.caller station ordinal), ordinal)

/-! ## Requests -/

/-- Add a counter from which `skip` values have been drawn. -/
def addCounter (n : Network) (name : String) (layout : Layout) (skip : Nat) : Network :=
  { n with counters := n.counters ++ [NamedCounter.mk name ((Counter.start layout).advance skip)] }

/-- What a request on a bench is created from. -/
structure BenchOptions where
  layout : Layout
  maxPacketSize : Number
  maxPacketCount : Number
  signal : Option String
  hook : Option Hook
  logPath : List String

/-- Create a request on a bench; one whose signal is already aborted is cancelled at once. -/
def addBench (n : Network) (name : String) (message : Message) (options : BenchOptions) :
    Network × Except CreateError WriteRequest :=
  let id := n.requestCount + 1
  match WriteRequest.create id options.layout options.maxPacketSize options.maxPacketCount
      options.signal message with
  | .error cause => (n, .error cause)
  | .ok request =>
    let place := n.benches.length
    let n := { n with
      benches := n.benches ++ [⟨request, options.hook, options.logPath⟩]
      handles := n.handles ++ [Handle.mk name (.bench place)]
      requestCount := id }
    if options.signal.any n.aborted.contains then
      let (n, errands, _) := n.cancelOwned (.bench place)
      (n.finish errands, .ok request)
    else (n, .ok request)

/-- Start a request by hand. -/
def startRequest (n : Network) (owner : Owner) (place : Nat) (modes : List SubmitMode) :
    Network × Option InvalidState :=
  let (n, errands, refused) := n.startOwned owner place modes
  (n.finish errands, refused)

/-- Cancel a request; the answer says whether this call cancelled it. -/
def cancelRequest (n : Network) (owner : Owner) : Network × Except InvalidState Bool :=
  let (n, errands, cancelled) := n.cancelOwned owner
  (n.finish errands, cancelled)

/-- Answer the oldest submission of a request that waits for an answer by hand; the answer says
whether there was one. -/
def answerOldest (n : Network) (owner : Owner) (outcome : Outcome) : Network × Bool :=
  match (n.hand? owner).map (·.unanswered) with
  | some (index :: unanswered) =>
    let n := n.modifyHand owner fun hand => { hand with unanswered }
    (n.later (.conclude (.hand owner index) outcome), true)
  | _ => (n, false)

/-- Cancel a request if it was created with this signal. -/
def abortOne (signal : String) (n : Network) (handle : Handle) : Network :=
  match n.request? handle.owner with
  | some request =>
    if request.signal = some signal then (n.cancelRequest handle.owner).1 else n
  | none => n

/-- Abort a signal: its requests are cancelled one after the other, in the order of creation. -/
def abort (n : Network) (signal : String) : Network :=
  let n := { n with
    aborted := if n.aborted.contains signal then n.aborted else signal :: n.aborted }
  n.handles.foldl (abortOne signal) n

/-! ## Connections -/

/-- Add a connection at a station. -/
def addNode (n : Network) (station : Nat) (connection : Connection) (logPath : List String) :
    Network :=
  { n with nodes := n.nodes ++ [⟨station, connection, logPath, .empty⟩] }

def startNode (n : Network) (node : Nat) : Network × Option InvalidState :=
  match n.nodes[node]? with
  | some x =>
    match x.connection.start with
    | .ok turn => (n.settleTurn node turn, none)
    | .error cause => (n, some cause)
  | none => (n, none)

def closeNode (n : Network) (node : Nat) : Network :=
  match n.nodes[node]? with
  | some x => n.settleTurn node x.connection.close
  | none => n

def resetNode (n : Network) (node : Nat) : Network :=
  match n.nodes[node]? with
  | some x => n.settleTurn node x.connection.reset
  | none => n

/-- Give bytes to a connection without its transport. -/
def receive (n : Network) (node : Nat) (data : Bytes) : Network × Option Reception :=
  match n.nodes[node]? with
  | some x =>
    let (turn, reception) := x.connection.receive data
    ((n.observe (.taken node data)).settleTurn node turn, some reception)
  | none => (n, none)

/-! ## Listeners -/

/-- Register a named listener. -/
def listen (n : Network) (listener : NamedListener) : Network :=
  let place := n.listeners.length
  let n := { n with listeners := n.listeners ++ [listener] }
  n.modifyNode listener.node fun x =>
    { x with listeners := x.listeners.add (listener.event, .named place) }

/-- Remove the latest listener of a name. -/
def unlisten (n : Network) (name : String) : Network :=
  match lastPlace? (n.listeners.map (·.name)) name with
  | some place =>
    match n.listeners[place]? with
    | some listener =>
      n.modifyNode listener.node fun x =>
        { x with listeners := x.listeners.remove (listener.event, .named place) }
    | none => n
  | none => n

/-- Wait for the next event of one name. -/
def awaitEvent (n : Network) (node : Nat) (waiter : String) (event : EventName) : Network :=
  let ordinal := n.waiterCount
  { n with waiterCount := ordinal + 1 }.modifyNode node fun x =>
    { x with listeners := x.listeners.add (event, .once ordinal waiter) }

end PacketLink.Network
