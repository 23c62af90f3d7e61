import PacketLink.Connection.Inbound
import PacketLink.Link.Endpoint
import PacketLink.Link.Roster

/-!
# Networks

Endpoints, connections and write requests that run together on one event loop. A request belongs to
a connection or stands on a bench of its own; it is started by its connection or by hand. What an
operation leaves for later stands in a queue of tasks, and the loop takes them one at a time, oldest
first. Everything that somebody outside could notice is recorded in the history. Stations, nodes
and benches are known by their place in the order of creation; packet handlers, listeners, signals,
counters and requests have names, and a name means the latest thing that was given it.
-/

namespace PacketLink

/-- Where a write request is kept. -/
inductive Owner where
  | node (node request : Nat)
  | bench (bench : Nat)
  deriving DecidableEq

/-- Who waits for the outcome of a submission. -/
inductive Sender where
  /-- The caller that made the submission with this ordinal at a station. -/
  | caller (station ordinal : Nat)
  /-- A request that its connection started. -/
  | request (node request index : Nat)
  /-- A request that was started by hand. -/
  | hand (owner : Owner) (index : Nat)

/-- What a named packet handler does after it has recorded a packet. -/
inductive HandlerMode where
  | record
  | removeSelf
  | remove (handler : String)
  | add (handler : String)
  | fail (message : String)

/-- A named packet handler, with the station at which it was registered first. -/
structure NamedHandler where
  name : String
  home : Nat
  mode : HandlerMode

/-- Whoever takes packets from an endpoint. -/
inductive Handler where
  | node (node : Nat)
  | named (handler : String)
  deriving DecidableEq

/-- An endpoint, the one it delivers to, and whoever takes the packets delivered to it. -/
structure Station where
  endpoint : Endpoint Sender
  peer : Option Nat
  handlers : Roster Handler

/-- What a named listener does after it has recorded an event. -/
inductive ListenerMode where
  | record
  /-- Send a message on the same connection, as a request of this name. -/
  | reply (request : String) (data : Bytes)
  | fail (fault : Fault)

/-- A named listener, for the events of one name at a node. -/
structure NamedListener where
  name : String
  node : Nat
  event : EventName
  mode : ListenerMode

/-- Whoever listens to the events of one name. -/
inductive Listener where
  /-- The named listener with this place in the order of registration. -/
  | named (place : Nat)
  /-- Waits for one event only; the ordinal tells waiters of one name apart. -/
  | once (ordinal : Nat) (waiter : String)
  deriving DecidableEq

/-- A connection at a station, with its listeners and the path of its log records. -/
structure Node where
  station : Nat
  connection : Connection
  logPath : List String
  listeners : Roster (EventName × Listener)

/-- How a submission of a request that was started by hand is answered. -/
inductive SubmitMode where
  /-- Answered later by hand. -/
  | manual
  | accept
  /-- The request is cancelled while it submits, and the submission is accepted. -/
  | cancel
  /-- The request is started again while it submits, which fails. -/
  | restart
  | reject (fault : Fault)

/-- What happens when a request on a bench settles. -/
inductive Hook where
  | cancel (request : String)
  | start (request counter : String) (modes : List SubmitMode)

/-- A counter that requests started by hand share by name. -/
structure NamedCounter where
  name : String
  counter : Counter

/-- A write request of its own, with what happens when it settles. -/
structure Bench where
  request : WriteRequest
  hook : Option Hook
  logPath : List String

/-- What a request that was started by hand works with. -/
structure Hand where
  owner : Owner
  /-- The place of the counter that it draws from. -/
  counter : Nat
  /-- How the next submissions are answered; those after them by hand. -/
  modes : List SubmitMode
  /-- The indices of the submissions that wait for an answer by hand, oldest first. -/
  unanswered : List Nat

/-- A write request under the name that whoever sent it has for it. -/
structure Handle where
  name : String
  owner : Owner

/-- What a hook or a cancellation during a submission came to. -/
inductive HookResult where
  | cancelled (byThisCall : Bool)
  | started
  | refused (cause : InvalidState)

/-- What somebody outside could notice. -/
inductive Observation where
  /-- A message was sent on the connection at a node. -/
  | sent (node : Nat) (content : Message ⊕ ControlMessage)
  /-- The connection at a node asked for something. -/
  | asked (node : Nat) (effect : Connection.Effect)
  /-- A connection heard the outcome of a submission that it had made for one of its requests. -/
  | answered (node request index : Nat) (outcome : Outcome)
  /-- The connection at a node took the bytes of a packet. -/
  | taken (node : Nat) (data : Bytes)
  /-- A packet went from a station to the handlers of its peer. -/
  | delivered (station : Nat) (submission : Submission Sender)
  /-- A named handler took a packet; the station is the handler's home. -/
  | handled (station : Nat) (handler : String) (data : Bytes)
  /-- The outcome of a caller's submission. -/
  | concluded (station ordinal : Nat) (outcome : Outcome)
  /-- A request that was started by hand submitted a packet. -/
  | called (owner : Owner) (packet : Bytes)
  /-- A request on a bench settled. -/
  | settled (bench : Nat) (phase : Phase) (result : WriteResult)
  | hooked (owner : Owner) (result : HookResult)
  | resolved (owner : Owner) (result : WriteResult)
  | emitted (node : Nat) (event : Event)
  /-- A named listener took an event. -/
  | heard (node : Nat) (listener : String) (event : Event)
  | replied (listener : String) (answer : Except SendError WriteRequest)
  /-- A waiter got the one event it waited for. -/
  | awaited (node : Nat) (waiter : String) (event : Event)
  | logged (path : List String) (record : LogRecord)

/-- What is left for a later turn of the event loop. -/
inductive Task where
  /-- Deliver the oldest accepted submission of a station. -/
  | deliver (station : Nat)
  /-- A held submission was released; its outcome is seen on a later turn still. -/
  | release (sender : Sender) (outcome : Outcome)
  | conclude (sender : Sender) (outcome : Outcome)
  /-- Deliver an event to whoever listened when it was emitted. -/
  | emit (node : Nat) (event : Event) (listeners : List Listener)
  | resolve (owner : Owner) (result : WriteResult)
  | await (node : Nat) (waiter : String) (event : Event)

/-- Everything that runs on one event loop, and what has been noticed of it. -/
structure Network where
  stations : List Station
  nodes : List Node
  benches : List Bench
  /-- One for each request that was started by hand. -/
  hands : List Hand
  counters : List NamedCounter
  /-- The write requests in the order of creation. -/
  handles : List Handle
  handlers : List NamedHandler
  /-- The station at which each named handler was registered last. -/
  handlerStations : List (String × Nat)
  /-- The named listeners in the order of registration. -/
  listeners : List NamedListener
  /-- The aborted signals. -/
  aborted : List String
  tasks : List Task
  history : Array Observation
  /-- Number of write requests created so far, which is the id of the last one. -/
  requestCount : Nat
  /-- Number of submissions by callers so far. -/
  callerCount : Nat
  /-- Number of waits for an event so far. -/
  waiterCount : Nat

namespace Network

def empty : Network :=
  { stations := [], nodes := [], benches := [], hands := [], counters := [], handles := [],
    handlers := [], handlerStations := [], listeners := [], aborted := [], tasks := [],
    history := #[], requestCount := 0, callerCount := 0, waiterCount := 0 }

def observe (n : Network) (observation : Observation) : Network :=
  { n with history := n.history.push observation }

def later (n : Network) (task : Task) : Network := { n with tasks := n.tasks ++ [task] }

def modifyStation (n : Network) (station : Nat) (f : Station → Station) : Network :=
  { n with stations := n.stations.modify station f }

def modifyEndpoint (n : Network) (station : Nat) (f : Endpoint Sender → Endpoint Sender) :
    Network :=
  n.modifyStation station fun s => { s with endpoint := f s.endpoint }

def setEndpoint (n : Network) (station : Nat) (endpoint : Endpoint Sender) : Network :=
  n.modifyEndpoint station fun _ => endpoint

def modifyNode (n : Network) (node : Nat) (f : Node → Node) : Network :=
  { n with nodes := n.nodes.modify node f }

def setConnection (n : Network) (node : Nat) (connection : Connection) : Network :=
  n.modifyNode node fun x => { x with connection }

def modifyBench (n : Network) (bench : Nat) (f : Bench → Bench) : Network :=
  { n with benches := n.benches.modify bench f }

def setCounter (n : Network) (place : Nat) (counter : Counter) : Network :=
  { n with counters := n.counters.modify place fun c => { c with counter } }

/-- The counter at a place. -/
def counter? (n : Network) (place : Nat) : Option Counter := n.counters[place]?.map (·.counter)

/-- The request that `owner` keeps. -/
def request? (n : Network) : Owner → Option WriteRequest
  | .node node k => n.nodes[node]?.bind fun x => x.connection.requests[k]?
  | .bench bench => n.benches[bench]?.map (·.request)

def setRequest (n : Network) (owner : Owner) (request : WriteRequest) : Network :=
  match owner with
  | .node node k =>
    n.modifyNode node fun x => { x with connection := x.connection.setRequest k request }
  | .bench bench => n.modifyBench bench fun b => { b with request }

/-- What the request that `owner` keeps works with, if it was started by hand. -/
def hand? (n : Network) (owner : Owner) : Option Hand := n.hands.find? (·.owner = owner)

def modifyHand (n : Network) (owner : Owner) (f : Hand → Hand) : Network :=
  { n with hands := n.hands.map fun hand => if hand.owner = owner then f hand else hand }

/-- The path of the log records of the request that `owner` keeps. -/
def logPath? (n : Network) : Owner → Option (List String)
  | .node node _ => n.nodes[node]?.map fun x => x.logPath ++ ["write-request"]
  | .bench bench => n.benches[bench]?.map (·.logPath)

/-- Log what a request reports about itself. -/
def logWrite (n : Network) (owner : Owner) (entry : WriteLog) : Network :=
  match n.logPath? owner, n.request? owner with
  | some path, some request => n.observe (.logged path (entry.record request.id request.kind))
  | _, _ => n

/-- The last place in `names` that holds `name`. -/
def lastPlace? (names : List String) (name : String) : Option Nat :=
  (names.reverse.idxOf? name).map fun i => names.length - 1 - i

/-- The latest request of a name. -/
def owner? (n : Network) (name : String) : Option Owner :=
  (n.handles.reverse.find? (·.name = name)).map (·.owner)

/-- The name of the request that `owner` keeps. -/
def nameOf? (n : Network) (owner : Owner) : Option String :=
  (n.handles.find? (·.owner = owner)).map (·.name)

/-- The place of the latest counter of a name. -/
def counterPlace? (n : Network) (name : String) : Option Nat :=
  lastPlace? (n.counters.map (·.name)) name

end Network

end PacketLink
