import PacketLink.Script.Report

/-!
# Sessions

A session is a network under the names that a script has for its parts. A step is carried out at
once; then, unless the script asks for the next step first, the event loop turns until it comes to
rest, and the report says what could be noticed.
-/

namespace PacketLink.Script

/-- A network and the names that its stations and nodes go by. -/
structure Session where
  network : Network
  stationNames : List String
  nodeNames : List String

namespace Session

def new : Session := ⟨.empty, [], []⟩

/-- Most turns of the event loop after a step. -/
def turnLimit : Nat := 1000000000

variable (s : Session)

def station? (name : String) : Option Nat := Network.lastPlace? s.stationNames name

def node? (name : String) : Option Nat := Network.lastPlace? s.nodeNames name

/-- The layout of a format, or the default one. -/
def layoutOf (format : Option Format) : Except InvalidArgument Layout :=
  match format with
  | some format => format.layout
  | none => .ok .default

/-- Do something with the network. -/
def doing (run : Network × Answer) : Session × Answer := ({ s with network := run.1 }, run.2)

/-- Do something at a station. -/
def atStation (name : String) (run : Network → Nat → Network × Answer) : Session × Answer :=
  match s.station? name with
  | some station => s.doing (run s.network station)
  | none => (s, .refused .unknownName)

/-- Do something at the node of a connection. -/
def atNode (name : String) (run : Network → Nat → Network × Answer) : Session × Answer :=
  match s.node? name with
  | some node => s.doing (run s.network node)
  | none => (s, .refused .unknownName)

/-- Do something with a request. -/
def withOwner (name : String) (run : Network → Owner → Network × Answer) : Session × Answer :=
  match s.network.owner? name with
  | some owner => s.doing (run s.network owner)
  | none => (s, .refused .unknownName)

/-- The answer of an operation that may be refused for the state it finds. -/
def refusal : Option InvalidState → Answer
  | some cause => .refused (.invalidState cause)
  | none => .nothing

/-- The answer of an operation that may fail with whatever a callback failed with. -/
def failure : Option Fault → Answer
  | some fault => .refused (.fault fault)
  | none => .nothing

/-- The answer that a request was sent or not. -/
def sendAnswer : Except SendError WriteRequest → Answer
  | .ok request => .request request
  | .error cause => .refused (.send cause)

/-- Create a request on a bench. -/
def create (name : String) (options : RequestOptions) : Session × Answer :=
  match layoutOf options.format with
  | .error cause => (s, .refused (.invalidArgument cause))
  | .ok layout =>
    let (n, created) := s.network.addBench name options.message {
      layout
      maxPacketSize := options.maxPacketSize
      maxPacketCount := options.maxPacketCount.getD defaultMaxPacketCount
      signal := options.signal
      hook := options.hook
      logPath := [options.logger.getD "write-request"] }
    let answer :=
      match created with
      | .ok request => .request request
      | .error cause => .refused (.create cause)
    s.doing (n, answer)

/-- Create a connection at an endpoint. -/
def connect (name endpoint : String) (options : ConnectionOptions) : Session × Answer :=
  match s.station? endpoint, layoutOf options.format with
  | some station, .ok layout =>
    let connection := Connection.new layout (options.maxPacketCount.getD defaultMaxPacketCount)
      (options.maxMessageSize.getD defaultMaxMessageSize)
    let n := s.network.addNode station connection [options.logger.getD "connection"]
    ({ s with network := n, nodeNames := s.nodeNames ++ [name] }, .nothing)
  | _, .error cause => (s, .refused (.invalidArgument cause))
  | none, _ => (s, .refused .unknownName)

/-- Carry out a step at once. -/
def apply : Step → Session × Answer
  | .link first second maxPacketSize =>
    ({ s with
        network := s.network.addLink maxPacketSize
        stationNames := s.stationNames ++ [first, second] }, .nothing)
  | .endpoint name maxPacketSize peer =>
    ({ s with
        network := s.network.addStation maxPacketSize (peer.bind s.station?)
        stationNames := s.stationNames ++ [name] }, .nothing)
  | .maxPacketSize endpoint =>
    s.atStation endpoint fun n station =>
      match n.stations[station]? with
      | some x => (n, .number x.endpoint.maxPacketSize)
      | none => (n, .nothing)
  | .setMaxPacketSize endpoint size =>
    s.atStation endpoint fun n station =>
      (n.modifyEndpoint station (·.setMaxPacketSize size), .nothing)
  | .failNext endpoint message =>
    s.atStation endpoint fun n station =>
      (n.modifyEndpoint station (·.failNext (message.getD Endpoint.defaultFailure)), .nothing)
  | .hold endpoint =>
    s.atStation endpoint fun n station => (n.modifyEndpoint station (·.hold), .nothing)
  | .resume endpoint =>
    s.atStation endpoint fun n station =>
      let (n, fault) := n.resume station
      (n, failure fault)
  | .release endpoint error =>
    s.atStation endpoint fun n station =>
      match n.release station error with
      | (n, .ok released) => (n, .boolean released)
      | (n, .error fault) => (n, .refused (.fault fault))
  | .drop endpoint rule =>
    s.atStation endpoint fun n station => (n.modifyEndpoint station (·.setDrop rule), .nothing)
  | .submit endpoint data =>
    s.atStation endpoint fun n station =>
      let (n, ordinal) := n.submitAsCaller station data
      (n, .number ordinal)
  | .handle endpoint handler mode =>
    s.atStation endpoint fun n station => (n.handle station handler mode, .nothing)
  | .unhandle handler => s.doing (s.network.unhandle handler, .nothing)
  | .counter name format skip =>
    match layoutOf format with
    | .ok layout => s.doing (s.network.addCounter name layout skip, .nothing)
    | .error cause => (s, .refused (.invalidArgument cause))
  | .peek counter =>
    match (s.network.counterPlace? counter).bind s.network.counter? with
    | some counter => (s, .number counter.value)
    | none => (s, .refused .unknownName)
  | .create name options => s.create name options
  | .startRequest request counter modes =>
    match s.network.counterPlace? counter with
    | some place =>
      s.withOwner request fun n owner =>
        let (n, refused) := n.startRequest owner place modes
        (n, refusal refused)
    | none => (s, .refused .unknownName)
  | .answer request outcome =>
    match s.network.owner? request with
    | some owner =>
      let (n, answered) := s.network.answerOldest owner outcome
      s.doing (n, .boolean answered)
    | none => (s, .boolean false)
  | .cancel request =>
    s.withOwner request fun n owner =>
      match n.cancelRequest owner with
      | (n, .ok cancelled) => (n, .boolean cancelled)
      | (n, .error cause) => (n, .refused (.invalidState cause))
  | .abort signal => s.doing (s.network.abort signal, .nothing)
  | .connection name endpoint options => s.connect name endpoint options
  | .start connection =>
    s.atNode connection fun n node =>
      let (n, refused) := n.startNode node
      (n, refusal refused)
  | .close connection => s.atNode connection fun n node => (n.closeNode node, .nothing)
  | .reset connection => s.atNode connection fun n node => (n.resetNode node, .nothing)
  | .send connection request content signal =>
    s.atNode connection fun n node =>
      let (n, sent) := n.send node request signal content
      (n, sendAnswer sent)
  | .receive connection data =>
    s.atNode connection fun n node =>
      let (n, reception) := n.receive node data
      (n, (reception.map .reception).getD .nothing)
  | .listen connection listener event mode =>
    s.atNode connection fun n node => (n.listen ⟨listener, node, event, mode⟩, .nothing)
  | .unlisten listener => s.doing (s.network.unlisten listener, .nothing)
  | .awaitEvent connection waiter event =>
    s.atNode connection fun n node => (n.awaitEvent node waiter event, .nothing)
  | .idle => (s, .nothing)

/-! ## Reports -/

def stationName (station : Nat) : String := s.stationNames[station]?.getD ""

def nodeName (node : Nat) : String := s.nodeNames[node]?.getD ""

def requestName (owner : Owner) : String := (s.network.nameOf? owner).getD ""

/-- An event of the connection at `node`, with the name of its request. -/
def named (node : Nat) (event : Event) : NamedEvent :=
  match event with
  | .writeSettled request _ => ⟨event, some (s.requestName (.node node request))⟩
  | _ => ⟨event, none⟩

/-- The requests of a network that are new or stand elsewhere than in the network `before`. -/
def changedOwners (before n : Network) : List Owner :=
  let ofNode (node : Nat) (x : Node) : List Owner :=
    let earlier := ((before.nodes[node]?).map (·.connection.requests)).getD []
    (changedPlaces 0 (earlier.map .of) (x.connection.requests.map Standing.of)).map (.node node)
  let onBench := changedPlaces 0 (before.benches.map fun b => .of b.request)
    (n.benches.map fun b => Standing.of b.request)
  (n.nodes.mapIdx ofNode).flatten ++ onBench.map .bench

/-- The standing of the latest request of a name. -/
def standing? (n : Network) (name : String) : Option Standing :=
  ((n.owner? name).bind n.request?).map .of

/-- The standings that are others than in the network `before`. -/
def changedStandings (before : Network) : List (String × Standing) :=
  ((changedOwners before s.network).filterMap s.network.nameOf?).eraseDups.filterMap fun name =>
    match standing? s.network name with
    | some standing => if standing? before name = some standing then none else some (name, standing)
    | none => none

/-- What every connection shows. -/
def connectionStandings : List (String × ConnectionStanding) :=
  s.network.nodes.mapIdx fun node x =>
    let c := x.connection
    (s.nodeName node,
      ⟨c.active.map fun k => s.requestName (.node node k), c.queue.length, c.closed⟩)

/-- Something about each station that is the latest of its name. -/
def ofStations {α : Type} (f : Nat → Station → α) : List (String × α) :=
  (s.network.stations.mapIdx fun station x => (station, x)).filterMap fun (station, x) =>
    let name := s.stationName station
    if s.station? name = some station then some (name, f station x) else none

/-- The packets submitted at each station since the network was `before`. -/
def submittedSince (before : Network) : Sorted Bytes :=
  (s.ofStations fun station x =>
    let count := ((before.stations[station]?).map (·.endpoint.submitted.size)).getD 0
    (x.endpoint.submitted.extract count x.endpoint.submitted.size).toList).filter (!·.2.isEmpty)

/-- What could be noticed since the network was `before`, with these observations. -/
def report (answer : Answer) (before : Network) (seen : List Observation) : Report where
  answer
  submitted := s.submittedSince before
  held := (s.ofStations fun _ x => x.endpoint.held.length).filter (·.2 ≠ 0)
  handled :=
    (sortByName (seen.filterMap fun
      | .handled station handler data => some (s.stationName station, handler, data)
      | _ => none)).map fun (station, items) => (station, sortByName items)
  concluded :=
    (sortByName (seen.filterMap fun
      | .concluded station ordinal outcome => some (s.stationName station, ordinal, outcome)
      | _ => none)).map fun (name, outcomes) => (name, outcomes.mergeSort (·.1 ≤ ·.1))
  called := sortByName (seen.filterMap fun
    | .called owner packet => some (s.requestName owner, packet)
    | _ => none)
  settled := sortByName (seen.filterMap fun
    | .settled bench phase result => some (s.requestName (.bench bench), phase, result)
    | _ => none)
  hooked := sortByName (seen.filterMap fun
    | .hooked owner result => some (s.requestName owner, result)
    | _ => none)
  resolved := seen.filterMap fun
    | .resolved owner result => some (s.requestName owner, result)
    | _ => none
  requests := s.changedStandings before
  connections := s.connectionStandings
  emitted := sortByName (seen.filterMap fun
    | .emitted node event => some (s.nodeName node, s.named node event)
    | _ => none)
  heard := sortByName (seen.filterMap fun
    | .heard node listener event => some (listener, s.named node event)
    | _ => none)
  replied := sortByName (seen.filterMap fun
    | .replied listener answer => some (listener, answer)
    | _ => none)
  awaited := sortByName (seen.filterMap fun
    | .awaited node waiter event => some (waiter, s.named node event)
    | _ => none)
  logged := seen.filterMap fun
    | .logged path record => some (path, record)
    | _ => none

/-- Carry out a step, let the event loop come to rest if `rest` says so, and report. -/
def step (step : Step) (rest : Bool) : Session × Report :=
  let before := s.network
  let (s, answer) := s.apply step
  let s := if rest then { s with network := s.network.settleWithin turnLimit } else s
  let history := s.network.history
  let seen := (history.extract before.history.size history.size).toList
  (s, s.report answer before seen)

end Session

/-- Carry out the steps of a script in a new session; the reports come in the order of the steps. -/
def run (steps : List (Step × Bool)) : List Report :=
  go .new steps
where
  go (s : Session) : List (Step × Bool) → List Report
    | [] => []
    | (step, rest) :: steps =>
      let (s, report) := s.step step rest
      report :: go s steps

end PacketLink.Script
