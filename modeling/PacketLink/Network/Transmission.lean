import PacketLink.Network.Basic

/-!
# Transmission

Submitting packets at a station, delivering them to whoever takes packets at its peer, and carrying
out what a connection asks for.
-/

namespace PacketLink.Network

/-- Submit a packet at a station on behalf of `sender`. -/
def submit (n : Network) (station : Nat) (data : Bytes) (sender : Sender) : Network :=
  match n.stations[station]? with
  | none => n
  | some s =>
    let (endpoint, disposition) := s.endpoint.submit ⟨data, sender⟩
    let n := n.setEndpoint station endpoint
    match disposition with
    | .refused fault => n.later (.conclude sender (.rejected fault))
    | .held => n
    | .accepted => n.later (.deliver station)

/-- Carry out one effect of the connection at `node`. -/
def perform (node : Nat) (n : Network) (effect : Connection.Effect) : Network :=
  match n.nodes[node]? with
  | none => n
  | some x =>
    let n := n.observe (.asked node effect)
    match effect with
    | .subscribe =>
      n.modifyStation x.station fun s => { s with handlers := s.handlers.add (.node node) }
    | .unsubscribe =>
      n.modifyStation x.station fun s => { s with handlers := s.handlers.remove (.node node) }
    | .log entry => n.observe (.logged x.logPath entry.record)
    | .writeLog k entry => n.logWrite (.node node k) entry
    | .submit k index packet => n.submit x.station packet (.request node k index)
    | .resolve k result => n.later (.resolve (.node node k) result)
    | .emit event =>
      let listening := x.listeners.members.filter (·.1 = event.name)
      n.later (.emit node event (listening.map (·.2)))

/-- Put the connection that an operation left behind in its place and carry out its effects. -/
def settleTurn (n : Network) (node : Nat) (turn : Connection.Turn) : Network :=
  turn.effects.foldl (perform node) (n.setConnection node turn.connection)

/-- Register a named handler at a station. The first registration of a name says what it does. -/
def handle (n : Network) (station : Nat) (handler : String) (mode : HandlerMode) : Network :=
  let n := { n with
    handlers :=
      if n.handlers.any (·.name = handler) then n.handlers
      else n.handlers ++ [NamedHandler.mk handler station mode]
    handlerStations := (handler, station) :: n.handlerStations }
  n.modifyStation station fun s => { s with handlers := s.handlers.add (.named handler) }

/-- Remove a named handler from the station at which it was registered last. -/
def unhandle (n : Network) (handler : String) : Network :=
  match n.handlerStations.lookup handler with
  | some station =>
    n.modifyStation station fun s => { s with handlers := s.handlers.remove (.named handler) }
  | none => n

/-- Give a packet to one handler; the answer is what the handler failed with. -/
def giveTo (n : Network) (data : Bytes) : Handler → Network × Option Fault
  | .node node =>
    match n.nodes[node]? with
    | some x =>
      ((n.observe (.taken node data)).settleTurn node (x.connection.receive data).1, none)
    | none => (n, none)
  | .named handler =>
    match n.handlers.find? (·.name = handler) with
    | none => (n, none)
    | some h =>
      let n := n.observe (.handled h.home handler data)
      match h.mode with
      | .record => (n, none)
      | .removeSelf => (n.unhandle handler, none)
      | .remove other => (n.unhandle other, none)
      | .add other => (n.handle h.home other .record, none)
      | .fail message => (n, some (.error message))

/-- Give a packet to the handlers of a station whose registration numbers are at least `number`, in
the order of registration, until one fails. -/
def visit (station : Nat) (data : Bytes) : Nat → Nat → Network → Network × Option Fault
  | 0, _, n => (n, none)
  | visits + 1, number, n =>
    match n.stations[station]?.bind (·.handlers.memberFrom number) with
    | none => (n, none)
    | some (registered, handler) =>
      match n.giveTo data handler with
      | (n, some fault) => (n, some fault)
      | (n, none) => visit station data visits (registered + 1) n

/-- More handlers than one delivery can visit: a handler is visited again only after it was removed
and added again, and each visit does at most one of the two. -/
def visitLimit (n : Network) : Nat := 4 * n.handlers.length + 2 * n.nodes.length + 2

/-- Deliver a packet from a station to its peer, unless it is dropped. -/
def deliver (n : Network) (station : Nat) (submission : Submission Sender) :
    Network × Option Fault :=
  match n.stations[station]? with
  | none => (n, none)
  | some s =>
    let (dropped, endpoint) := s.endpoint.askDrop submission.data
    let n := n.setEndpoint station endpoint
    if dropped then (n, none)
    else
      match s.peer with
      | some peer =>
        let n := n.observe (.delivered station submission)
        visit peer submission.data n.visitLimit 0 n
      | none => (n, none)

/-- Release one held submission: deliver it, or refuse it with an error. When a handler fails, so
does the release, and nobody sees an outcome of the submission. -/
def releaseOne (n : Network) (station : Nat) (submission : Submission Sender)
    (error : Option String) : Network × Option Fault :=
  match error with
  | some message => (n.later (.release submission.sender (.rejected (.error message))), none)
  | none =>
    match n.deliver station submission with
    | (n, some fault) => (n, some fault)
    | (n, none) => (n.later (.release submission.sender .accepted), none)

/-- Release the oldest held submission; the answer says whether there was one. -/
def release (n : Network) (station : Nat) (error : Option String) : Network × Except Fault Bool :=
  match n.stations[station]?.bind (·.endpoint.takeHeld) with
  | none => (n, .ok false)
  | some (submission, endpoint) =>
    match (n.setEndpoint station endpoint).releaseOne station submission error with
    | (n, some fault) => (n, .error fault)
    | (n, none) => (n, .ok true)

/-- Release held submissions, at most `count` of them, until none is left or one fails. -/
def releaseAll (station : Nat) : Nat → Network → Network × Option Fault
  | 0, n => (n, none)
  | count + 1, n =>
    match n.release station none with
    | (n, .error fault) => (n, some fault)
    | (n, .ok false) => (n, none)
    | (n, .ok true) => releaseAll station count n

/-- Stop holding and release everything held. -/
def resume (n : Network) (station : Nat) : Network × Option Fault :=
  let n := n.modifyEndpoint station (·.stopHolding)
  match n.stations[station]? with
  | some s => releaseAll station s.endpoint.held.length n
  | none => (n, none)

end PacketLink.Network
