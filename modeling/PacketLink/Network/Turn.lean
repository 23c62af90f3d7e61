import PacketLink.Network.Hand

/-!
# Turns of the event loop

A turn takes the oldest task and carries it out. The loop comes to rest when no task is left.
-/

namespace PacketLink.Network

/-- Send a message on the connection at `node`, as a request of this name. -/
def send (n : Network) (node : Nat) (name : String) (signal : Option String)
    (content : Message ⊕ ControlMessage) : Network × Except SendError WriteRequest :=
  match n.nodes[node]? with
  | none => (n, .error .closed)
  | some x =>
    let id := n.requestCount + 1
    let size := ((n.stations[x.station]?).map (·.endpoint.maxPacketSize)).getD .nan
    let aborted := signal.any n.aborted.contains
    let sent :=
      match content with
      | .inl message => x.connection.send id size message signal aborted
      | .inr message => x.connection.sendControlMessage id size message signal aborted
    match sent with
    | .error cause => (n, .error cause)
    | .ok turn =>
      let place := x.connection.requests.length
      let n := { n with
        requestCount := id
        handles := n.handles ++ [Handle.mk name (.node node place)] }
      let n := n.observe (.sent node content)
      match turn.connection.requests[place]? with
      | some request => (n.settleTurn node turn, .ok request)
      | none => (n.settleTurn node turn, .error .closed)

/-- Let a listener take an event; the answer is what it failed with. As emittery has it, a
listener that is removed before its turn is not called, and a waiter of `once` takes one event. -/
def tell (n : Network) (node : Nat) (event : Event) (listener : Listener) :
    Network × Option Fault :=
  match n.nodes[node]? with
  | none => (n, none)
  | some x =>
    if x.listeners.contains (event.name, listener) then
      match listener with
      | .once _ waiter =>
        let n := n.modifyNode node fun x =>
          { x with listeners := x.listeners.remove (event.name, listener) }
        (n.later (.await node waiter event), none)
      | .named place =>
        match n.listeners[place]? with
        | none => (n, none)
        | some heard =>
          let n := n.observe (.heard node heard.name event)
          match heard.mode with
          | .record => (n, none)
          | .fail fault => (n, some fault)
          | .reply request data =>
            let (n, answer) := n.send node request none (.inl ⟨.data, data⟩)
            (n.observe (.replied heard.name answer), none)
    else (n, none)

/-- Let the listeners that were there at the emission take an event, in the order of registration.
This is emittery's `emit`: it calls them on a later turn, all of them even if some fail, and its
promise rejects with what the first one failed with. -/
def tellAll (n : Network) (node : Nat) (event : Event) (listeners : List Listener) :
    Network × Option Fault :=
  listeners.foldl
    (fun (n, failed) listener =>
      let (n, fault) := n.tell node event listener
      (n, failed.or fault))
    (n, none)

/-- Pass on the outcome of a submission. -/
def conclude (n : Network) (outcome : Outcome) : Sender → Network
  | .caller station ordinal => n.observe (.concluded station ordinal outcome)
  | .request node k index =>
    match n.nodes[node]? with
    | some x =>
      (n.observe (.answered node k index outcome)).settleTurn node
        (x.connection.conclude k index outcome)
    | none => n
  | .hand owner index =>
    match n.hand? owner, n.request? owner with
    | some hand, some request =>
      match n.counter? hand.counter with
      | some counter =>
        let (n, errands) := n.stepHand hand (request.conclude counter index outcome)
        n.finish errands
      | none => n
    | _, _ => n

/-- Carry out one task. -/
def carryOut (n : Network) : Task → Network
  | .deliver station =>
    match n.stations[station]?.bind (·.endpoint.takeAwaiting) with
    | none => n
    | some (submission, endpoint) =>
      match (n.setEndpoint station endpoint).deliver station submission with
      | (n, some fault) => n.later (.conclude submission.sender (.rejected fault))
      | (n, none) => n.later (.conclude submission.sender .accepted)
  | .release sender outcome => n.later (.conclude sender outcome)
  | .conclude sender outcome => n.conclude outcome sender
  | .emit node event listeners =>
    let (n, failed) := (n.observe (.emitted node event)).tellAll node event listeners
    match failed, n.nodes[node]? with
    | some fault, some x =>
      n.observe (.logged x.logPath (ConnectionLog.listenerFailed event.name fault).record)
    | _, _ => n
  | .resolve owner result => n.observe (.resolved owner result)
  | .await node waiter event => n.observe (.awaited node waiter event)

/-- One turn: take the oldest task, if there is one. -/
def turn (n : Network) : Option Network :=
  match n.tasks with
  | [] => none
  | task :: tasks => some ({ n with tasks }.carryOut task)

/-- Turn until no task is left, at most `limit` times. -/
def settleWithin : Nat → Network → Network
  | 0, n => n
  | limit + 1, n =>
    match n.turn with
    | some n => settleWithin limit n
    | none => n

end PacketLink.Network
