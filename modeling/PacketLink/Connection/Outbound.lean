import PacketLink.Connection.Basic

/-!
# Sending

Requests wait in a queue and are started one at a time, in the order of sending. When the request in
flight settles, the next one is started in the same operation. A waiting request may also be started
by hand, with a counter of its own: then it takes the slot when its turn comes, and the operation
that wanted to start it breaks off.
-/

namespace PacketLink.Connection

/-- What the connection asks for when the request in place `k` asks for `effect`: an outcome goes to
whoever sent the request and to the listeners. -/
def relay (k : Nat) : WriteRequest.Effect → List Effect
  | .log entry => [.writeLog k entry]
  | .submit index packet => [.submit k index packet]
  | .settle result => [.resolve k result, .emit (.writeSettled k result)]

/-- Record what an operation on the request in place `k` left behind. -/
def update (c : Connection) (k : Nat) (turn : WriteRequest.Turn) : Turn where
  connection := { c.setRequest k turn.request with counter := turn.counter }
  effects := turn.effects.flatMap (relay k)
  refused := none

/-- Start the first request of `queue` that has not settled, if the slot is free. -/
def startFrom : List Nat → Connection → Turn
  | [], c => stay { c with queue := [] }
  | k :: queue, c =>
    if c.active.isSome then stay { c with queue := k :: queue }
    else
      match c.requests[k]? with
      | none => startFrom queue c
      | some request =>
        if request.isSettled then startFrom queue c
        else
          match request.start c.counter with
          | .ok turn =>
            let started := update { c with queue } k turn
            if turn.request.isSettled then started.andThen (startFrom queue)
            else started.andThen fun c => stay { c with active := some k }
          | .error cause => ⟨{ c with queue, active := some k }, [], some cause⟩

/-- Start the next request, if the slot is free. -/
def pump (c : Connection) : Turn := startFrom c.queue c

/-- Give up the slot or the place in the queue that the request in place `k` has. -/
def vacate (c : Connection) (k : Nat) : Connection :=
  if c.active = some k then { c with active := none }
  else { c with queue := c.queue.filter (· ≠ k) }

/-- Go on without the request in place `k`, which has settled. -/
def proceed (c : Connection) (k : Nat) : Turn := (c.vacate k).pump

/-- Record an operation on the request in place `k`; if it settled the request, go on with the next
one. -/
def advance (c : Connection) (k : Nat) (turn : WriteRequest.Turn) : Turn :=
  let updated := update c k turn
  if turn.request.isSettled then updated.andThen fun c => c.proceed k else updated

/-- Pass on the outcome of the request in place `k`, which was started by hand. -/
def noteSettled (c : Connection) (k : Nat) (result : WriteResult) : Turn :=
  (ask (relay k (.settle result)) c).andThen fun c => c.proceed k

/-- Cancel the request in place `k`; the answer says whether this call cancelled it. -/
def cancel (c : Connection) (k : Nat) : Turn × Bool :=
  match c.requests[k]?.bind WriteRequest.cancel with
  | some (request, effects) => (advance c k ⟨request, c.counter, effects⟩, true)
  | none => (stay c, false)

/-- Take note of what became of the submission of packet `index` of the request in place `k`. -/
def conclude (c : Connection) (k index : Nat) (outcome : Outcome) : Turn :=
  match c.requests[k]? with
  | some request =>
    let turn := request.conclude c.counter index outcome
    if request.isSettled then update c k turn else advance c k turn
  | none => stay c

/-- Cancel several requests, one after the other. -/
def cancelEach (ks : List Nat) (c : Connection) : Turn :=
  ks.foldl (fun turn k => turn.andThen fun c => (c.cancel k).1) (stay c)

/-- Cancel every request that waits or is in flight. -/
def cancelAll (c : Connection) : Turn :=
  (cancelEach c.queue { c with queue := [] }).andThen fun c => cancelEach c.active.toList c

/-- Put a request behind the queue and start the next one. A request whose signal is already aborted
is cancelled before it is queued. -/
def enqueue (c : Connection) (request : WriteRequest) (aborted : Bool) : Turn :=
  let k := c.requests.length
  let created := stay { c with requests := c.requests ++ [request] }
  let announced := if aborted then created.andThen fun c => (c.cancel k).1 else created
  announced.andThen fun c => pump { c with queue := c.queue ++ [k] }

/-- Send a message in packets of at most `maxPacketSize` bytes, as the request `id`. -/
def send (c : Connection) (id : Nat) (maxPacketSize : Number) (message : Message)
    (signal : Option String) (aborted : Bool) : Except SendError Turn :=
  if c.closed then .error .closed
  else
    match WriteRequest.create id c.layout maxPacketSize c.maxPacketCount signal message with
    | .ok request => .ok (c.enqueue request aborted)
    | .error cause => .error (.create cause)

/-- Encode a control message and send it. -/
def sendControlMessage (c : Connection) (id : Nat) (maxPacketSize : Number)
    (message : ControlMessage) (signal : Option String) (aborted : Bool) : Except SendError Turn :=
  match message.encode with
  | .ok payload => c.send id maxPacketSize ⟨.control, payload⟩ signal aborted
  | .error cause => .error (.field cause)

end PacketLink.Connection
