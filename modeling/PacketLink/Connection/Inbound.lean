import PacketLink.Connection.Outbound

/-!
# Receiving, and the life of a connection

Inbound packets go to the reassembler of their kind; bytes that are no packet drop what both of them
hold. A connection starts once, can be reset to a new logical connection, and closes for good.
-/

namespace PacketLink.Connection

/-- Drop the partial inbound messages of both kinds. -/
def resetInbound (c : Connection) : Connection :=
  { c with data := c.data.reset, control := c.control.reset }

/-- The reassembler of the packets of a kind. -/
def inbound (c : Connection) : Kind → Reassembler
  | .data => c.data
  | .control => c.control

def setInbound (c : Connection) (kind : Kind) (r : Reassembler) : Connection :=
  match kind with
  | .data => { c with data := r }
  | .control => { c with control := r }

/-- The event for a complete message of a kind. -/
def delivery (kind : Kind) (data : Bytes) : Event :=
  match kind with
  | .data => .messageReceived data
  | .control => .controlReceived data

/-- Report a framing error. -/
def report (kind : Option Kind) (error : FramingError) : List Effect :=
  [.log (.framingError kind error), .emit (.framingError kind error)]

/-- The effects of what a packet of a kind led to: an error comes before the message that the same
packet completed. -/
def announce (kind : Kind) : Reception → List Effect
  | .pending => []
  | .complete data => [.emit (delivery kind data)]
  | .error error data =>
    report kind error ++ data.toList.map fun data => .emit (delivery kind data)

/-- Process the bytes of one packet from the transport. -/
def receive (c : Connection) (bytes : Bytes) : Turn × Reception :=
  match Packet.decode c.layout bytes with
  | .ok packet =>
    let (r, outcome) := (c.inbound packet.kind).receive packet
    let seen := Effect.log (.received packet.kind packet.counter bytes.length)
    (ask (seen :: announce packet.kind outcome) (c.setInbound packet.kind r), outcome)
  | .error cause =>
    let error := FramingError.ofMalformed cause
    (ask (report none error) c.resetInbound, .error error none)

/-- Begin to take packets from the transport. -/
def start (c : Connection) : Except InvalidState Turn :=
  if c.closed then .error .startClosed
  else if c.listening then .ok (stay c)
  else .ok (ask [.subscribe, .log .started] { c with listening := true })

/-- Take no more packets and cancel every request. A closed connection stays as it is. -/
def close (c : Connection) : Turn :=
  if c.closed then stay c
  else
    (ask (if c.listening then [.unsubscribe] else [])
      { c with closed := true, listening := false }).andThen fun c =>
    c.cancelAll.andThen fun c =>
    ask [.log .closed] c.resetInbound

/-- Cancel every request, start counters over and drop partial inbound messages. -/
def reset (c : Connection) : Turn :=
  c.cancelAll.andThen fun c =>
  ask [.log .reset] { c.resetInbound with counter := c.counter.reset }

end PacketLink.Connection
