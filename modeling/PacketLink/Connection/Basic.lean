import PacketLink.Control.Codec
import PacketLink.Reassembly.Reassembler
import PacketLink.Write.Request

/-!
# Connections

One logical connection over a packet transport: a counter, one reassembler for each kind of packet,
and a queue of write requests of which at most one is in flight. Requests are named by their place
in the order of sending. Operations answer with the connection they leave behind and with effects
for the environment, in order. An operation breaks off when the request that it should start has
been started by somebody else.
-/

namespace PacketLink

/-- The kinds of events that a connection emits. -/
inductive EventName where
  | messageReceived
  | controlReceived
  | framingError
  | writeSettled
  deriving DecidableEq

def EventName.text : EventName → String
  | messageReceived => "message-received"
  | controlReceived => "control-received"
  | framingError => "framing-error"
  | writeSettled => "write-settled"

/-- What a connection emits, with what its listeners are told. -/
inductive Event where
  /-- A data message is complete. -/
  | messageReceived (data : Bytes)
  /-- A control message is complete. -/
  | controlReceived (payload : Bytes)
  /-- Inbound framing failed; there is no kind when the bytes were no packet. -/
  | framingError (kind : Option Kind) (error : FramingError)
  /-- The request in this place of the order of sending has its outcome. -/
  | writeSettled (request : Nat) (result : WriteResult)

def Event.name : Event → EventName
  | messageReceived _ => .messageReceived
  | controlReceived _ => .controlReceived
  | framingError .. => .framingError
  | writeSettled .. => .writeSettled

/-- What a connection reports about itself. -/
inductive ConnectionLog where
  | started
  | closed
  | reset
  | received (kind : Kind) (counter : Number) (size : Nat)
  | framingError (kind : Option Kind) (error : FramingError)
  | listenerFailed (event : EventName) (fault : Fault)

namespace ConnectionLog

def level : ConnectionLog → LogLevel
  | received .. => .trace
  | framingError .. => .warning
  | listenerFailed .. => .error
  | _ => .debug

def template : ConnectionLog → String
  | started => "connection started"
  | closed => "connection closed"
  | reset => "connection reset"
  | received .. =>
    "received " ++ gap "kind" ++ " packet " ++ gap "counter" ++ " (" ++ gap "size" ++ " bytes)"
  | framingError .. => "framing error on " ++ gap "kind" ++ " stream: " ++ gap "reason"
  | listenerFailed .. => "listener for " ++ gap "eventName" ++ " failed"

def properties : ConnectionLog → List (String × LogValue)
  | received kind counter size =>
    [("kind", .text kind.name), ("counter", .number counter), ("size", .number size)]
  | framingError kind error =>
    [("kind", .text ((kind.map Kind.name).getD "unknown")), ("reason", .text error.describe)]
  | listenerFailed event fault => [("eventName", .text event.text), ("error", .fault fault)]
  | _ => []

def record (entry : ConnectionLog) : LogRecord := ⟨entry.level, entry.template, entry.properties⟩

end ConnectionLog

/-- Why a message is not sent. -/
inductive SendError where
  | field (cause : FieldOverflow)
  | closed
  | create (cause : CreateError)
  deriving DecidableEq

def SendError.message : SendError → String
  | field cause => cause.message
  | closed => InvalidState.sendClosed.message
  | create cause => cause.message

/-- The state of one connection. -/
structure Connection where
  layout : Layout
  /-- Most packets of an outbound message. -/
  maxPacketCount : Number
  /-- Every request sent so far. -/
  requests : List WriteRequest
  /-- The places of the requests that wait, oldest first. -/
  queue : List Nat
  /-- The place of the request in flight. -/
  active : Option Nat
  counter : Counter
  /-- The inbound stream of data packets. -/
  data : Reassembler
  /-- The inbound stream of control packets. -/
  control : Reassembler
  /-- Whether packets are taken from the transport. -/
  listening : Bool
  closed : Bool

namespace Connection

/-- What a connection asks of its environment. -/
inductive Effect where
  /-- Take packets from the transport from now on. -/
  | subscribe
  /-- Take no more packets from the transport. -/
  | unsubscribe
  | log (entry : ConnectionLog)
  /-- A record of the request in this place. -/
  | writeLog (request : Nat) (entry : WriteLog)
  /-- Hand the packet with this index of a request to the transport. -/
  | submit (request index : Nat) (packet : Bytes)
  /-- A request has its outcome, for whoever sent it. -/
  | resolve (request : Nat) (result : WriteResult)
  | emit (event : Event)

/-- A connection that has sent and received nothing. -/
def new (layout : Layout) (maxPacketCount maxMessageSize : Number) : Connection where
  layout
  maxPacketCount
  requests := []
  queue := []
  active := none
  counter := .start layout
  data := .new layout maxMessageSize
  control := .new layout maxMessageSize
  listening := false
  closed := false

/-- What an operation leaves behind and asks for. -/
structure Turn where
  connection : Connection
  effects : List Effect
  /-- Why the operation broke off, if it did. -/
  refused : Option InvalidState

/-- Ask for some effects. -/
def ask (effects : List Effect) (c : Connection) : Turn := ⟨c, effects, none⟩

/-- An operation that does nothing. -/
def stay (c : Connection) : Turn := ask [] c

/-- One operation after another; the second is left out when the first broke off. -/
def Turn.andThen (turn : Turn) (next : Connection → Turn) : Turn :=
  match turn.refused with
  | some _ => turn
  | none =>
    let later := next turn.connection
    ⟨later.connection, turn.effects ++ later.effects, later.refused⟩

/-- Replace the request in place `k`. -/
def setRequest (c : Connection) (k : Nat) (request : WriteRequest) : Connection :=
  { c with requests := c.requests.set k request }

end Connection

end PacketLink
