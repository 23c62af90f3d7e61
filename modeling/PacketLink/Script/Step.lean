import PacketLink.Network.Operations

/-!
# Steps of a script

A script drives a network step by step. It calls endpoints, connections, counters, requests,
signals, handlers and listeners by name. This module holds the steps and what a step can answer.
-/

namespace PacketLink.Script

/-- What a connection is created from; what is left out has a default. -/
structure ConnectionOptions where
  format : Option Format
  maxPacketCount : Option Number
  maxMessageSize : Option Number
  logger : Option String

/-- What a hand-driven request is created from; what is left out has a default. -/
structure RequestOptions where
  message : Message
  maxPacketSize : Number
  format : Option Format
  maxPacketCount : Option Number
  signal : Option String
  logger : Option String
  hook : Option Hook

/-- One step. An option that is left out has a default or means that nothing is given. -/
inductive Step where
  | link (first second : String) (maxPacketSize : Number)
  | endpoint (name : String) (maxPacketSize : Number) (peer : Option String)
  | maxPacketSize (endpoint : String)
  | setMaxPacketSize (endpoint : String) (size : Number)
  | failNext (endpoint : String) (message : Option String)
  | hold (endpoint : String)
  | resume (endpoint : String)
  | release (endpoint : String) (error : Option String)
  | drop (endpoint : String) (rule : Option DropRule)
  | submit (endpoint : String) (data : Bytes)
  | handle (endpoint handler : String) (mode : HandlerMode)
  | unhandle (handler : String)
  | counter (name : String) (format : Option Format) (skip : Nat)
  | peek (counter : String)
  | create (name : String) (options : RequestOptions)
  | startRequest (request counter : String) (modes : List SubmitMode)
  | answer (request : String) (outcome : Outcome)
  | cancel (request : String)
  | abort (signal : String)
  | connection (name endpoint : String) (options : ConnectionOptions)
  | start (connection : String)
  | close (connection : String)
  | reset (connection : String)
  | send (connection request : String) (content : Message ⊕ ControlMessage)
      (signal : Option String)
  | receive (connection : String) (data : Bytes)
  | listen (connection listener : String) (event : EventName) (mode : ListenerMode)
  | unlisten (listener : String)
  | awaitEvent (connection waiter : String) (event : EventName)
  /-- Nothing is done but what is left for later. -/
  | idle

/-- Why a step was refused. -/
inductive Refusal where
  | invalidArgument (cause : InvalidArgument)
  | invalidState (cause : InvalidState)
  | create (cause : CreateError)
  | send (cause : SendError)
  | fault (fault : Fault)
  /-- A step calls something by a name that nothing has. -/
  | unknownName

/-- What a step answers. -/
inductive Answer where
  | nothing
  | boolean (b : Bool)
  | number (n : Number)
  | request (request : WriteRequest)
  | reception (reception : Reception)
  | refused (cause : Refusal)

end PacketLink.Script
