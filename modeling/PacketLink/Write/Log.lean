import PacketLink.Packet.Basic
import PacketLink.InvalidArgument
import PacketLink.Write.Fault

/-!
# Log records

A record has a level, a template with named gaps, and properties of which some fill the gaps.
-/

namespace PacketLink

/-- A submission that the transport did not accept. It repeats what the cause says, so there is none
for a cause that says nothing. -/
structure SubmitError where
  packetIndex : Nat
  cause : Fault
  told : cause.message?.isSome

def SubmitError.message (e : SubmitError) : String :=
  s!"Transport rejected packet {e.packetIndex}: {e.cause.message?.get e.told}"

/-- Why a write request failed. -/
inductive WriteFailure where
  | submit (e : SubmitError)
  | encode (e : InvalidArgument)

/-- How important a record is. -/
inductive LogLevel where
  | trace
  | debug
  | warning
  | error
  deriving DecidableEq

def LogLevel.name : LogLevel → String
  | trace => "trace"
  | debug => "debug"
  | warning => "warning"
  | error => "error"

/-- A property of a log record. -/
inductive LogValue where
  | number (n : Number)
  | text (s : String)
  | failure (e : WriteFailure)
  | fault (e : Fault)

/-- A record as it is given to the sink: its level, its text with gaps, and what fills them. -/
structure LogRecord where
  level : LogLevel
  template : String
  properties : List (String × LogValue)

/-- The gap of a template that the named property fills. -/
def gap (property : String) : String := "\x7b" ++ property ++ "\x7d"

/-- What a write request reports about itself. -/
inductive WriteLog where
  | started (count : Nat)
  | submitting (index counter size : Nat)
  | encodeFailed (index : Nat) (e : InvalidArgument)
  | submitFailed (e : SubmitError)
  | settled (phase : Phase) (sent : Nat)
  /-- A submission outcome came after the request had settled. -/
  | outcomeIgnored (index : Nat) (phase : Phase)

namespace WriteLog

def level : WriteLog → LogLevel
  | submitting .. => .trace
  | encodeFailed .. => .warning
  | submitFailed .. => .warning
  | _ => .debug

def template : WriteLog → String
  | started _ => "write request " ++ gap "requestId" ++ " started: " ++ gap "count" ++ " packets"
  | submitting .. =>
    "submit packet " ++ gap "index" ++ " (counter " ++ gap "counter" ++ ", " ++ gap "size" ++
      " bytes)"
  | encodeFailed .. =>
    "write request " ++ gap "requestId" ++ " cannot encode packet " ++ gap "index"
  | submitFailed _ => "write request " ++ gap "requestId" ++ " failed at packet " ++ gap "index"
  | settled .. =>
    "write request " ++ gap "requestId" ++ " " ++ gap "state" ++ " after " ++ gap "sent" ++
      " packets"
  | outcomeIgnored .. =>
    "ignoring submission result for packet " ++ gap "index" ++ " after " ++ gap "state"

def properties : WriteLog → List (String × LogValue)
  | started count => [("count", .number count)]
  | submitting index counter size =>
    [("index", .number index), ("counter", .number counter), ("size", .number size)]
  | encodeFailed index e => [("index", .number index), ("error", .failure (.encode e))]
  | submitFailed e => [("index", .number e.packetIndex), ("error", .failure (.submit e))]
  | settled phase sent => [("state", .text phase.name), ("sent", .number sent)]
  | outcomeIgnored index phase => [("index", .number index), ("state", .text phase.name)]

/-- The record of the request with this id and kind. -/
def record (entry : WriteLog) (id : Nat) (kind : Kind) : LogRecord where
  level := entry.level
  template := entry.template
  properties := [("requestId", .number id), ("kind", .text kind.name)] ++ entry.properties

end WriteLog

end PacketLink
