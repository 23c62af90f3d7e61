import PacketLink.Bytes
import PacketLink.Write.Fault

/-!
# Endpoints

One end of an in-process link. A submission is refused, held until it is released, or accepted and
delivered on a later turn, in the order of submission. A drop rule may discard a packet when it is
about to be delivered. `α` names who waits for the outcome of a submission.
-/

namespace PacketLink

/-- Which packets are discarded instead of being delivered. -/
inductive DropRule where
  /-- Packets that begin with this byte. -/
  | firstByte (b : Number)
  /-- The packets at the places that hold `true`, counted from the setting of the rule. -/
  | places (answers : List Bool)

namespace DropRule

/-- Whether to discard a packet, and the rule for the packets after it. -/
def ask : DropRule → Bytes → Bool × DropRule
  | firstByte b, data =>
    ((data.head?.map fun d => (Number.ofNat d.toNat).same b).getD false, firstByte b)
  | places [], _ => (false, places [])
  | places (answer :: rest), _ => (answer, places rest)

end DropRule

/-- A packet handed to an endpoint. -/
structure Submission (α : Type) where
  data : Bytes
  sender : α

/-- What an endpoint was told and what it has to do. -/
structure Endpoint (α : Type) where
  maxPacketSize : Number
  /-- The messages of the errors that the next submissions fail with. -/
  failures : List String
  /-- Whether submissions are held. -/
  holding : Bool
  /-- The held submissions, oldest first. -/
  held : List (Submission α)
  /-- The accepted submissions that are still to be delivered, oldest first. -/
  awaiting : List (Submission α)
  drop : Option DropRule
  /-- Every packet that was not too large, in the order of submission. -/
  submitted : Array Bytes

/-- What becomes of a submission at once. -/
inductive Disposition where
  | refused (fault : Fault)
  | held
  | accepted

namespace Endpoint

variable {α : Type}

def new (maxPacketSize : Number) : Endpoint α :=
  { maxPacketSize, failures := [], holding := false, held := [], awaiting := [], drop := none,
    submitted := #[] }

/-- The error of a packet that is larger than the endpoint accepts. -/
def oversize (size : Nat) (limit : Number) : Fault :=
  .error s!"Packet of {size} bytes exceeds max packet size {limit.text}"

/-- The error of a planned failure, unless another message is planned. -/
def defaultFailure : String := "Simulated write failure"

/-- Submit a packet. A planned failure is used up before holding is looked at. -/
def submit (e : Endpoint α) (submission : Submission α) : Endpoint α × Disposition :=
  let size := submission.data.length
  if e.maxPacketSize.below size then (e, .refused (oversize size e.maxPacketSize))
  else
    let e := { e with submitted := e.submitted.push submission.data }
    match e.failures with
    | message :: failures => ({ e with failures }, .refused (.error message))
    | [] =>
      if e.holding then ({ e with held := e.held ++ [submission] }, .held)
      else ({ e with awaiting := e.awaiting ++ [submission] }, .accepted)

/-- Plan that the next submission without a plan fails with this message. -/
def failNext (e : Endpoint α) (message : String) : Endpoint α :=
  { e with failures := e.failures ++ [message] }

def setMaxPacketSize (e : Endpoint α) (size : Number) : Endpoint α :=
  { e with maxPacketSize := size }

def hold (e : Endpoint α) : Endpoint α := { e with holding := true }

def stopHolding (e : Endpoint α) : Endpoint α := { e with holding := false }

/-- Set the drop rule; its places are counted from now on. -/
def setDrop (e : Endpoint α) (rule : Option DropRule) : Endpoint α := { e with drop := rule }

/-- Take the oldest held submission. -/
def takeHeld (e : Endpoint α) : Option (Submission α × Endpoint α) :=
  match e.held with
  | [] => none
  | oldest :: held => some (oldest, { e with held })

/-- Take the oldest accepted submission that is still to be delivered. -/
def takeAwaiting (e : Endpoint α) : Option (Submission α × Endpoint α) :=
  match e.awaiting with
  | [] => none
  | oldest :: awaiting => some (oldest, { e with awaiting })

/-- Ask the drop rule whether to discard a packet that is about to be delivered. -/
def askDrop (e : Endpoint α) (data : Bytes) : Bool × Endpoint α :=
  match e.drop with
  | none => (false, e)
  | some rule =>
    let (answer, rule) := rule.ask data
    (answer, { e with drop := some rule })

end Endpoint

end PacketLink
