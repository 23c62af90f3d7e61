import PacketLink.Bytes
import PacketLink.Control.Message

/-!
# Wire form of control messages

The first byte of a control payload is the command; two-byte big-endian fields follow. Every command
fixes the length of its payload.
-/

namespace PacketLink

/-- The commands, without their fields. -/
inductive Command where
  | connectionRequest
  | connectionConfirm
  | error
  | disconnect
  deriving DecidableEq

namespace Command

/-- The first byte of a payload with this command. -/
def code : Command → UInt8
  | connectionRequest => 0
  | connectionConfirm => 1
  | error => 2
  | disconnect => 3

def ofCode? (code : UInt8) : Option Command :=
  match code with
  | 0 => some connectionRequest
  | 1 => some connectionConfirm
  | 2 => some error
  | 3 => some disconnect
  | _ => none

def name : Command → String
  | connectionRequest => "connection-request"
  | connectionConfirm => "connection-confirm"
  | error => "error"
  | disconnect => "disconnect"

/-- Number of bytes of a payload with this command. -/
def size : Command → Nat
  | connectionRequest => 7
  | connectionConfirm => 5
  | error => 1
  | disconnect => 1

/-- Every command is found under its code. -/
@[simp] theorem ofCode?_code (command : Command) : ofCode? command.code = some command := by
  cases command <;> rfl

end Command

/-- Number of values of a two-byte field. -/
def fieldSpace : Nat := 65536

/-- A field of a control message that is not a natural number below `fieldSpace`. -/
structure FieldOverflow where
  value : Number
  deriving DecidableEq

def FieldOverflow.message (e : FieldOverflow) : String :=
  s!"Control field {e.value.text} does not fit in 16 bits"

/-- Why a payload is no control message. -/
inductive ControlDecodeError where
  | empty
  | unknownCommand (code : UInt8)
  | truncated (command : Command) (got : Nat)
  | trailingBytes (command : Command) (got : Nat)
  deriving DecidableEq

def ControlDecodeError.message : ControlDecodeError → String
  | empty => "Empty control payload"
  | unknownCommand code => s!"Unknown control command: 0x{hexText 2 code.toNat}"
  | truncated command got =>
    s!"{command.name} too short: expected {command.size} bytes, got {got}"
  | trailingBytes command got =>
    s!"{command.name} has {got - command.size} unexpected trailing bytes"

namespace ControlMessage

def command : ControlMessage → Command
  | connectionRequest _ => .connectionRequest
  | connectionConfirm .. => .connectionConfirm
  | error => .error
  | disconnect => .disconnect

/-- The numeric fields in the order in which they are written. -/
def fields : ControlMessage → List Number
  | connectionRequest c => [c.minVersion, c.maxVersion, c.maxPacketSize]
  | connectionConfirm version packetSize => [version, packetSize]
  | error => []
  | disconnect => []

/-- The two bytes of a numeric field. -/
def encodeField (value : Number) : Except FieldOverflow Bytes :=
  match value.toNat? with
  | some n => if n < fieldSpace then .ok (Bytes.bigEndian 2 n) else .error ⟨value⟩
  | none => .error ⟨value⟩

/-- Write a control message; the first field that does not fit is reported. -/
def encode (message : ControlMessage) : Except FieldOverflow Bytes := do
  let fields ← message.fields.mapM encodeField
  return message.command.code :: fields.flatten

/-- The message with this command whose fields follow the command byte in `data`. -/
def read (command : Command) (data : Bytes) : ControlMessage :=
  let field (i : Nat) : Number := .ofNat (Bytes.uint16At data (1 + 2 * i))
  match command with
  | .connectionRequest => connectionRequest ⟨field 0, field 1, field 2⟩
  | .connectionConfirm => connectionConfirm (field 0) (field 1)
  | .error => error
  | .disconnect => disconnect

/-- Read a control message. -/
def decode (data : Bytes) : Except ControlDecodeError ControlMessage :=
  match data with
  | [] => .error .empty
  | code :: _ =>
    match Command.ofCode? code with
    | none => .error (.unknownCommand code)
    | some command =>
      if data.length < command.size then .error (.truncated command data.length)
      else if command.size < data.length then .error (.trailingBytes command data.length)
      else .ok (read command data)

end ControlMessage

end PacketLink
