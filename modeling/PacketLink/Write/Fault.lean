import PacketLink.Number.Numeral

/-!
# Faults

What a transport or a callback may fail with: an error with a message, a call that the state of a
write request or connection forbids, or any plain value.
-/

namespace PacketLink

/-- A plain value without behaviour. -/
inductive Value where
  | undefined
  | null
  | boolean (b : Bool)
  | number (n : Number)
  | text (s : String)
  | list (items : List Value)
  | record (fields : List (String × Value))

namespace Value

mutual

/-- A value as text, if it has one: a list is its items with commas between them, with nothing for
an item that is no value, and a record shows none of its fields. A record that has a field named
`toString` has no text: the field stands in the place of what would tell the record, and nothing
calls a plain value. Neither has a list that holds such a record. -/
def text? : Value → Option String
  | undefined => some "undefined"
  | null => some "null"
  | boolean b => some (if b then "true" else "false")
  | number n => some n.text
  | text s => some s
  | list items => (itemTexts? items).map (",".intercalate ·)
  | record fields =>
    if fields.any (·.1 = "toString") then none else some "[object Object]"

/-- The texts of the items of a list, if they all have one. -/
def itemTexts? : List Value → Option (List String)
  | [] => some []
  | undefined :: rest => (itemTexts? rest).map ("" :: ·)
  | null :: rest => (itemTexts? rest).map ("" :: ·)
  | item :: rest => (text? item).bind fun text => (itemTexts? rest).map (text :: ·)

end

end Value

/-- How far a write request has come. -/
inductive Phase where
  | pending
  | inFlight
  | completed
  | failed
  | cancelled
  deriving DecidableEq

def Phase.name : Phase → String
  | pending => "pending"
  | inFlight => "in-flight"
  | completed => "completed"
  | failed => "failed"
  | cancelled => "cancelled"

/-- An operation that the current state does not allow. -/
inductive InvalidState where
  | startRequest (id : Nat) (phase : Phase)
  | startClosed
  | sendClosed
  deriving DecidableEq

def InvalidState.message : InvalidState → String
  | startRequest id phase => s!"Cannot start write request {id} in state {phase.name}"
  | startClosed => "Cannot start a closed connection"
  | sendClosed => "Cannot send on a closed connection"

/-- What a submission or a callback failed with. -/
inductive Fault where
  | error (message : String)
  | invalidState (cause : InvalidState)
  | value (v : Value)

/-- What a fault says. One that is a value without a text says nothing. -/
def Fault.message? : Fault → Option String
  | error message => some message
  | invalidState cause => some cause.message
  | value v => v.text?

end PacketLink
