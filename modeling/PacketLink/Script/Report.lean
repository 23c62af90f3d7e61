import PacketLink.Script.Step

/-!
# Reports

What could be noticed during one step of a script, sorted by who noticed it.
-/

namespace PacketLink.Script

/-- An event, with the name of the request that it is about. -/
structure NamedEvent where
  event : Event
  request : Option String

/-- Where a request stands: its phase, the packets accepted, and whether it has settled. -/
structure Standing where
  phase : Phase
  sentCount : Nat
  isSettled : Bool
  deriving DecidableEq

def Standing.of (request : WriteRequest) : Standing :=
  ⟨request.phase, request.sentCount, request.isSettled⟩

/-- The places, counted from `place` on, at which the second list holds something else than the
first. -/
def changedPlaces {α : Type} [DecidableEq α] (place : Nat) : List α → List α → List Nat
  | _, [] => []
  | [], _ :: after => place :: changedPlaces (place + 1) [] after
  | a :: before, b :: after =>
    if a = b then changedPlaces (place + 1) before after
    else place :: changedPlaces (place + 1) before after

/-- What a connection shows: the name of the request in flight, the number of waiting requests, and
whether it is closed. -/
structure ConnectionStanding where
  active : Option String
  queued : Nat
  closed : Bool

/-- Items under names, in the order in which the names first came up. -/
abbrev Sorted (α : Type) := List (String × List α)

/-- Sort items by name. -/
def sortByName {α : Type} (items : List (String × α)) : Sorted α :=
  (items.map (·.1)).eraseDups.map fun name =>
    (name, items.filterMap fun (other, a) => if other = name then some a else none)

/-- What has happened in a step, as an observer tells it. -/
structure Report where
  answer : Answer
  /-- Packets submitted at endpoints. -/
  submitted : Sorted Bytes
  /-- Numbers of held submissions that are not zero. -/
  held : List (String × Nat)
  /-- Packets taken by handlers, by endpoint and handler. -/
  handled : List (String × Sorted Bytes)
  /-- Outcomes of callers' submissions, by endpoint. -/
  concluded : Sorted (Nat × Outcome)
  /-- Packets submitted by requests that were started by hand. -/
  called : Sorted Bytes
  settled : Sorted (Phase × WriteResult)
  hooked : Sorted HookResult
  /-- Outcomes of requests, as seen by whoever sent them. -/
  resolved : List (String × WriteResult)
  /-- The requests whose standing is another than before the step. -/
  requests : List (String × Standing)
  connections : List (String × ConnectionStanding)
  /-- Events of connections. -/
  emitted : Sorted NamedEvent
  /-- Events taken by listeners. -/
  heard : Sorted NamedEvent
  replied : Sorted (Except SendError WriteRequest)
  /-- Events taken by waiters. -/
  awaited : Sorted NamedEvent
  /-- Log records by path. -/
  logged : List (List String × LogRecord)

end PacketLink.Script
