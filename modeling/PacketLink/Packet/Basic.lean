import PacketLink.Bytes
import PacketLink.Number.Basic

/-!
# Packets

A fragment is one slice of a message, flagged as its first or last; a packet is a fragment that has
been stamped with a counter.
-/

namespace PacketLink

/-- The two streams that share a link. -/
inductive Kind where
  | data
  | control
  deriving DecidableEq, Inhabited

def Kind.name : Kind → String
  | .data => "data"
  | .control => "control"

/-- A slice of a message before a counter has been drawn for it. -/
structure Fragment where
  kind : Kind
  isFirst : Bool
  isLast : Bool
  payload : Bytes
  deriving DecidableEq, Inhabited

/-- A fragment with its counter. -/
structure Packet extends Fragment where
  counter : Number
  deriving DecidableEq, Inhabited

/-- Attach a counter to a fragment. -/
def Fragment.stamp (fragment : Fragment) (counter : Number) : Packet := { fragment with counter }

/-- The same packet with another counter. -/
def Packet.withCounter (packet : Packet) (counter : Number) : Packet := { packet with counter }

end PacketLink
