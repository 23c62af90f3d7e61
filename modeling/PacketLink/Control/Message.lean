import PacketLink.Number.Numeral

/-!
# Control messages

Setting up and tearing down a connection, and the choice of version and packet size that answers a
connection request.
-/

namespace PacketLink

/-- What a peer is able to speak. -/
structure Capabilities where
  minVersion : Number
  maxVersion : Number
  maxPacketSize : Number
  deriving DecidableEq

/-- A message on the control stream, with the values of its fields. -/
inductive ControlMessage where
  | connectionRequest (capabilities : Capabilities)
  | connectionConfirm (version packetSize : Number)
  | error
  | disconnect
  deriving DecidableEq

/-- The answer to a connection request: the highest version that both sides speak and the smaller
packet size; none when the version ranges do not meet. -/
def Capabilities.negotiate (request supported : Capabilities) : Option ControlMessage :=
  let version := request.maxVersion.min supported.maxVersion
  if version.below (request.minVersion.max supported.minVersion) then none
  else some (.connectionConfirm version (request.maxPacketSize.min supported.maxPacketSize))

end PacketLink
