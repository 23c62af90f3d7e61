import PacketLink.Proofs.Connection.Abort
import PacketLink.Proofs.Connection.Absence
import PacketLink.Proofs.Connection.Closing
import PacketLink.Proofs.Connection.Encoding
import PacketLink.Proofs.Connection.Flight
import PacketLink.Proofs.Connection.Gapless
import PacketLink.Proofs.Connection.Inbound
import PacketLink.Proofs.Connection.Kinds
import PacketLink.Proofs.Connection.Mirror
import PacketLink.Proofs.Connection.Omission
import PacketLink.Proofs.Connection.Outstanding
import PacketLink.Proofs.Connection.Parallel
import PacketLink.Proofs.Connection.Plain
import PacketLink.Proofs.Connection.Queue
import PacketLink.Proofs.Connection.Renewal
import PacketLink.Proofs.Connection.Settlement
import PacketLink.Proofs.Connection.Unhindered
import PacketLink.Proofs.Control.Codec
import PacketLink.Proofs.Control.Negotiation
import PacketLink.Proofs.Network.Custody
import PacketLink.Proofs.Network.Delivery
import PacketLink.Proofs.Network.Duplex
import PacketLink.Proofs.Network.Exchange
import PacketLink.Proofs.Network.Loss
import PacketLink.Proofs.Network.Lossless
import PacketLink.Proofs.Network.Release
import PacketLink.Proofs.Network.Settings
import PacketLink.Proofs.Packet.Codec
import PacketLink.Proofs.Reassembly.Length
import PacketLink.Proofs.Reassembly.Whole
import PacketLink.Proofs.Reassembly.Window
import PacketLink.Proofs.Script.Overtaking
import PacketLink.Proofs.Script.Refusal
import PacketLink.Proofs.Transfer.RoundTrip
import PacketLink.Proofs.Write.Life
import PacketLink.Proofs.Write.Partition
import PacketLink.Proofs.Write.Submission
import PacketLink.Transfer
