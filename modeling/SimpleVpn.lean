import SimpleVpn.Model.Programs
import SimpleVpn.Proofs.WireImage
import SimpleVpn.Proofs.Receive
import SimpleVpn.Proofs.Tunnel
import SimpleVpn.Proofs.Delivery
import SimpleVpn.Proofs.Segmentation
import SimpleVpn.Proofs.Sessions
import SimpleVpn.Proofs.Reply
import SimpleVpn.Proofs.Forward
import SimpleVpn.Proofs.KeyMaterial
import SimpleVpn.Lib.OnesComplement
import SimpleVpn.Proofs.Checksum
import SimpleVpn.Proofs.InternetChecksum
import SimpleVpn.Proofs.Rewrite
import SimpleVpn.Proofs.HeaderChecksums
import SimpleVpn.Lib.Processes
import SimpleVpn.Lib.SocketNetwork
import SimpleVpn.Proofs.Exchange
import SimpleVpn.Proofs.Frame
import SimpleVpn.Proofs.Lengths
import SimpleVpn.Lib.Calls
import SimpleVpn.Proofs.FailedReceive
import SimpleVpn.Lib.Keystream
import SimpleVpn.Proofs.CipherParts
import SimpleVpn.Lib.Heap
import SimpleVpn.Model.OnHeap
import SimpleVpn.Proofs.Outcomes
import SimpleVpn.Proofs.Runs
import SimpleVpn.Proofs.Descriptors
import SimpleVpn.Lib.Descriptors
import SimpleVpn.Proofs.OnPackets
import SimpleVpn.Lib.Roles
import SimpleVpn.Proofs.Roles
import SimpleVpn.Proofs.Mains
import SimpleVpn.Lib.Environments
import SimpleVpn.Lib.StreamNetwork
import SimpleVpn.Lib.CalmRuns
import SimpleVpn.Lib.Deeds
import SimpleVpn.Proofs.Deeds
import SimpleVpn.Proofs.Legs
import SimpleVpn.Proofs.Safety
import SimpleVpn.Lib.Errors
import SimpleVpn.Proofs.Errors
import SimpleVpn.Proofs.Eavesdropping
import SimpleVpn.Proofs.ByteOrders
import SimpleVpn.Lib.Refinement
import SimpleVpn.Proofs.Relay
import SimpleVpn.Proofs.Termination
