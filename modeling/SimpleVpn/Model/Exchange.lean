import SimpleVpn.Lib.StreamNetwork
import SimpleVpn.Model.Programs

/-!
# The network of the three programs

The client calls the server and the server calls the destination; each host runs its program in its
own time.
-/

namespace SimpleVpn

open CLang

inductive Host where
  | client
  | server
  | destination
  deriving DecidableEq

/-- The client reaches the server under its address, and the server the destination. -/
def vpnTopology (serverAddr destAddr : UInt32) : Topology Host where
  route i address p :=
    match i with
    | .client => if address = networkOctets serverAddr ∧ p = port then some .server else none
    | .server => if address = networkOctets destAddr ∧ p = port then some .destination else none
    | .destination => none
  caller i :=
    match i with
    | .destination => .server
    -- nobody calls the client
    | .server | .client => .client

/-- Sockets on which nothing fails: a call waits until it can succeed. -/
abbrev vpnService (serverAddr destAddr : UInt32) : Service Host (@SysReply Output) :=
  (vpnTopology serverAddr destAddr).service

/-- The network with its failures. -/
abbrev vpnNetwork (serverAddr destAddr : UInt32) : Environment Host (@SysReply Output) Int :=
  (vpnTopology serverAddr destAddr).network

/-- The network as long as no call fails and every `recv` takes one `send` whole. -/
abbrev calmNetwork (serverAddr destAddr : UInt32) : Environment Host (@SysReply Output) Int :=
  (vpnTopology serverAddr destAddr).calm

def exchange (order : ByteOrder) (k : Key) (clientAddr serverAddr destAddr : UInt32)
    (request response : CString) : Network Host (@SysReply Output) Int
  | .client => ⟨clientSession order k (ipAddrText clientAddr) (ipAddrText serverAddr)
      (ipAddrText destAddr) request, []⟩
  | .server => ⟨serverSession order k (ipAddrText serverAddr), []⟩
  | .destination => ⟨destSession order (ipAddrText destAddr) response, []⟩

/-- The three main programs, started with their arguments. -/
def programs (order : ByteOrder) (k : Key) (clientArgv serverArgv destArgv : List CString) (input : Input) :
    Network Host (@SysReply Output) Int
  | .client => ⟨clientMain order k clientArgv input, []⟩
  | .server => ⟨serverMain order k serverArgv, []⟩
  | .destination => ⟨destMain order destArgv, []⟩

end SimpleVpn
