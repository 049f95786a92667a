import SimpleVpn.Lib.Sockets
import SimpleVpn.Model.Encrypt
import SimpleVpn.Model.HostInfo
import SimpleVpn.Model.Protocol
import SimpleVpn.Model.Utils

/-!
# Packets

The functions of `packet.c`, `encap.c` and `decap.c`. A packet is the object it is stored
in, and a pointer into it is an index. Freed objects are not tracked, and the message of
`get_packet_size` on standard error is left out.
-/

namespace SimpleVpn

open CLang

/-- The error value `-1` is returned as a `uint8_t`. -/
def getPacketSize (ipProtocol payloadSize : UInt8) : UInt8 :=
  if ipProtocol = ipProtocolTcp then
    UInt8.ofNat (payloadSize.toNat + sizeofTcpHdr + sizeofGreHdr + sizeofIpHdr)
  else 255

def getGreHdr (packetStart : Nat) : Nat := packetStart

def getIpHdr (packetStart : Nat) : Nat := packetStart + sizeofGreHdr

def getTcpHdr (packetStart : Nat) : Nat := packetStart + sizeofGreHdr + sizeofIpHdr

def getPayload (packetStart : Nat) : Nat :=
  packetStart + sizeofGreHdr + sizeofIpHdr + sizeofTcpHdr

def packetDecapsulate (packet : Nat) : Nat := packet + sizeofGreHdr

section Headers

variable (order : ByteOrder)

def loadGreHdr (packet : Buf) (i : Nat) : Mem GreHdr :=
  GreHdr.ofBytes order <$> loadRange packet i sizeofGreHdr

def storeGreHdr (packet : Buf) (i : Nat) (h : GreHdr) : Mem Buf :=
  storeRange packet i (h.toBytes order)

def loadIpHdr (packet : Buf) (i : Nat) : Mem IpHdr :=
  IpHdr.ofBytes order <$> loadRange packet i sizeofIpHdr

def storeIpHdr (packet : Buf) (i : Nat) (h : IpHdr) : Mem Buf :=
  storeRange packet i (h.toBytes order)

def loadTcpHdr (packet : Buf) (i : Nat) : Mem TcpHdr :=
  TcpHdr.ofBytes order <$> loadRange packet i sizeofTcpHdr

def storeTcpHdr (packet : Buf) (i : Nat) (h : TcpHdr) : Mem Buf :=
  storeRange packet i (h.toBytes order)

def packetEncapsulate (packet : Buf) : Mem Buf := do
  let gre ← loadGreHdr order packet (getGreHdr 0)
  let gre := { gre with c := htons order 1 }
  let gre := { gre with protocol := htons order ethertypeIpv4 }
  let gre := { gre with greSum := 0 }
  let gre := { gre with greSum := htons order (cksum order (gre.toBytes order)) }
  storeGreHdr order packet (getGreHdr 0) gre

def setIp (ip : IpHdr) (ipDest ipHost : CString) (ipProtocol payloadSize : UInt8) : IpHdr :=
  let ip := { ip with ipV := ipVersion }
  let ip := { ip with ipLen := htons order (UInt16.ofNat (payloadSize.toNat + sizeofIpHdr)) }
  let ip := { ip with ipP := ipProtocol }
  let ip := { ip with ipSrc := parseIpAddr ipHost }
  let ip := { ip with ipDst := parseIpAddr ipDest }
  let ip := { ip with ipSum := 0 }
  { ip with ipSum := htons order (cksum order (ip.toBytes order)) }

def setTcp (tcp : TcpHdr) (flags : UInt8) : TcpHdr :=
  let tcp := { tcp with srcPort := htons order port }
  let tcp := { tcp with dstPort := htons order port }
  let tcp := { tcp with flags := flags }
  { tcp with tcpSum := htons order (cksum order (tcp.toBytes order)) }

/-- The common part of the two builders: the plaintext packet and the final
`payload_length`. -/
def newPacket (ipSrc ipDest : CString) (ipProtocol : UInt8) (payload : CString) (flags : UInt8) :
    Mem (Buf × Int) := do
  let payloadSize := UInt8.ofNat maxPayloadSize
  let packetSize := (getPacketSize ipProtocol payloadSize).toNat
  let packet ← packetEncapsulate order (calloc packetSize)
  let newIp ← loadIpHdr order packet (getIpHdr 0)
  let packet ← storeIpHdr order packet (getIpHdr 0)
    (setIp order newIp ipDest ipSrc ipProtocol payloadSize)
  let newTcp ← loadTcpHdr order packet (getTcpHdr 0)
  let packet ← storeTcpHdr order packet (getTcpHdr 0) (setTcp order newTcp flags)
  let payloadLength := toInt payload.length
  let packet ← strncpy packet (getPayload 0) payload (toSize payloadLength)
  let payloadLength :=
    if payloadLength > maxPayloadSize - 1 then (maxPayloadSize - 1 : Int) else payloadLength
  let packet ← store packet (getPayload 0 + payloadLength) 0
  return (packet, payloadLength)

def createPackets (k : Key) (ipSrc ipDest : CString) (ipProtocol : UInt8) (payload : CString)
    (flags : UInt8) : Mem Buf := do
  let (packet, payloadLength) ← newPacket order ipSrc ipDest ipProtocol payload flags
  let packetSize := (getPacketSize ipProtocol (UInt8.ofNat maxPayloadSize)).toNat
  let encryptPacket ← xorEncryptDecrypt k packet (calloc packetSize) packetSize
  store encryptPacket (getPayload 0 + payloadLength) 0

def createPacketsDes (ipSrc ipDest : CString) (ipProtocol : UInt8) (payload : CString)
    (flags : UInt8) : Mem Buf := do
  let (packet, _) ← newPacket order ipSrc ipDest ipProtocol payload flags
  return packet

def servHandlePkt (packet : Buf) (serverIp : CString) : Mem (Buf × Nat) := do
  let fixedPkt := packetDecapsulate 0
  let ip ← loadIpHdr order packet (getIpHdr 0)
  let tempLen := ntohs order ip.ipLen
  let ip := { ip with ipLen := 0 }
  let ip := { ip with ipLen := tempLen }
  let tempAddr := parseIpAddr serverIp
  let ip := { ip with ipSrc := 0 }
  let ip := { ip with ipSrc := ntohl order tempAddr }
  let tempAddr := ntohl order ip.ipDst
  let ip := { ip with ipDst := 0 }
  let ip := { ip with ipDst := tempAddr }
  let ip := { ip with ipSum := 0 }
  let ip := { ip with ipSum := htons order (cksum order (ip.toBytes order)) }
  let tempAddr := htonl order ip.ipSrc
  let ip := { ip with ipSrc := 0 }
  let ip := { ip with ipSrc := tempAddr }
  let tempAddr := htonl order ip.ipDst
  let ip := { ip with ipDst := 0 }
  let ip := { ip with ipDst := tempAddr }
  let tempLen := htons order ip.ipLen
  let ip := { ip with ipLen := 0 }
  let ip := { ip with ipLen := tempLen }
  let packet ← storeIpHdr order packet (getIpHdr 0) ip
  return (packet, fixedPkt)

def servHandlePktDest (packet : Buf) (serverIp : CString) : Mem (Buf × Nat) := do
  let fixedPkt := packetDecapsulate 0
  let ip ← loadIpHdr order packet (getIpHdr 0)
  let tempLen := ntohs order ip.ipLen
  let ip := { ip with ipLen := 0 }
  let ip := { ip with ipLen := tempLen }
  let tempAddr := parseIpAddr serverIp
  let ip := { ip with ipDst := 0 }
  let ip := { ip with ipDst := ntohl order tempAddr }
  let tempAddr := ntohl order ip.ipSrc
  let ip := { ip with ipSrc := 0 }
  let ip := { ip with ipSrc := tempAddr }
  let ip := { ip with ipSum := 0 }
  let ip := { ip with ipSum := htons order (cksum order (ip.toBytes order)) }
  let tempAddr := htonl order ip.ipDst
  let ip := { ip with ipDst := 0 }
  let ip := { ip with ipDst := tempAddr }
  let tempAddr := htonl order ip.ipSrc
  let ip := { ip with ipSrc := 0 }
  let ip := { ip with ipSrc := tempAddr }
  let tempLen := htons order ip.ipLen
  let ip := { ip with ipLen := 0 }
  let ip := { ip with ipLen := tempLen }
  let packet ← storeIpHdr order packet (getIpHdr 0) ip
  return (packet, fixedPkt)

def saveClientIp (packet : Buf) : Mem UInt32 := do
  let ip ← loadIpHdr order packet sizeofGreHdr
  return ip.ipSrc

/-! ### Printing -/

/-- What the print functions read of a packet: its headers, the texts of its addresses and
its payload string. -/
structure PacketView where
  gre : Option GreHdr
  ip : IpHdr
  ipSrcStr : CString
  ipDstStr : CString
  tcp : TcpHdr
  payload : CString
  deriving DecidableEq

/-- An address printed into a buffer of 16 bytes and read back as a string. -/
def printIpAddr (ipAddr : UInt32) : Mem CString := do
  let str ← parseIpAddrToStr (calloc 16) ipAddr
  cstringAt str 0

/-- The part common to the two print functions, for a packet whose IP header is at `i`. -/
def printHeaders (gre : Option GreHdr) (packet : Buf) (i : Nat) : Mem PacketView := do
  let ip ← loadIpHdr order packet i
  let ipSrcStr ← printIpAddr ip.ipSrc
  let ipDstStr ← printIpAddr ip.ipDst
  let tcp ← loadTcpHdr order packet (i + sizeofIpHdr)
  let payload ← cstringAt packet (i + sizeofIpHdr + sizeofTcpHdr)
  return ⟨gre, ip, ipSrcStr, ipDstStr, tcp, payload⟩

def printPacket (packet : Buf) : Mem PacketView := do
  let gre ← loadGreHdr order packet (getGreHdr 0)
  printHeaders order (some gre) packet (getIpHdr 0)

def printPacketUnencap (packet : Buf) (packetStart : Nat) : Mem PacketView :=
  printHeaders order none packet packetStart

end Headers

/-! ### Sending and receiving -/

/-- What the programs write to their standard output and standard error: a message with its
string arguments, or a packet. -/
inductive Output where
  | message (format : String) (args : List CString)
  | packet (view : PacketView)
  deriving DecidableEq

abbrev VpnProg := SockProg Output

def sendAndFreePacketVpn (sockfd : Fd) (packetToSend : Buf) (ipProtocol payloadSize : UInt8) :
    VpnProg Int := do
  let packLen := (getPacketSize ipProtocol payloadSize).toNat
  let bytes ← loadRange packetToSend 0 packLen
  if !(← Sock.send sockfd bytes) then
    return -1
  return 0

def servCliEncryptFree (k : Key) (sockfd : Fd) (packetToSend : Buf)
    (ipProtocol payloadSize : UInt8) : VpnProg Int := do
  let packLen := (getPacketSize ipProtocol payloadSize).toNat
  let encryptPacket ← xorEncryptDecrypt k packetToSend (calloc packLen) packLen
  let encryptPacket ← store encryptPacket (getPayload 0 + payloadSize.toNat) 0
  let bytes ← loadRange encryptPacket 0 packLen
  if !(← Sock.send sockfd bytes) then
    return -1
  return 0

/-- The size of the buffer of `serv_rec_from_cli` and `serv_rec_from_des`. -/
def pktSize : Nat := sizeofGreHdr + sizeofIpHdr + sizeofTcpHdr + maxPayloadSize

/-- The size of the buffer of `dest_rec_pkt`. -/
def destPktSize : Nat := sizeofIpHdr + sizeofTcpHdr + maxPayloadSize

/-- The bytes that `recv` wrote into a fresh buffer of `n` bytes. -/
def received (n : Nat) (bytes : Received n) : Buf := overwrite (calloc n) 0 bytes.val

def servRecFromCli (k : Key) (sockfd : Fd) : VpnProg (Option Buf) := do
  match ← Sock.recv sockfd pktSize with
  | none => return none
  | some bytes =>
    let newRecPkt := received pktSize bytes
    let len := toInt (← strlen newRecPkt (getPayload 0))
    let decryptPacket ← xorEncryptDecrypt k newRecPkt (calloc pktSize) pktSize
    let len := if len > maxPayloadSize - 1 then (maxPayloadSize - 1 : Int) else len
    let decryptPacket ← store decryptPacket (getPayload 0 + len) 0
    return some decryptPacket

def servRecFromDes (sockfd : Fd) : VpnProg (Option Buf) := do
  match ← Sock.recv sockfd pktSize with
  | none => return none
  | some bytes => return some (received pktSize bytes)

def destRecPkt (sockfd : Fd) : VpnProg (Option Buf) := do
  match ← Sock.recv sockfd destPktSize with
  | none => return none
  | some bytes => return some (received destPktSize bytes)

end SimpleVpn
