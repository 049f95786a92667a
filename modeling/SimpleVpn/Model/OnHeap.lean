import SimpleVpn.Lib.Heap
import SimpleVpn.Model.Programs

/-!
# The programs with their allocations

The functions that allocate and free memory, with every packet and address text in a block of its own.
Allocations succeed; what a block of `malloc` holds at first is the argument `junk`. The functions
that work on one block are those of the other modules.
-/

namespace SimpleVpn.OnHeap

open CLang HeapProg

abbrev HeapVpn := HeapProg (@SysReply Output)

variable (order : ByteOrder) (k : Key) (junk : Ptr → Nat → Buf)

/-- The IP header at index `i` with the texts of its addresses. -/
def printIpHeader (packet : Ptr) (i : Nat) : HeapVpn (IpHdr × CString × CString) := do
  let ip ← loadIpHdr order (← contents packet) i
  let ipSrcStr ← malloc junk 16
  let ipDstStr ← malloc junk 16
  update ipSrcStr (parseIpAddrToStr · ip.ipSrc)
  update ipDstStr (parseIpAddrToStr · ip.ipDst)
  let src ← cstringAt (← contents ipSrcStr) 0
  let dst ← cstringAt (← contents ipDstStr) 0
  free ipSrcStr
  free ipDstStr
  return (ip, src, dst)

def showPacket (packet : Ptr) : HeapVpn Unit := do
  let gre ← loadGreHdr order (← contents packet) (getGreHdr 0)
  let (ip, src, dst) ← printIpHeader order junk packet (getIpHdr 0)
  let tcp ← loadTcpHdr order (← contents packet) (getTcpHdr 0)
  let payload ← cstringAt (← contents packet) (getPayload 0)
  (Sock.print (.packet ⟨some gre, ip, src, dst, tcp, payload⟩) : VpnProg Unit)

def showPacketUnencap (packet : Ptr) (packetStart : Nat) : HeapVpn Unit := do
  let (ip, src, dst) ← printIpHeader order junk packet packetStart
  let tcp ← loadTcpHdr order (← contents packet) (packetStart + sizeofIpHdr)
  let payload ← cstringAt (← contents packet) (packetStart + sizeofIpHdr + sizeofTcpHdr)
  (Sock.print (.packet ⟨none, ip, src, dst, tcp, payload⟩) : VpnProg Unit)

/-- The common part of the two builders, from the header of `packet` to its terminator; the final
`payload_length`. -/
def fillPacket (packet : Ptr) (ipSrc ipDest : CString) (ipProtocol : UInt8) (payload : CString)
    (flags : UInt8) : HeapVpn Int := do
  let payloadSize := UInt8.ofNat maxPayloadSize
  update packet (packetEncapsulate order)
  update packet fun b => do
    let newIp ← loadIpHdr order b (getIpHdr 0)
    storeIpHdr order b (getIpHdr 0) (setIp order newIp ipDest ipSrc ipProtocol payloadSize)
  update packet fun b => do
    let newTcp ← loadTcpHdr order b (getTcpHdr 0)
    storeTcpHdr order b (getTcpHdr 0) (setTcp order newTcp flags)
  let payloadLength := toInt payload.length
  update packet (strncpy · (getPayload 0) payload (toSize payloadLength))
  let payloadLength :=
    if payloadLength > maxPayloadSize - 1 then (maxPayloadSize - 1 : Int) else payloadLength
  update packet (store · (getPayload 0 + payloadLength) 0)
  return payloadLength

def createPackets (ipSrc ipDest : CString) (ipProtocol : UInt8) (payload : CString)
    (flags : UInt8) : HeapVpn Ptr := do
  let packetSize := (getPacketSize ipProtocol (UInt8.ofNat maxPayloadSize)).toNat
  let newPacket ← HeapProg.calloc packetSize
  let encryptPacket ← HeapProg.calloc packetSize
  let payloadLength ← fillPacket order newPacket ipSrc ipDest ipProtocol payload flags
  let input ← contents newPacket
  update encryptPacket (xorEncryptDecrypt k input · packetSize)
  update encryptPacket (store · (getPayload 0 + payloadLength) 0)
  free newPacket
  return encryptPacket

def createPacketsDes (ipSrc ipDest : CString) (ipProtocol : UInt8) (payload : CString)
    (flags : UInt8) : HeapVpn Ptr := do
  let packetSize := (getPacketSize ipProtocol (UInt8.ofNat maxPayloadSize)).toNat
  let newPacket ← HeapProg.calloc packetSize
  let _ ← fillPacket order newPacket ipSrc ipDest ipProtocol payload flags
  return newPacket

def sendAndFreePacketVpn (sockfd : Fd) (packetToSend : Ptr) (ipProtocol payloadSize : UInt8) :
    HeapVpn Int := do
  let packLen := (getPacketSize ipProtocol payloadSize).toNat
  let bytes ← loadRange (← contents packetToSend) 0 packLen
  if !(← (Sock.send sockfd bytes : VpnProg Bool)) then
    return -1
  free packetToSend
  return 0

def servCliEncryptFree (sockfd : Fd) (packetToSend : Ptr) (ipProtocol payloadSize : UInt8) :
    HeapVpn Int := do
  let packLen := (getPacketSize ipProtocol payloadSize).toNat
  let encryptPacket ← HeapProg.calloc packLen
  let input ← contents packetToSend
  update encryptPacket (xorEncryptDecrypt k input · packLen)
  update encryptPacket (store · (getPayload 0 + payloadSize.toNat) 0)
  let bytes ← loadRange (← contents encryptPacket) 0 packLen
  if !(← (Sock.send sockfd bytes : VpnProg Bool)) then
    return -1
  free packetToSend
  free encryptPacket
  return 0

def servRecFromCli (sockfd : Fd) : HeapVpn (Option Ptr) := do
  let newRecPkt ← HeapProg.calloc pktSize
  match ← (Sock.recv sockfd pktSize : VpnProg _) with
  | none => return none
  | some bytes =>
    update newRecPkt fun b => pure (overwrite b 0 bytes.val)
    let len := toInt (← strlen (← contents newRecPkt) (getPayload 0))
    let decryptPacket ← HeapProg.calloc pktSize
    let input ← contents newRecPkt
    update decryptPacket (xorEncryptDecrypt k input · pktSize)
    let len := if len > maxPayloadSize - 1 then (maxPayloadSize - 1 : Int) else len
    update decryptPacket (store · (getPayload 0 + len) 0)
    free newRecPkt
    return some decryptPacket

/-- `serv_rec_from_des` and `dest_rec_pkt` differ in the size of the block. -/
def receivePkt (sockfd : Fd) (size : Nat) : HeapVpn (Option Ptr) := do
  let newRecPkt ← HeapProg.calloc size
  match ← (Sock.recv sockfd size : VpnProg _) with
  | none => return none
  | some bytes =>
    update newRecPkt fun b => pure (overwrite b 0 bytes.val)
    return some newRecPkt

def servRecFromDes (sockfd : Fd) : HeapVpn (Option Ptr) := receivePkt sockfd pktSize

def destRecPkt (sockfd : Fd) : HeapVpn (Option Ptr) := receivePkt sockfd destPktSize

/-- The client from the creation of its socket on. -/
def clientSession (clientIp serverIp destIp payload : CString) : HeapVpn Int := do
  match ← createClientSocket with
  | none => return -1
  | some clientFd =>
    if (← connectToServer clientFd serverIp) = -1 then
      (Sock.close clientFd : VpnProg Unit)
      return -1
    else
      say "Checking before create packet.\n"
      let packet ← createPackets order k clientIp destIp ipProtocolTcp payload tcpFlagSyn
      showPacket order junk packet
      if (← sendAndFreePacketVpn clientFd packet ipProtocolTcp (UInt8.ofNat payload.length)) = -1 then
        say "Error during sending packet to the server via socket.\n"
      -- the reply is printed without a check for NULL
      let respPkt ← deref (← servRecFromCli k clientFd)
      showPacket order junk respPkt
      free respPkt
      (Sock.close clientFd : VpnProg Unit)
      return 0

def clientMain (argv : List CString) (input : Input) : HeapVpn Int := do
  match argv with
  | [_, clientHostName, serverHostName] =>
    say "Enter the destination name (must be less than 5 characters): "
    let destHostName ← readHostName input
    match getHostIp clientHostName, getHostIp serverHostName, getHostIp destHostName with
    | some clientIp, some serverIp, some destIp =>
      if clientIp = serverIp ∨ clientIp = destIp ∨ serverIp = destIp then
        say "Cannot have same name for client, server, or client.\n"
        return 0
      else clientSession order k junk clientIp serverIp destIp clientPayload
    | _, _, _ =>
      say "Invalid client, server, or destination name.\n"
      return 0
  | _ =>
    say "Unexpected number of arguements.     Enter arguements: client_host_name VPNserver_host_name"
    return 0

/-- The server from the reception of the client's packet to its transmission to the
destination: the socket to the destination and the client's address. -/
def serverRelay (newSocket : Fd) (serverIp : CString) : HeapVpn (Option (Fd × UInt32)) := do
  match ← servRecFromCli k newSocket with
  | none =>
    say "Error occured when rec packet from client via socket.\n"
    return none
  | some recPacket =>
    showPacket order junk recPacket
    let clientIp ← saveClientIp order (← contents recPacket)
    let fixedPkt := packetDecapsulate 0
    update recPacket fun b => Prod.fst <$> servHandlePkt order b serverIp
    match ← createClientSocket with
    | none => return none
    | some clientFd =>
      let destIp ← malloc junk 16
      let fixedIp ← loadIpHdr order (← contents recPacket) fixedPkt
      update destIp (parseIpAddrToStr · fixedIp.ipDst)
      if (← connectToServer clientFd (← cstringAt (← contents destIp) 0)) = -1 then
        (Sock.close clientFd : VpnProg Unit)
        return none
      else
        free destIp
        let packLen := maxPayloadSize + sizeofTcpHdr + sizeofIpHdr
        let bytes ← loadRange (← contents recPacket) fixedPkt packLen
        if !(← (Sock.send clientFd bytes : VpnProg Bool)) then
          say "Error during sending packet to the server via socket.\n"
          return none
        else
          free recPacket
          say "---Packet sent to the destination. Waiting for a response.---\n"
          return some (clientFd, clientIp)

/-- The server from the reception of the destination's packet to its transmission to the
client. -/
def serverReply (newSocket clientFd : Fd) (clientIp : UInt32) : HeapVpn Unit := do
  let recPacketDest ← servRecFromDes clientFd
  let packetSize := UInt8.ofNat (maxPayloadSize + sizeofTcpHdr + sizeofGreHdr + sizeofIpHdr)
  let encPkt ← HeapProg.calloc packetSize.toNat
  update encPkt (packetEncapsulate order)
  -- the packet is copied without a check for NULL
  let recPacketDest ← deref recPacketDest
  let input ← contents recPacketDest
  update encPkt (memcpy · sizeofGreHdr input (sizeofIpHdr + sizeofTcpHdr + maxPayloadSize))
  let clientStrIp ← malloc junk 16
  update clientStrIp (parseIpAddrToStr · clientIp)
  let text ← cstringAt (← contents clientStrIp) 0
  update encPkt fun b => Prod.fst <$> servHandlePktDest order b text
  showPacket order junk encPkt
  let payloadLength ← strlen (← contents encPkt) (sizeofGreHdr + sizeofIpHdr + sizeofTcpHdr)
  let _ ← servCliEncryptFree k newSocket encPkt ipProtocolTcp (UInt8.ofNat payloadLength)
  free recPacketDest
  free clientStrIp

/-- The server from the creation of its socket on. -/
def serverSession (serverIp : CString) : HeapVpn Int := do
  let serverFd ← createListeningSocket
  let newSocket ← acceptConnection serverFd
  match ← serverRelay order k junk newSocket serverIp with
  | none => return -1
  | some (clientFd, clientIp) =>
    serverReply order k junk newSocket clientFd clientIp
    (Sock.close newSocket : VpnProg Unit)
    (Sock.shutdown serverFd : VpnProg Unit)
    return 0

def serverMain (argv : List CString) : HeapVpn Int := do
  match argv with
  | [_, serverHostName] =>
    match getHostIp serverHostName with
    | some serverIp => serverSession order k junk serverIp
    | none =>
      say "Invalid server name.\n"
      return 0
  | _ =>
    say "Unexpected number of arguements.     Enter arguements: VPNserver_host_name"
    return 0

/-- The destination from the creation of its socket on. -/
def destSession (hostIp responseMsg : CString) : HeapVpn Int := do
  let destFd ← createListeningSocket
  let newSocket ← acceptConnection destFd
  match ← destRecPkt newSocket with
  | none =>
    say "Error receiving packet.\n"
    return -1
  | some recPacket =>
    showPacketUnencap order junk recPacket 0
    let ipHeader ← loadIpHdr order (← contents recPacket) 0
    let clientIpStr ← malloc junk 16
    update clientIpStr (parseIpAddrToStr · ipHeader.ipSrc)
    let responsePkt ← createPacketsDes order hostIp (← cstringAt (← contents clientIpStr) 0)
      ipProtocolTcp responseMsg tcpFlagAck
    let fixedPkt := packetDecapsulate 0
    showPacketUnencap order junk responsePkt fixedPkt
    let packLen := (getPacketSize ipProtocolTcp (UInt8.ofNat responseMsg.length)).toNat
    let bytes ← loadRange (← contents responsePkt) fixedPkt packLen
    if !(← (Sock.send newSocket bytes : VpnProg Bool)) then
      return -1
    else
      free recPacket
      free responsePkt
      free clientIpStr
      (Sock.close newSocket : VpnProg Unit)
      (Sock.close destFd : VpnProg Unit)
      return 0

def destMain (argv : List CString) : HeapVpn Int := do
  match argv with
  | [_, destHostName] =>
    match getHostIp destHostName with
    | some hostIp => destSession order junk hostIp responseMsg
    | none =>
      (Sock.print (.message "Invalid host name: %s\n" [destHostName]) : VpnProg Unit)
      return 0
  | _ =>
    say "Unexpected number of arguements.     Enter arguements: VPNserver_host_name"
    return 0

end SimpleVpn.OnHeap
