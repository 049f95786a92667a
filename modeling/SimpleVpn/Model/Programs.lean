import SimpleVpn.Model.Packet

/-!
# The three programs

The functions of `client.c`, `server.c` and `destination.c`. A main function is split where
its command line has been read: the session that follows takes the addresses as arguments.
-/

namespace SimpleVpn

open CLang

def say (text : String) : VpnProg Unit := Sock.print (.message text [])

def exitFailure : Int := 1

/-- `create_client_socket` of the client and of the server; `none` is `-1`. -/
def createClientSocket : VpnProg (Option Fd) := do
  match ← Sock.socket with
  | none =>
    say "\n Socket creation error \n"
    return none
  | some clientFd => return some clientFd

/-- `connect_to_server` of the client and of the server. -/
def connectToServer (clientFd : Fd) (serverIp : CString) : VpnProg Int := do
  match ← Sock.inetPton serverIp with
  | none =>
    say "\nInvalid address/ Address not supported \n"
    return -1
  | some address =>
    if ← Sock.connect clientFd address port then
      say "Connected to server\n"
      return 0
    else
      say "\nConnection Failed \n"
      return -1

/-- `create_server_socket` of the server and `create_dest_socket` of the destination. -/
def createListeningSocket : VpnProg Fd := do
  match ← Sock.socket with
  | none =>
    say "socket failed"
    Prog.exit exitFailure
  | some fd =>
    if !(← Sock.setsockopt fd) then
      say "setsockopt"
      Prog.exit exitFailure
    else if !(← Sock.bind fd port) then
      say "bind failed"
      Prog.exit exitFailure
    else if !(← Sock.listen fd) then
      say "listen"
      Prog.exit exitFailure
    else return fd

/-- `accept_client_connection` of the server and `accept_dest_connection` of the
destination. -/
def acceptConnection (fd : Fd) : VpnProg Fd := do
  match ← Sock.accept fd with
  | none =>
    say "accept"
    Prog.exit exitFailure
  | some newSocket => return newSocket

section Sessions

variable (order : ByteOrder) (k : Key)

def showPacket (packet : Buf) : VpnProg Unit := do
  Sock.print (.packet (← printPacket order packet))

def showPacketUnencap (packet : Buf) (packetStart : Nat) : VpnProg Unit := do
  Sock.print (.packet (← printPacketUnencap order packet packetStart))

/-! ### Client -/

def clientPayload : CString := .lit "payload"

/-- The client from the creation of its socket on. -/
def clientSession (clientIp serverIp destIp payload : CString) : VpnProg Int := do
  match ← createClientSocket with
  | none => return -1
  | some clientFd =>
    if (← connectToServer clientFd serverIp) = -1 then
      Sock.close clientFd
      return -1
    else
      say "Checking before create packet.\n"
      let packet ← createPackets order k clientIp destIp ipProtocolTcp payload tcpFlagSyn
      showPacket order packet
      if (← sendAndFreePacketVpn clientFd packet ipProtocolTcp (UInt8.ofNat payload.length)) = -1 then
        say "Error during sending packet to the server via socket.\n"
      -- the reply is printed without a check for NULL
      let respPkt ← deref (← servRecFromCli k clientFd)
      showPacket order respPkt
      Sock.close clientFd
      return 0

def maxNameLength : Nat := 5

/-- The standard input of the client, and what its array for the name of the destination holds before. -/
structure Input where
  stdin : List UInt8
  array : Vector UInt8 maxNameLength

/-- A line that somebody has typed, for an array that holds zeros. -/
def typed (line : String) : Input := ⟨(CString.lit line).bytes, Vector.replicate maxNameLength 0⟩

/-- The name of the destination: `fgets` into the array, cut at the newline. -/
def readHostName (input : Input) : Mem CString := do
  let destHostName := fgets input.array.toList input.stdin
  let destHostName ← store destHostName (← strcspn destHostName newline) 0
  cstringAt destHostName 0

/-- The input is at its end, and neither a newline nor a NUL ends what the array holds. -/
def Input.Missing (input : Input) : Prop :=
  input.stdin = [] ∧ newline ∉ input.array.toList ∧ 0 ∉ input.array.toList

/-- A name is read, unless the search for the newline leaves the array. -/
lemma readHostName_cases (input : Input) : (∃ name, readHostName input = pure name) ∨
    input.Missing ∧ readHostName input = .fault (.load maxNameLength maxNameLength) := by
  have hlen : (fgets input.array.toList input.stdin).length = maxNameLength := by
    rw [length_fgets _ (by rw [Vector.length_toList]; decide), Vector.length_toList]
  by_cases hmem : newline ∈ fgets input.array.toList input.stdin ∨ 0 ∈ fgets input.array.toList input.stdin
  · obtain ⟨n, hn, hscan⟩ := strcspn_of_mem hmem
    have hzero : (0 : UInt8) ∈ ((fgets input.array.toList input.stdin).set n 0).drop 0 := by
      rw [List.drop_zero]
      exact List.mem_set hn 0
    refine .inl ⟨.textOf (((fgets input.array.toList input.stdin).set n 0).drop 0), ?_⟩
    rw [readHostName, hscan, pure_bind, store_of_lt hn, pure_bind, cstringAt_of_mem hzero]
  · have hend : input.stdin = [] := by
      by_contra hne
      exact hmem (.inr (zero_mem_fgets _ hne))
    rw [readHostName, strcspn_of_not_mem hmem, hlen]
    rw [fgets, if_pos hend, not_or] at hmem
    exact .inr ⟨⟨hend, hmem⟩, rfl⟩

def clientMain (argv : List CString) (input : Input) : VpnProg Int := do
  match argv with
  | [_, clientHostName, serverHostName] =>
    say "Enter the destination name (must be less than 5 characters): "
    let destHostName ← readHostName input
    match getHostIp clientHostName, getHostIp serverHostName, getHostIp destHostName with
    | some clientIp, some serverIp, some destIp =>
      if clientIp = serverIp ∨ clientIp = destIp ∨ serverIp = destIp then
        say "Cannot have same name for client, server, or client.\n"
        return 0
      else clientSession order k clientIp serverIp destIp clientPayload
    | _, _, _ =>
      say "Invalid client, server, or destination name.\n"
      return 0
  | _ =>
    say "Unexpected number of arguements.     Enter arguements: client_host_name VPNserver_host_name"
    return 0

/-! ### Server -/

/-- The server from the reception of the client's packet to its transmission to the
destination: the socket to the destination and the client's address. -/
def serverRelay (newSocket : Fd) (serverIp : CString) : VpnProg (Option (Fd × UInt32)) := do
  match ← servRecFromCli k newSocket with
  | none =>
    say "Error occured when rec packet from client via socket.\n"
    return none
  | some recPacket =>
    showPacket order recPacket
    let clientIp ← saveClientIp order recPacket
    let (recPacket, fixedPkt) ← servHandlePkt order recPacket serverIp
    match ← createClientSocket with
    | none => return none
    | some clientFd =>
      let fixedIp ← loadIpHdr order recPacket fixedPkt
      let destIp ← parseIpAddrToStr (calloc 16) fixedIp.ipDst
      let destIp ← cstringAt destIp 0
      if (← connectToServer clientFd destIp) = -1 then
        Sock.close clientFd
        return none
      else
        let packLen := maxPayloadSize + sizeofTcpHdr + sizeofIpHdr
        let bytes ← loadRange recPacket fixedPkt packLen
        if !(← Sock.send clientFd bytes) then
          say "Error during sending packet to the server via socket.\n"
          return none
        else
          say "---Packet sent to the destination. Waiting for a response.---\n"
          return some (clientFd, clientIp)

/-- The server from the reception of the destination's packet to its transmission to the
client. -/
def serverReply (newSocket clientFd : Fd) (clientIp : UInt32) : VpnProg Int := do
  let recPacketDest ← servRecFromDes clientFd
  let packetSize := UInt8.ofNat (maxPayloadSize + sizeofTcpHdr + sizeofGreHdr + sizeofIpHdr)
  let encPkt ← packetEncapsulate order (calloc packetSize.toNat)
  -- the packet is copied without a check for NULL
  let encPkt ← memcpy encPkt sizeofGreHdr (← deref recPacketDest)
    (sizeofIpHdr + sizeofTcpHdr + maxPayloadSize)
  let clientStrIp ← parseIpAddrToStr (calloc 16) clientIp
  let (encPkt, _) ← servHandlePktDest order encPkt (← cstringAt clientStrIp 0)
  showPacket order encPkt
  let payloadLength ← strlen encPkt (sizeofGreHdr + sizeofIpHdr + sizeofTcpHdr)
  servCliEncryptFree k newSocket encPkt ipProtocolTcp (UInt8.ofNat payloadLength)

/-- The server from the creation of its socket on. -/
def serverSession (serverIp : CString) : VpnProg Int := do
  let serverFd ← createListeningSocket
  let newSocket ← acceptConnection serverFd
  match ← serverRelay order k newSocket serverIp with
  | none => return -1
  | some (clientFd, clientIp) =>
    let _ ← serverReply order k newSocket clientFd clientIp
    Sock.close newSocket
    Sock.shutdown serverFd
    return 0

def serverMain (argv : List CString) : VpnProg Int := do
  match argv with
  | [_, serverHostName] =>
    match getHostIp serverHostName with
    | some serverIp => serverSession order k serverIp
    | none =>
      say "Invalid server name.\n"
      return 0
  | _ =>
    say "Unexpected number of arguements.     Enter arguements: VPNserver_host_name"
    return 0

/-! ### Destination -/

def responseMsg : CString := .lit "Hello from the other side!"

/-- The destination from the creation of its socket on. -/
def destSession (hostIp responseMsg : CString) : VpnProg Int := do
  let destFd ← createListeningSocket
  let newSocket ← acceptConnection destFd
  match ← destRecPkt newSocket with
  | none =>
    say "Error receiving packet.\n"
    return -1
  | some recPacket =>
    showPacketUnencap order recPacket 0
    let ipHeader ← loadIpHdr order recPacket 0
    let clientIpStr ← parseIpAddrToStr (calloc 16) ipHeader.ipSrc
    let responsePkt ← createPacketsDes order hostIp (← cstringAt clientIpStr 0) ipProtocolTcp
      responseMsg tcpFlagAck
    let fixedPkt := packetDecapsulate 0
    showPacketUnencap order responsePkt fixedPkt
    let packLen := (getPacketSize ipProtocolTcp (UInt8.ofNat responseMsg.length)).toNat
    let bytes ← loadRange responsePkt fixedPkt packLen
    if !(← Sock.send newSocket bytes) then
      return -1
    else
      Sock.close newSocket
      Sock.close destFd
      return 0

def destMain (argv : List CString) : VpnProg Int := do
  match argv with
  | [_, destHostName] =>
    match getHostIp destHostName with
    | some hostIp => destSession order hostIp responseMsg
    | none =>
      Sock.print (.message "Invalid host name: %s\n" [destHostName])
      return 0
  | _ =>
    say "Unexpected number of arguements.     Enter arguements: VPNserver_host_name"
    return 0

end Sessions

end SimpleVpn
