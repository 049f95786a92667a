import SimpleVpn.Proofs.Tunnel

/-!
# Traces of the three programs

What each program does while every call succeeds, as a list of calls with their replies. The
lists leave the descriptors and the received bytes open: an operating system or a network
supplies them.
-/

namespace SimpleVpn

open CLang

abbrev VpnEvent := Prog.Event (@SysReply Output)

def messageEvent (text : String) : VpnEvent := .call (.print (.message text [])) ()

def packetEvent (view : PacketView) : VpnEvent := .call (.print (.packet view)) ()

section Connections

lemma trace_say (text : String) : Prog.Trace (say text) [messageEvent text] (pure ()) :=
  trace_print _

lemma trace_createClientSocket (fd : Fd) :
    Prog.Trace createClientSocket [.call .socket (some fd)] (pure (some fd)) := by
  unfold createClientSocket
  exact trace_step .socket (some fd) (.done _)

def connectEvents (clientFd : Fd) (serverIp : CString) (address : List UInt8) : List VpnEvent :=
  [.call (.inetPton serverIp) (some address), .call (.connect clientFd address port) true,
    messageEvent "Connected to server\n"]

lemma trace_connectToServer (clientFd : Fd) (serverIp : CString) (address : List UInt8) :
    Prog.Trace (connectToServer clientFd serverIp) (connectEvents clientFd serverIp address)
      (pure 0) := by
  unfold connectToServer
  apply trace_step (.inetPton serverIp) (some address)
  apply trace_step (.connect clientFd address port) true
  rw [if_pos rfl]
  exact (trace_say _).seq (.done _)

def listenEvents (fd : Fd) : List VpnEvent :=
  [.call .socket (some fd), .call (.setsockopt fd) true, .call (.bind fd port) true,
    .call (.listen fd) true]

lemma trace_createListeningSocket (fd : Fd) :
    Prog.Trace createListeningSocket (listenEvents fd) (pure fd) := by
  unfold createListeningSocket
  apply trace_step .socket (some fd)
  apply trace_step (.setsockopt fd) true
  rw [if_neg (by decide)]
  apply trace_step (.bind fd port) true
  rw [if_neg (by decide)]
  apply trace_step (.listen fd) true
  rw [if_neg (by decide)]
  exact .done _

lemma trace_acceptConnection (fd newSocket : Fd) :
    Prog.Trace (acceptConnection fd) [.call (.accept fd) (some newSocket)] (pure newSocket) := by
  unfold acceptConnection
  exact trace_step (.accept fd) (some newSocket) (.done _)

end Connections

section Packets

variable (order : ByteOrder) (k : Key)

lemma trace_showPacket (p : Packet) (h : 0 ∈ p.field) :
    Prog.Trace (showPacket order p.bytes)
      [packetEvent (viewOf order p (some (GreHdr.ofBytes order p.gre)))] (pure ()) := by
  rw [showPacket, printPacket_bytes order p h]
  exact trace_print _

lemma trace_showPacketUnencap (p : Packet) (h : 0 ∈ p.field) :
    Prog.Trace (showPacketUnencap order p.inner 0) [packetEvent (viewOf order p none)] (pure ()) := by
  rw [showPacketUnencap, printPacketUnencap_inner order p h]
  exact trace_print _

lemma trace_servRecFromCli (sockfd : Fd) {bytes : Received pktSize} {packet : Buf}
    (h : recover k (received pktSize bytes) = pure packet) :
    Prog.Trace (servRecFromCli k sockfd) [.call (.recv sockfd pktSize) (some bytes)]
      (pure (some packet)) := by
  rw [servRecFromCli_eq]
  apply trace_call (.recv sockfd pktSize) (some bytes)
  dsimp only
  rw [h]
  exact .done _

lemma trace_servRecFromDes (sockfd : Fd) (bytes : Received pktSize) :
    Prog.Trace (servRecFromDes sockfd) [.call (.recv sockfd pktSize) (some bytes)]
      (pure (some (received pktSize bytes))) := by
  unfold servRecFromDes
  exact trace_step (.recv sockfd pktSize) (some bytes) (.done _)

lemma trace_destRecPkt (sockfd : Fd) (bytes : Received destPktSize) :
    Prog.Trace (destRecPkt sockfd) [.call (.recv sockfd destPktSize) (some bytes)]
      (pure (some (received destPktSize bytes))) := by
  unfold destRecPkt
  exact trace_step (.recv sockfd destPktSize) (some bytes) (.done _)

/-- What the server does for a packet from its reception to its transmission. -/
def relayEvents (newSocket clientFd : Fd) (serverIp : CString) (bytes : Received pktSize)
    (p : Packet) (address : List UInt8) : List VpnEvent :=
  [.call (.recv newSocket pktSize) (some bytes)] ++
  [packetEvent (viewOf order p (some (GreHdr.ofBytes order p.gre)))] ++
  [.call .socket (some clientFd)] ++
  connectEvents clientFd (ipAddrText (p.ipHdr order).ipDst) address ++
  [.call (.send clientFd (p.relayed order serverIp).inner) true,
    messageEvent "---Packet sent to the destination. Waiting for a response.---\n"]

theorem trace_serverRelay (newSocket clientFd : Fd) (serverIp : CString) {bytes : Received pktSize}
    {p : Packet} (hrec : recover k (received pktSize bytes) = pure p.bytes) (h : 0 ∈ p.field)
    (address : List UInt8) :
    Prog.Trace (serverRelay order k newSocket serverIp)
      (relayEvents order newSocket clientFd serverIp bytes p address)
      (pure (some (clientFd, (p.ipHdr order).ipSrc))) := by
  unfold serverRelay relayEvents
  simp only [List.append_assoc]
  apply (trace_servRecFromCli k newSocket hrec).seq
  dsimp only
  apply (trace_showPacket order p h).seq
  simp only [saveClientIp_bytes, servHandlePkt_bytes, Prog.liftM_eq_ofMem, Prog.ofMem_pure, pure_bind]
  apply (trace_createClientSocket clientFd).seq
  dsimp only
  rw [loadIpHdr_bytes, Prog.ofMem_pure, pure_bind, parseIpAddrToStr_eq, Prog.ofMem_pure, pure_bind,
    cstringAt_addrBuf, Prog.ofMem_pure, pure_bind, Packet.ipDst_relayed]
  apply (trace_connectToServer clientFd _ address).seq
  rw [if_neg (by decide), loadRange_inner, Prog.ofMem_pure, pure_bind]
  apply trace_step (.send clientFd (p.relayed order serverIp).inner) true
  rw [if_neg (by decide)]
  exact (trace_say _).seq (.done _)

/-- The destination's bytes behind a fresh GRE header. -/
def wrapped (packet : Buf) : Buf := (freshGre order).toBytes order ++ packet.take 168

lemma packetEncapsulate_packet :
    packetEncapsulate order (calloc 174) = pure ((freshGre order).toBytes order ++ calloc 168) := by
  have hsplit : calloc 174 = calloc sizeofGreHdr ++ calloc 168 := by
    rw [← calloc_add]
    rfl
  rw [hsplit, packetEncapsulate_append _ _ (length_calloc _)]

lemma memcpy_wrapped {packet : Buf} (hlen : packet.length = pktSize) :
    memcpy ((freshGre order).toBytes order ++ calloc 168) sizeofGreHdr packet
      (sizeofIpHdr + sizeofTcpHdr + maxPayloadSize) = pure (wrapped order packet) := by
  have hlen' : packet.length = 174 := hlen
  have hcopied : (packet.take 168).length = (calloc 168).length := by
    rw [List.length_take_of_le (by omega), length_calloc]
  have hstore := storeRange_append ((freshGre order).toBytes order) [] hcopied
  rw [List.append_nil, List.append_nil, GreHdr.length_toBytes] at hstore
  rw [memcpy, loadRange_of_le (by rw [hlen']; decide), pure_bind]
  exact hstore

/-- The server's reply up to the print of the packet for the client. -/
lemma trace_serverReply_head (newSocket clientFd : Fd) (clientIp : UInt32)
    {bytes : Received pktSize} {p : Packet} (hp : p.bytes = wrapped order (received pktSize bytes)) :
    Prog.Trace (serverReply order k newSocket clientFd clientIp)
      [.call (.recv clientFd pktSize) (some bytes)] (do
        showPacket order (p.returned order (ipAddrText clientIp)).bytes
        let payloadLength ← strlen (p.returned order (ipAddrText clientIp)).bytes (getPayload 0)
        servCliEncryptFree k newSocket (p.returned order (ipAddrText clientIp)).bytes ipProtocolTcp
          (UInt8.ofNat payloadLength)) := by
  have hsize : (UInt8.ofNat (maxPayloadSize + sizeofTcpHdr + sizeofGreHdr + sizeofIpHdr)).toNat =
      174 := rfl
  unfold serverReply
  apply (trace_servRecFromDes clientFd bytes).seq
  simp only [hsize, deref, packetEncapsulate_packet, memcpy_wrapped order (length_received bytes), ← hp,
    parseIpAddrToStr_eq, cstringAt_addrBuf, servHandlePktDest_bytes, Prog.liftM_eq_ofMem,
    Prog.ofMem_pure, pure_bind]
  exact .done _

/-- What the server does for the destination's reply. -/
def replyEvents (newSocket clientFd : Fd) (bytes : Received pktSize) (q : Packet) : List VpnEvent :=
  [.call (.recv clientFd pktSize) (some bytes)] ++
  [packetEvent (viewOf order q (some (GreHdr.ofBytes order q.gre)))] ++
  [.stray (.store (46 + (CString.textOf q.field).length : Nat) (46 + (CString.textOf q.field).length)),
    .call (.send newSocket (wire k (.textOf q.field) (q.bytes.take 46))) true]

theorem trace_serverReply (newSocket clientFd : Fd) (clientIp : UInt32) {bytes : Received pktSize}
    {p : Packet} (hp : p.bytes = wrapped order (received pktSize bytes)) (h : 0 ∈ p.field) :
    Prog.Trace (serverReply order k newSocket clientFd clientIp)
      (replyEvents order k newSocket clientFd bytes (p.returned order (ipAddrText clientIp)))
      (pure 0) := by
  let q := p.returned order (ipAddrText clientIp)
  have hq : 0 ∈ q.field := h
  have htext : cstringAt q.bytes (getPayload 0) = pure (.textOf q.field) := cstringAt_getPayload q hq
  unfold replyEvents
  rw [List.append_assoc]
  apply (trace_serverReply_head order k newSocket clientFd clientIp hp).append
  apply (trace_showPacket order q hq).seq
  rw [strlen, htext, map_pure, Prog.liftM_eq_ofMem, Prog.ofMem_pure, pure_bind, servCliEncryptFree_eq,
    encryptedWire_message k q.length_bytes htext]
  refine .stray _ ?_
  apply trace_step (.send newSocket _) true
  rw [if_neg (by decide)]
  exact .done _

end Packets

end SimpleVpn
