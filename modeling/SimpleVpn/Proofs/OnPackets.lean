import SimpleVpn.Proofs.Forward
import SimpleVpn.Proofs.Reply
import SimpleVpn.Proofs.Scripts

/-!
# The sessions on packets

The sessions with every computation on memory carried out. What is left are their calls, with the packets that they
send and show, and the places where they leave an object. Facts about all runs are proved about these sessions.
-/

namespace SimpleVpn

open CLang

/-- A load behind the end of an object of `n` bytes. -/
def overread (n : Nat) : Stop := .fault (.load n n)

section Packets

variable (order : ByteOrder)

lemma fits_field {response : CString} (h : response.length ≤ 122) : response.length ≤ 127 := h.trans (by decide)

/-- The destination sends six bytes of the zeroed payload field behind its response. -/
lemma loadRange_responsePacket (hostIp clientIp : CString) {response : CString} (h : response.length ≤ 122) :
    loadRange (responsePacket order hostIp clientIp (fits_field h)).bytes sizeofGreHdr
      (46 + response.length) = pure ((freshIp order hostIp clientIp ipProtocolTcp).toBytes order ++
        (freshTcp order tcpFlagAck).toBytes order ++ response.bytes ++ calloc 6) := by
  let q := responsePacket order hostIp clientIp (fits_field h)
  let x := q.ip ++ q.tcp ++ response.bytes
  have hlen : q.bytes.length = 174 := q.length_bytes
  have hx : x.length = 40 + response.length := by
    rw [List.length_append, List.length_append, q.length_ip, q.length_tcp]
    rfl
  have hinner : q.inner = x ++ calloc 6 ++ calloc (122 - response.length) := by
    rw [List.append_assoc x, ← calloc_add, show 6 + (122 - response.length) = 128 - response.length by omega]
    simp only [x, List.append_assoc]
    rfl
  have hsize : (x ++ calloc 6).length = 46 + response.length := by
    rw [List.length_append, hx, length_calloc]
    omega
  rw [loadRange_of_le (by rw [hlen, show sizeofGreHdr = 6 from rfl]; omega), Packet.bytes,
    List.drop_left' q.length_gre, hinner, List.take_left' hsize]
  rfl

end Packets

namespace OnPackets

variable (order : ByteOrder) (k : Key)

def showPacket (p : Packet) : VpnProg Unit := Sock.print (.packet (viewOf order p (some (GreHdr.ofBytes order p.gre))))

/-- `serv_rec_from_cli` leaves its buffer when no NUL has been received behind the headers. -/
def servRecFromCli (sockfd : Fd) : VpnProg (Option Packet) := do
  match ← Sock.recv sockfd pktSize with
  | none => return none
  | some bytes =>
    if 0 ∈ (received pktSize bytes).drop 46 then
      return some (.ofBytes (decrypted k (received pktSize bytes)) (by rw [length_decrypted, length_received]))
    else .stop (overread pktSize)

def serverRelay (newSocket : Fd) (serverIp : CString) : VpnProg (Option (Fd × UInt32)) := do
  match ← servRecFromCli k newSocket with
  | none =>
    say "Error occured when rec packet from client via socket.\n"
    return none
  | some p =>
    showPacket order p
    match ← createClientSocket with
    | none => return none
    | some clientFd =>
      if (← connectToServer clientFd (ipAddrText (p.ipHdr order).ipDst)) = -1 then
        Sock.close clientFd
        return none
      else if !(← Sock.send clientFd (p.relayed order serverIp).inner) then
        say "Error during sending packet to the server via socket.\n"
        return none
      else
        say "---Packet sent to the destination. Waiting for a response.---\n"
        return some (clientFd, (p.ipHdr order).ipSrc)

/-- The packet that the server makes of the destination's bytes. -/
def answered (bytes : Received pktSize) : Packet :=
  .ofBytes (wrapped order (received pktSize bytes)) (length_wrapped order bytes)

/-- The terminator is stored behind the ciphertext before it is sent. -/
def serverReply (newSocket clientFd : Fd) (clientIp : UInt32) : VpnProg Int := do
  match ← Sock.recv clientFd pktSize with
  | none => .stop (.fault .null)
  | some bytes =>
    let q := (answered order bytes).returned order (ipAddrText clientIp)
    let n := (CString.textOf q.field).length
    if 0 ∈ q.field then
      showPacket order q
      .stray (.store (46 + n : Nat) (46 + n)) (do
        if !(← Sock.send newSocket (wire k (.textOf q.field) (q.bytes.take 46))) then
          return -1
        return 0)
    else .stop (overread pktSize)

def clientResponse (clientFd : Fd) : VpnProg Int := do
  match ← servRecFromCli k clientFd with
  | none => .stop (.fault .null)
  | some p =>
    showPacket order p
    Sock.close clientFd
    return 0

/-- The client shows its own packet encrypted. -/
def clientSession (view : PacketView) (clientIp serverIp destIp request : CString) : VpnProg Int := do
  match ← createClientSocket with
  | none => return -1
  | some clientFd =>
    if (← connectToServer clientFd serverIp) = -1 then
      Sock.close clientFd
      return -1
    else
      say "Checking before create packet.\n"
      Sock.print (.packet view)
      if !(← Sock.send clientFd (wire k request (header order clientIp destIp ipProtocolTcp tcpFlagSyn))) then
        say "Error during sending packet to the server via socket.\n"
      clientResponse order k clientFd

def destSession (hostIp : CString) {response : CString} (h : response.length ≤ 122) : VpnProg Int := do
  let destFd ← createListeningSocket
  let newSocket ← acceptConnection destFd
  match ← Sock.recv newSocket destPktSize with
  | none =>
    say "Error receiving packet.\n"
    return -1
  | some bytes =>
    let p : Packet := .ofInner (received destPktSize bytes) (length_received bytes)
    let clientIp := ipAddrText (p.ipHdr order).ipSrc
    if 0 ∈ p.field then
      Sock.print (.packet (viewOf order p none))
      Sock.print (.packet (viewOf order (responsePacket order hostIp clientIp (fits_field h)) none))
      if !(← Sock.send newSocket ((freshIp order hostIp clientIp ipProtocolTcp).toBytes order ++
          (freshTcp order tcpFlagAck).toBytes order ++ response.bytes ++ calloc 6)) then
        return -1
      else
        Sock.close newSocket
        Sock.close destFd
        return 0
    else .stop (overread destPktSize)

end OnPackets

section Equations

variable (order : ByteOrder) (k : Key) {α : Type}

lemma showPacket_bytes {p : Packet} (h : 0 ∈ p.field) : showPacket order p.bytes = OnPackets.showPacket order p := by
  rw [showPacket, printPacket_bytes order p h, Prog.liftM_eq_ofMem, Prog.ofMem_pure, pure_bind]
  rfl

lemma servRecFromCli_congr (sockfd : Fd) {f : Option Buf → VpnProg α} {g : Option Packet → VpnProg α}
    (hnone : f none = g none) (hsome : ∀ p : Packet, 0 ∈ p.field → f (some p.bytes) = g (some p)) :
    servRecFromCli k sockfd >>= f = OnPackets.servRecFromCli k sockfd >>= g := by
  rw [servRecFromCli_eq, Prog.call_bind, OnPackets.servRecFromCli, Sock.recv, Prog.call_bind, Prog.call_bind]
  refine congrArg _ (funext fun r => ?_)
  cases r with
  | none => exact hnone
  | some bytes =>
    rw [Prog.ret_bind]
    dsimp only
    by_cases hnul : 0 ∈ (received pktSize bytes).drop 46
    · rw [if_pos hnul, recover_of_mem k (length_received bytes) hnul]
      let p : Packet := .ofBytes (decrypted k (received pktSize bytes)) (by rw [length_decrypted, length_received])
      have hp : p.bytes = decrypted k (received pktSize bytes) := Packet.bytes_ofBytes _
      have hfield : 0 ∈ p.field := zero_mem_decrypted k hnul
      have h := hsome p hfield
      rw [hp] at h
      exact h
    · rw [if_neg hnul, recover_of_not_mem k (length_received bytes) hnul]
      rfl

theorem serverRelay_onPackets (newSocket : Fd) (serverIp : CString) :
    serverRelay order k newSocket serverIp = OnPackets.serverRelay order k newSocket serverIp := by
  refine servRecFromCli_congr k newSocket rfl fun p hp => ?_
  dsimp only
  rw [showPacket_bytes order hp]
  refine bind_congr fun _ => ?_
  simp only [saveClientIp_bytes, servHandlePkt_bytes, Prog.liftM_eq_ofMem, Prog.ofMem_pure, pure_bind]
  refine bind_congr fun r => ?_
  cases r with
  | none => rfl
  | some clientFd =>
    simp only [loadIpHdr_bytes, parseIpAddrToStr_eq, cstringAt_addrBuf, loadRange_inner, Packet.ipDst_relayed,
      Prog.ofMem_pure, pure_bind]

theorem serverReply_onPackets (newSocket clientFd : Fd) (clientIp : UInt32) :
    serverReply order k newSocket clientFd clientIp = OnPackets.serverReply order k newSocket clientFd clientIp := by
  have hsize : (UInt8.ofNat (maxPayloadSize + sizeofTcpHdr + sizeofGreHdr + sizeofIpHdr)).toNat = 174 := rfl
  rw [serverReply, servRecFromDes_eq, bind_assoc]
  refine bind_congr fun r => ?_
  rw [pure_bind]
  cases r with
  | none =>
    simp only [hsize, packetEncapsulate_packet, Prog.liftM_eq_ofMem, Prog.ofMem_pure, pure_bind]
    rfl
  | some bytes =>
    let q := (OnPackets.answered order bytes).returned order (ipAddrText clientIp)
    have hp : (OnPackets.answered order bytes).bytes = wrapped order (received pktSize bytes) := Packet.bytes_ofBytes _
    simp only [hsize, Option.map_some, deref, packetEncapsulate_packet, memcpy_wrapped order (length_received bytes),
      ← hp, parseIpAddrToStr_eq, cstringAt_addrBuf, servHandlePktDest_bytes, Prog.liftM_eq_ofMem, Prog.ofMem_pure,
      pure_bind]
    by_cases hq : 0 ∈ q.field
    · have htext : cstringAt q.bytes (getPayload 0) = pure (.textOf q.field) := cstringAt_getPayload q hq
      rw [if_pos hq, showPacket_bytes order hq]
      refine bind_congr fun _ => ?_
      change Prog.ofMem (strlen q.bytes (getPayload 0)) >>= _ = _
      rw [strlen, htext, map_pure, Prog.ofMem_pure, pure_bind, servCliEncryptFree_eq,
        encryptedWire_message k q.length_bytes htext]
      rfl
    · rw [if_neg hq, showPacket, printPacket_bytes_of_not_mem order q hq]
      rfl

/-- The client shows some view of its encrypted packet. -/
theorem clientSession_onPackets (clientIp serverIp destIp : CString) {request : CString} (hreq : request.length ≤ 127) :
    ∃ view, clientSession order k clientIp serverIp destIp request =
      OnPackets.clientSession order k view clientIp serverIp destIp request := by
  obtain ⟨p, hp, hfield, hsent⟩ := createPackets_message order k clientIp destIp request tcpFlagSyn hreq
  refine ⟨viewOf order p (some (GreHdr.ofBytes order p.gre)), ?_⟩
  have hresponse (clientFd : Fd) : (do
      let respPkt ← deref (← servRecFromCli k clientFd)
      showPacket order respPkt
      Sock.close clientFd
      return 0 : VpnProg Int) = OnPackets.clientResponse order k clientFd := by
    refine servRecFromCli_congr k clientFd rfl fun q hq => ?_
    rw [deref, Prog.liftM_eq_ofMem, Prog.ofMem_pure, pure_bind, showPacket_bytes order hq]
  unfold clientSession OnPackets.clientSession
  refine bind_congr fun r => ?_
  cases r with
  | none => rfl
  | some clientFd =>
    refine bind_congr fun status => ?_
    dsimp only
    split
    · rfl
    · rw [hp, Prog.liftM_eq_ofMem, Prog.ofMem_pure, pure_bind, showPacket_bytes order hfield, sendAndFreePacketVpn]
      rw [hsent, Prog.liftM_eq_ofMem, Prog.ofMem_pure, pure_bind]
      refine bind_congr fun _ => bind_congr fun _ => ?_
      rw [bind_assoc, ← hresponse]
      refine bind_congr fun r => ?_
      cases r <;> rfl

theorem destSession_onPackets (hostIp : CString) {response : CString} (h : response.length ≤ 122) :
    destSession order hostIp response = OnPackets.destSession order hostIp h := by
  unfold destSession OnPackets.destSession
  refine bind_congr fun destFd => bind_congr fun newSocket => ?_
  rw [destRecPkt_eq, bind_assoc]
  refine bind_congr fun r => ?_
  rw [pure_bind]
  cases r with
  | none => rfl
  | some bytes =>
    dsimp only [Option.map_some]
    generalize hp : Packet.ofInner (received destPktSize bytes) (length_received bytes) = p
    have hinner : received destPktSize bytes = p.inner := by rw [← hp, Packet.inner_ofInner]
    rw [hinner]
    by_cases hfield : 0 ∈ p.field
    · have hcreate : createPacketsDes order hostIp (ipAddrText (p.ipHdr order).ipSrc) ipProtocolTcp response
          tcpFlagAck = pure (responsePacket order hostIp _ (fits_field h)).bytes :=
        createPacketsDes_response order hostIp _ (fits_field h)
      have hnul : 0 ∈ (responsePacket order hostIp (ipAddrText (p.ipHdr order).ipSrc) (fits_field h)).field :=
        zero_mem_messageField response (fits_field h)
      rw [if_pos hfield]
      simp only [showPacketUnencap, printPacketUnencap_inner order p hfield, loadIpHdr_inner, parseIpAddrToStr_eq,
        cstringAt_addrBuf, hcreate, packetDecapsulate, Nat.zero_add, printPacketUnencap_bytes order _ hnul,
        getPacketSize_message (fits_field h), loadRange_responsePacket order hostIp _ h,
        Prog.liftM_eq_ofMem, Prog.ofMem_pure, pure_bind]
    · rw [if_neg hfield, showPacketUnencap, printPacketUnencap_inner_of_not_mem order p hfield]
      rfl

end Equations

end SimpleVpn
