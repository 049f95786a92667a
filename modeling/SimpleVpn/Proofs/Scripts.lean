import SimpleVpn.Proofs.Sessions

/-!
# Whole sessions

The traces of the client, the server and the destination from their first socket call to their
return, for a request and a response that fit the payload field.
-/

namespace SimpleVpn

open CLang

variable (order : ByteOrder) (k : Key)

/-- The client's part up to the transmission of its request. -/
def requestEvents (serverIp : CString) (address : List UInt8) (view : PacketView)
    (bytes : List UInt8) : List VpnEvent :=
  [.call .socket (some 3)] ++ connectEvents 3 serverIp address ++
  [messageEvent "Checking before create packet.\n", packetEvent view, .call (.send 3 bytes) true]

/-- The client's part from the reception of the response on. -/
def responseEvents (bytes : Received pktSize) (view : PacketView) : List VpnEvent :=
  [.call (.recv 3 pktSize) (some bytes), packetEvent view, .call (.close 3) ()]

lemma trace_sendAndFreePacketVpn (sockfd : Fd) {packet bytes : List UInt8}
    {ipProtocol payloadSize : UInt8}
    (h : loadRange packet 0 (getPacketSize ipProtocol payloadSize).toNat = pure bytes) :
    Prog.Trace (sendAndFreePacketVpn sockfd packet ipProtocol payloadSize)
      [.call (.send sockfd bytes) true] (pure 0) := by
  unfold sendAndFreePacketVpn
  dsimp only
  rw [h, Prog.liftM_eq_ofMem, Prog.ofMem_pure, pure_bind]
  apply trace_step (.send sockfd bytes) true
  rw [if_neg (by decide)]
  exact .done _

/-- The client up to the reception of the response. -/
lemma trace_clientSession_head (clientIp serverIp destIp : CString) {request : CString}
    (hreq : request.length ≤ 127) (address : List UInt8) :
    ∃ view, Prog.Trace (clientSession order k clientIp serverIp destIp request)
      (requestEvents serverIp address view
        (wire k request (header order clientIp destIp ipProtocolTcp tcpFlagSyn))) (do
        let respPkt ← deref (← servRecFromCli k 3)
        showPacket order respPkt
        Sock.close 3
        return 0) := by
  obtain ⟨p, hp, hfield, hsent⟩ := createPackets_message order k clientIp destIp request tcpFlagSyn hreq
  refine ⟨viewOf order p (some (GreHdr.ofBytes order p.gre)), ?_⟩
  unfold clientSession requestEvents
  rw [List.append_assoc]
  apply (trace_createClientSocket 3).seq
  dsimp only
  apply (trace_connectToServer 3 serverIp address).seq
  rw [if_neg (by decide)]
  apply (trace_say _).seq
  rw [hp, Prog.liftM_eq_ofMem, Prog.ofMem_pure, pure_bind]
  apply (trace_showPacket order p hfield).seq
  exact (trace_sendAndFreePacketVpn 3 hsent).bind _

theorem trace_clientSession (clientIp serverIp destIp : CString) {request : CString}
    (hreq : request.length ≤ 127) (address : List UInt8) {bytes : Received pktSize} {q : Packet}
    (hrec : recover k (received pktSize bytes) = pure q.bytes) (hq : 0 ∈ q.field) :
    ∃ view, Prog.Trace (clientSession order k clientIp serverIp destIp request)
      (requestEvents serverIp address view
          (wire k request (header order clientIp destIp ipProtocolTcp tcpFlagSyn)) ++
        responseEvents bytes (viewOf order q (some (GreHdr.ofBytes order q.gre)))) (pure 0) := by
  obtain ⟨view, hhead⟩ := trace_clientSession_head order k clientIp serverIp destIp hreq address
  refine ⟨view, hhead.append ?_⟩
  unfold responseEvents
  apply (trace_servRecFromCli k 3 hrec).seq
  rw [deref, Prog.liftM_eq_ofMem, Prog.ofMem_pure, pure_bind]
  apply (trace_showPacket order q hq).seq
  exact trace_step (.close 3) () (.done _)

def acceptEvents : List VpnEvent := [.call (.accept 3) (some 4)]

def shutdownEvents : List VpnEvent := [.call (.close 4) (), .call (.shutdown 3) ()]

theorem trace_serverSession (serverIp : CString) (address : List UInt8)
    {bytes bytes' : Received pktSize} {p r : Packet}
    (hp : recover k (received pktSize bytes) = pure p.bytes) (hfield : 0 ∈ p.field)
    (hr : r.bytes = wrapped order (received pktSize bytes')) (hfield' : 0 ∈ r.field) :
    Prog.Trace (serverSession order k serverIp)
      (listenEvents 3 ++ (acceptEvents ++ (relayEvents order 4 5 serverIp bytes p address ++
        (replyEvents order k 4 5 bytes' (r.returned order (ipAddrText (p.ipHdr order).ipSrc)) ++
          shutdownEvents)))) (pure 0) := by
  unfold serverSession
  apply (trace_createListeningSocket 3).seq
  apply (trace_acceptConnection 3 4).seq
  apply (trace_serverRelay order k 4 5 serverIp hp hfield address).seq
  dsimp only
  apply (trace_serverReply order k 4 5 _ hr hfield').seq
  apply trace_step (.close 4) ()
  exact trace_step (.shutdown 3) () (.done _)

/-- The destination's part for a packet: its print, the print of the response and the
transmission. -/
def answerEvents (bytes : Received destPktSize) (view view' : PacketView) (sent : List UInt8) :
    List VpnEvent :=
  [.call (.recv 4 destPktSize) (some bytes)] ++ [packetEvent view] ++ [packetEvent view'] ++
  [.call (.send 4 sent) true, .call (.close 4) (), .call (.close 3) ()]

def responsePacket (hostIp clientIp : CString) {response : CString} (h : response.length ≤ 127) :
    Packet :=
  messagePacket order hostIp clientIp tcpFlagAck (messageField response)
    (length_messageField response h)

lemma createPacketsDes_response (hostIp clientIp : CString) {response : CString} (h : response.length ≤ 127) :
    createPacketsDes order hostIp clientIp ipProtocolTcp response tcpFlagAck =
      pure (responsePacket order hostIp clientIp h).bytes := by
  rw [createPacketsDes_eq order hostIp clientIp ipProtocolTcp response tcpFlagAck (by omega),
    plainPacket_message order hostIp clientIp response tcpFlagAck h]
  rfl

lemma trace_showPacketUnencap_bytes (p : Packet) (h : 0 ∈ p.field) :
    Prog.Trace (showPacketUnencap order p.bytes (packetDecapsulate 0))
      [packetEvent (viewOf order p none)] (pure ()) := by
  rw [showPacketUnencap, packetDecapsulate, Nat.zero_add, printPacketUnencap_bytes order p h]
  exact trace_print _

/-- The destination up to the transmission of the response, whose length may leave the buffer. -/
lemma trace_destSession_head (hostIp : CString) {response : CString} (hresp : response.length ≤ 127)
    {bytes : Received destPktSize} {p : Packet} (hp : received destPktSize bytes = p.inner)
    (hfield : 0 ∈ p.field) {q : Packet}
    (hq : q = responsePacket order hostIp (ipAddrText (p.ipHdr order).ipSrc) hresp) :
    Prog.Trace (destSession order hostIp response)
      (listenEvents 3 ++ (acceptEvents ++ [.call (.recv 4 destPktSize) (some bytes),
        packetEvent (viewOf order p none), packetEvent (viewOf order q none)]))
      (do
        let bytes ← loadRange q.bytes sizeofGreHdr (46 + response.length)
        if !(← Sock.send 4 bytes) then
          return -1
        else
          Sock.close 4
          Sock.close 3
          return 0) := by
  have hnul : 0 ∈ q.field := by
    rw [hq]
    exact zero_mem_messageField response hresp
  have hcreate : createPacketsDes order hostIp (ipAddrText (p.ipHdr order).ipSrc) ipProtocolTcp
      response tcpFlagAck = pure q.bytes := by
    rw [createPacketsDes_response order hostIp _ hresp, hq]
  unfold destSession acceptEvents
  apply (trace_createListeningSocket 3).seq
  apply (trace_acceptConnection 3 4).seq
  apply (trace_destRecPkt 4 bytes).seq
  dsimp only
  rw [hp]
  apply (trace_showPacketUnencap order p hfield).seq
  rw [loadIpHdr_inner, Prog.liftM_eq_ofMem, Prog.ofMem_pure, pure_bind, parseIpAddrToStr_eq,
    Prog.liftM_eq_ofMem, Prog.ofMem_pure, pure_bind, cstringAt_addrBuf, Prog.liftM_eq_ofMem,
    Prog.ofMem_pure, pure_bind, hcreate, Prog.liftM_eq_ofMem, Prog.ofMem_pure, pure_bind]
  apply (trace_showPacketUnencap_bytes order q hnul).seq
  rw [getPacketSize_message hresp, packetDecapsulate, Nat.zero_add]
  exact .done _

theorem trace_destSession (hostIp : CString) {response : CString} (hresp : response.length ≤ 122)
    {bytes : Received destPktSize} {p : Packet} (hp : received destPktSize bytes = p.inner)
    (hfield : 0 ∈ p.field) :
    let q := responsePacket order hostIp (ipAddrText (p.ipHdr order).ipSrc) (hresp.trans (by decide))
    Prog.Trace (destSession order hostIp response)
      (listenEvents 3 ++ (acceptEvents ++ answerEvents bytes (viewOf order p none)
        (viewOf order q none) (q.inner.take (46 + response.length)))) (pure 0) := by
  intro q
  have hsent : loadRange q.bytes sizeofGreHdr (46 + response.length) =
      pure (q.inner.take (46 + response.length)) := by
    have hlen : q.bytes.length = 174 := q.length_bytes
    have hgre : sizeofGreHdr = 6 := rfl
    rw [loadRange_of_le (by omega), Packet.bytes, List.drop_left' q.length_gre]
  have hsend : Prog.Trace (do
        if !(← Sock.send 4 (q.inner.take (46 + response.length))) then
          return -1
        else
          Sock.close 4
          Sock.close 3
          return 0 : VpnProg Int)
      [.call (.send 4 (q.inner.take (46 + response.length))) true, .call (.close 4) (), .call (.close 3) ()]
      (pure 0) := by
    apply trace_step (.send 4 _) true
    rw [if_neg (by decide)]
    apply trace_step (.close 4) ()
    exact trace_step (.close 3) () (.done _)
  have hhead := trace_destSession_head order hostIp (hresp.trans (by decide)) hp hfield (q := q) rfl
  rw [hsent, Prog.liftM_eq_ofMem, Prog.ofMem_pure, pure_bind] at hhead
  have hevents := hhead.append hsend
  simp only [List.append_assoc] at hevents
  exact hevents

section Bytes

variable (order : ByteOrder) (k : Key)

/-- Zeros that were cut off are restored by a larger zeroed buffer. -/
lemma take_padded {x : List UInt8} {n j m : Nat} (hj : x.length ≤ j) (hjn : j ≤ x.length + n)
    (hm : x.length + n ≤ j + m) :
    ((x ++ calloc n).take j ++ calloc m).take (x.length + n) = x ++ calloc n := by
  have htake : (x ++ calloc n).take j = x ++ calloc (j - x.length) := by
    rw [List.take_append, List.take_of_length_le hj, calloc, List.take_replicate,
      Nat.min_eq_left (by omega)]
    rfl
  rw [htake, List.append_assoc, ← calloc_add, List.take_append,
    List.take_of_length_le (Nat.le_add_right _ _), Nat.add_sub_cancel_left, calloc, List.take_replicate,
    Nat.min_eq_left (by omega)]
  rfl

/-- The server rebuilds the packet that the destination built. -/
lemma wrapped_response (hostIp clientIp : CString) {response : CString} (hresp : response.length ≤ 122)
    (bytes : Received pktSize)
    (hbytes : bytes.val = (responsePacket order hostIp clientIp (hresp.trans (by decide))).inner.take
      (46 + response.length)) :
    (responsePacket order hostIp clientIp (hresp.trans (by decide))).bytes =
      wrapped order (received pktSize bytes) := by
  let q := responsePacket order hostIp clientIp (hresp.trans (by decide))
  let x := q.ip ++ (q.tcp ++ response.bytes)
  have hx : x.length = 40 + response.length := by
    rw [List.length_append, List.length_append, q.length_ip, q.length_tcp, ← Nat.add_assoc]
    rfl
  have hinner : q.inner = x ++ calloc (128 - response.length) := by
    simp only [x, List.append_assoc]
    rfl
  have hlen : bytes.val.length = 46 + response.length := by
    rw [hbytes, List.length_take_of_le]
    rw [Packet.length_inner]
    change _ ≤ 168
    omega
  have hsize : 168 = x.length + (128 - response.length) := by omega
  have hpad : pktSize - bytes.val.length = 128 - response.length := by
    rw [hlen]
    change 174 - _ = _
    omega
  have hinner' : (received pktSize bytes).take 168 = q.inner := by
    rw [received_eq, hpad, hbytes, hinner, hsize]
    exact take_padded (by omega) (by omega) (by omega)
  rw [wrapped, hinner']
  rfl

lemma exists_received (p : Packet) {m : CString} (hm : m.length ≤ 127) :
    ∃ bytes : Received pktSize, wire k m (p.bytes.take 46) = bytes.val ∧
      recover k (received pktSize bytes) =
        pure (p.withField (deliveredField k m) (length_deliveredField k m hm)).bytes := by
  have hhdr := length_take_head p.length_bytes
  refine ⟨⟨_, length_wire_le k m hhdr hm⟩, rfl, ?_⟩
  rw [recover_wire k m hhdr hm, Packet.bytes_withField]

section Request

variable (clientIp destIp : CString) {request : CString} (hreq : request.length ≤ 127)

/-- What the server decrypts of a request. -/
def requestPacket : Packet :=
  messagePacket order clientIp destIp tcpFlagSyn (deliveredField k request)
    (length_deliveredField k request hreq)

lemma take_requestPacket : (requestPacket order k clientIp destIp hreq).bytes.take 46 =
    header order clientIp destIp ipProtocolTcp tcpFlagSyn := by
  rw [requestPacket, bytes_messagePacket, List.take_left' (length_header ..)]

lemma recover_request : ∃ bytes : Received pktSize,
    wire k request (header order clientIp destIp ipProtocolTcp tcpFlagSyn) = bytes.val ∧
      recover k (received pktSize bytes) = pure (requestPacket order k clientIp destIp hreq).bytes := by
  have h := exists_received k (requestPacket order k clientIp destIp hreq) hreq
  rw [take_requestPacket] at h
  exact h

end Request

end Bytes

end SimpleVpn
