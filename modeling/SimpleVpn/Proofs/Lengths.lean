import SimpleVpn.Proofs.Forward
import SimpleVpn.Proofs.Scripts

/-!
# The lengths of the four transmissions

A request goes from the client to the server and on to the destination, a response back to the server
and the client. `set_ip` stores 148 in `ip_len`, whatever the message is, and leaves out the TCP header;
the four senders compute the number of bytes in three other ways.
-/

namespace SimpleVpn

open CLang

variable (order : ByteOrder) (k : Key)

section Legs

variable (sockfd newSocket clientFd : Fd) (clientIp serverIp destIp request response : CString)

/-- What the client sends. -/
def clientToServer : Mem (List (List UInt8)) :=
  sends (sendMessage order k sockfd clientIp destIp request tcpFlagSyn)

/-- What the server sends on when the client's transmission has arrived. -/
def serverToDestination : Mem (List (List UInt8)) := do
  sendsOn (serverRelay order k newSocket serverIp)
    (← clientToServer order k sockfd clientIp destIp request)

/-- What the destination answers. -/
def destinationToServer : Mem (List (List UInt8)) := do
  sendsOn (destSession order destIp response)
    (← serverToDestination order k sockfd newSocket clientIp serverIp destIp request)

/-- What the server sends back to the client. -/
def serverToClient : Mem (List (List UInt8)) := do
  sendsOn (serverReply order k newSocket clientFd (parseIpAddr clientIp))
    (← destinationToServer order k sockfd newSocket clientIp serverIp destIp request response)

end Legs

/-- Of the packet whose IP header is at `i`, the bytes that `ip_len` counts and `gre` bytes before them
are sent. -/
def LengthAgrees (packet : Buf) (i gre length : Nat) : Prop :=
  ∃ ip, loadIpHdr order packet i = pure ip ∧ length = gre + (ntohs order ip.ipLen).toNat

/-- One packet without GRE header is sent from inside the sender's buffer, and its length agrees. -/
def PlainLeg (sent : Mem (List (List UInt8))) : Prop :=
  ∃ bytes, sent.Returns [bytes] ∧ LengthAgrees order bytes 0 0 bytes.length

/-- One encrypted packet is sent from inside the sender's buffer, and its length agrees. -/
def EncryptedLeg (sent : Mem (List (List UInt8))) : Prop :=
  ∃ bytes plain, sent.Returns [bytes] ∧
    xorEncryptDecrypt k bytes (calloc bytes.length) bytes.length = pure plain ∧
    LengthAgrees order plain (getIpHdr 0) sizeofGreHdr bytes.length

/-- All four transmissions stay inside the sender's buffer and agree with `ip_len`. -/
structure LengthBookkeeping (sockfd newSocket clientFd : Fd)
    (clientIp serverIp destIp request response : CString) : Prop where
  toServer : EncryptedLeg order k (clientToServer order k sockfd clientIp destIp request)
  toDestination : PlainLeg order
    (serverToDestination order k sockfd newSocket clientIp serverIp destIp request)
  fromDestination : PlainLeg order
    (destinationToServer order k sockfd newSocket clientIp serverIp destIp request response)
  toClient : EncryptedLeg order k
    (serverToClient order k sockfd newSocket clientFd clientIp serverIp destIp request response)

section Packets

variable {sent : Mem (List (List UInt8))}

/-- The ciphertext of a packet that `set_ip` has initialised, up to the end of its message. -/
lemma encryptedLeg_wire_iff {p : Packet} (m : CString)
    (hip : ntohs order (p.ipHdr order).ipLen = 148) (hsent : sent.Returns [wire k m (p.bytes.take 46)]) :
    EncryptedLeg order k sent ↔ m.length = 108 := by
  have hlen := length_wire k m (length_take_head p.length_bytes)
  have hplain : xorEncryptDecrypt k (wire k m (p.bytes.take 46)) (calloc (46 + m.length)) (46 + m.length) =
      pure (p.bytes.take 46 ++ m.bytes) := by
    rw [xorEncryptDecrypt_eq k _ _ hlen.ge, List.take_of_length_le hlen.le, wire, xorFrom_xorFrom]
  have hload : loadIpHdr order (p.bytes.take 46 ++ m.bytes) (getIpHdr 0) = pure (p.ipHdr order) := by
    rw [p.take_bytes, ← List.append_assoc, List.append_assoc _ p.tcp]
    exact loadIpHdr_append order _ p.length_gre.symm p.length_ip
  constructor
  · rintro ⟨bytes, plain, hbytes, hdecrypted, ip, hgot, hagree⟩
    obtain ⟨rfl, -⟩ := List.cons.inj (Mem.returns_unique hbytes hsent)
    rw [hlen, hplain, Mem.pure_inj] at hdecrypted
    rw [← hdecrypted, hload, Mem.pure_inj] at hgot
    rw [hlen, ← hgot, hip] at hagree
    change 46 + m.length = 6 + 148 at hagree
    omega
  · intro hm
    refine ⟨_, _, hsent, by rw [hlen, hplain], _, hload, ?_⟩
    rw [hlen, hip, hm]
    rfl

/-- The first `n` bytes of a packet that `set_ip` has initialised, without its GRE header. -/
lemma plainLeg_take_iff {p : Packet} {n : Nat} (hip : ntohs order (p.ipHdr order).ipLen = 148)
    (hn : sizeofIpHdr ≤ n) (hle : n ≤ 168) (hsent : sent.Returns [p.inner.take n]) :
    PlainLeg order sent ↔ n = 148 := by
  have hlen : (p.inner.take n).length = n := by
    rw [List.length_take_of_le]
    rw [p.length_inner]
    exact hle
  have hload : loadIpHdr order (p.inner.take n) 0 = pure (p.ipHdr order) := by
    have h := loadIpHdr_append order (a := []) ((p.tcp ++ p.field).take (n - sizeofIpHdr)) (i := 0) rfl
      p.length_ip
    rw [Packet.inner, List.take_append, List.take_of_length_le (by rw [p.length_ip]; exact hn), p.length_ip]
    exact h
  constructor
  · rintro ⟨bytes, hbytes, ip, hgot, hagree⟩
    obtain ⟨rfl, -⟩ := List.cons.inj (Mem.returns_unique hbytes hsent)
    rw [hload, Mem.pure_inj] at hgot
    rw [hlen, ← hgot, hip] at hagree
    change n = 0 + 148 at hagree
    omega
  · intro h
    refine ⟨_, hsent, _, hload, ?_⟩
    rw [hlen, hip, h]
    rfl

end Packets

section Sent

variable (sockfd newSocket clientFd : Fd) (clientIp serverIp destIp : CString)
  {request response : CString}

lemma ipLen_messagePacket (ipSrc ipDest : CString) (flags : UInt8) (field : List UInt8)
    (h : field.length = 128) :
    ntohs order ((messagePacket order ipSrc ipDest flags field h).ipHdr order).ipLen = 148 := by
  rw [ipHdr_messagePacket]
  change ntohs order (htons order 148) = 148
  exact htons_htons order 148

section Request

variable (hreq : request.length ≤ 127)
include hreq

lemma clientToServer_eq : clientToServer order k sockfd clientIp destIp request =
    pure [wire k request (header order clientIp destIp ipProtocolTcp tcpFlagSyn)] :=
  sends_sendMessage order k sockfd clientIp destIp request tcpFlagSyn hreq

lemma serverToDestination_eq :
    serverToDestination order k sockfd newSocket clientIp serverIp destIp request =
      pure [((requestPacket order k clientIp destIp hreq).relayed order serverIp).inner] := by
  let p := requestPacket order k clientIp destIp hreq
  obtain ⟨bytes, hbytes, hrec⟩ := recover_request order k clientIp destIp hreq
  have ht := trace_serverRelay order k newSocket 3 serverIp hrec (zero_mem_deliveredField k request hreq)
    (networkOctets (p.ipHdr order).ipDst)
  rw [serverToDestination, clientToServer_eq order k sockfd clientIp destIp hreq, pure_bind, hbytes,
    sendsOn_of_trace ht ⟨congrArg some (next_singleton bytes), rfl, rfl, inetPton_ipAddrText _, rfl, rfl,
      rfl, rfl, rfl⟩]
  rfl

/-- What the destination receives. -/
def forwardedRequest : Packet := (requestPacket order k clientIp destIp hreq).relayed order serverIp

/-- What the destination builds. -/
def answer (hresp : response.length ≤ 127) : Packet :=
  responsePacket order destIp
    (ipAddrText ((forwardedRequest order k clientIp serverIp destIp hreq).ipHdr order).ipSrc) hresp

lemma received_forwardedRequest : received destPktSize
    ⟨_, (forwardedRequest order k clientIp serverIp destIp hreq).length_inner.le⟩ =
      (forwardedRequest order k clientIp serverIp destIp hreq).inner :=
  received_of_length (Packet.length_inner _)

/-- A response of at most 122 bytes leaves room for the 6 bytes that the destination counts too many. -/
lemma destinationToServer_eq (hresp : response.length ≤ 122) :
    destinationToServer order k sockfd newSocket clientIp serverIp destIp request response =
      pure [(answer order k clientIp serverIp destIp hreq (hresp.trans (by decide))).inner.take
        (46 + response.length)] := by
  have ht := trace_destSession order destIp hresp
    (received_forwardedRequest order k clientIp serverIp destIp hreq) (zero_mem_deliveredField k request hreq)
  rw [destinationToServer, serverToDestination_eq order k sockfd newSocket clientIp serverIp destIp hreq,
    pure_bind]
  change sendsOn _ [(forwardedRequest order k clientIp serverIp destIp hreq).inner] = _
  rw [sendsOn_of_trace ht ⟨rfl, rfl, rfl, rfl, rfl, congrArg some (next_singleton ⟨_, _⟩), rfl, rfl, rfl,
    rfl, rfl, rfl⟩]
  rfl

lemma not_returns_destinationToServer (hresp : 122 < response.length) (hresp' : response.length ≤ 127)
    (sent : List (List UInt8)) : ¬ (destinationToServer order k sockfd newSocket clientIp serverIp destIp
      request response).Returns sent := by
  let q := answer order k clientIp serverIp destIp hreq hresp'
  have ht := trace_destSession_head order destIp hresp'
    (received_forwardedRequest order k clientIp serverIp destIp hreq) (zero_mem_deliveredField k request hreq)
    (q := q) rfl
  have hlen : q.bytes.length = 174 := q.length_bytes
  have hload : loadRange q.bytes sizeofGreHdr (46 + response.length) =
      .fault (.load (max sizeofGreHdr q.bytes.length : Nat) q.bytes.length) := by
    have hgre : sizeofGreHdr = 6 := rfl
    rw [loadRange, if_neg (by omega), Nat.cast_max]
  rw [destinationToServer, serverToDestination_eq order k sockfd newSocket clientIp serverIp destIp hreq,
    pure_bind]
  change ¬ (sendsOn _ [(forwardedRequest order k clientIp serverIp destIp hreq).inner]).Returns _
  rw [sendsOn_of_trace ht ⟨rfl, rfl, rfl, rfl, rfl, congrArg some (next_singleton ⟨_, _⟩), rfl, rfl, rfl⟩,
    hload]
  exact Mem.not_returns_fault _ _

lemma returns_serverToClient (hresp : response.length ≤ 122) :
    ∃ p : Packet, ntohs order (p.ipHdr order).ipLen = 148 ∧
      (serverToClient order k sockfd newSocket clientFd clientIp serverIp destIp request response).Returns
        [wire k response (p.bytes.take 46)] := by
  let q := answer order k clientIp serverIp destIp hreq (hresp.trans (by decide))
  let reply := q.returned order (ipAddrText (parseIpAddr clientIp))
  have hle : (q.inner.take (46 + response.length)).length ≤ pktSize := by
    rw [List.length_take, q.length_inner]
    exact (Nat.min_le_right _ _).trans (by decide)
  have hwrapped := wrapped_response order destIp
    (ipAddrText ((forwardedRequest order k clientIp serverIp destIp hreq).ipHdr order).ipSrc) hresp
    ⟨_, hle⟩ rfl
  have ht := trace_serverReply order k newSocket clientFd (parseIpAddr clientIp) hwrapped
    (zero_mem_messageField response (hresp.trans (by decide)))
  have htext : CString.textOf reply.field = response :=
    textOf_messageField response (hresp.trans (by decide))
  have hip : (q.ipHdr order).ipLen = (reply.ipHdr order).ipLen := by
    change _ = ((q.returned order (ipAddrText (parseIpAddr clientIp))).ipHdr order).ipLen
    rw [Packet.returned, Packet.ipHdr_withIp]
    rfl
  refine ⟨reply, ?_, ?_⟩
  · rw [← hip]
    exact ipLen_messagePacket order _ _ _ _ _
  · rw [serverToClient, destinationToServer_eq order k sockfd newSocket clientIp serverIp destIp hreq hresp,
      pure_bind, sendsOn_of_trace ht ⟨congrArg some (next_singleton ⟨_, _⟩), rfl, rfl, rfl⟩]
    exact congrArg (fun m => Outcome.value [wire k m (reply.bytes.take 46)]) htext

lemma clientToServer_iff :
    EncryptedLeg order k (clientToServer order k sockfd clientIp destIp request) ↔
      request.length = 108 := by
  apply encryptedLeg_wire_iff (p := requestPacket order k clientIp destIp hreq) order k request
  · exact ipLen_messagePacket order _ _ _ _ _
  · rw [clientToServer_eq order k sockfd clientIp destIp hreq, take_requestPacket]
    exact Mem.returns_pure _

lemma ipLen_forwardedRequest :
    ntohs order ((forwardedRequest order k clientIp serverIp destIp hreq).ipHdr order).ipLen = 148 := by
  rw [forwardedRequest, Packet.relayed, Packet.ipHdr_withIp]
  exact ipLen_messagePacket order _ _ _ _ _

lemma not_serverToDestination :
    ¬ PlainLeg order (serverToDestination order k sockfd newSocket clientIp serverIp destIp request) := by
  have htake : (forwardedRequest order k clientIp serverIp destIp hreq).inner.take 168 =
      (forwardedRequest order k clientIp serverIp destIp hreq).inner :=
    List.take_of_length_le (Packet.length_inner _).le
  rw [plainLeg_take_iff (n := 168) order (ipLen_forwardedRequest order k clientIp serverIp destIp hreq)
    (by decide) (Nat.le_refl _)]
  · decide
  · rw [htake, serverToDestination_eq order k sockfd newSocket clientIp serverIp destIp hreq]
    exact Mem.returns_pure _

lemma destinationToServer_iff (hresp : response.length ≤ 127) :
    PlainLeg order (destinationToServer order k sockfd newSocket clientIp serverIp destIp request
      response) ↔ response.length = 102 := by
  rcases Nat.lt_or_ge 122 response.length with hlong | hshort
  · constructor
    · rintro ⟨bytes, hsent, -⟩
      exact absurd hsent (not_returns_destinationToServer order k sockfd newSocket clientIp serverIp destIp
        hreq hlong hresp _)
    · intro h
      omega
  · have hip : ntohs order ((answer order k clientIp serverIp destIp hreq hresp).ipHdr order).ipLen = 148 :=
      ipLen_messagePacket order _ _ _ _ _
    rw [plainLeg_take_iff order hip (n := 46 + response.length)]
    · omega
    · change 20 ≤ _
      omega
    · omega
    · rw [destinationToServer_eq order k sockfd newSocket clientIp serverIp destIp hreq hshort]
      exact Mem.returns_pure _

lemma serverToClient_iff (hresp : response.length ≤ 127) :
    EncryptedLeg order k (serverToClient order k sockfd newSocket clientFd clientIp serverIp destIp request
      response) ↔ response.length = 108 := by
  rcases Nat.lt_or_ge 122 response.length with hlong | hshort
  · constructor
    · rintro ⟨bytes, plain, hsent, -⟩
      obtain ⟨chunks, hchunks, -⟩ := Mem.returns_bind.mp hsent
      exact absurd hchunks (not_returns_destinationToServer order k sockfd newSocket clientIp serverIp destIp
        hreq hlong hresp _)
    · intro h
      omega
  · obtain ⟨p, hip, hsent⟩ := returns_serverToClient order k sockfd newSocket clientFd clientIp serverIp destIp
      hreq hshort
    exact encryptedLeg_wire_iff order k response hip hsent

lemma returns_destinationToServer_iff (hresp : response.length ≤ 127) :
    (∃ bytes, (destinationToServer order k sockfd newSocket clientIp serverIp destIp request
      response).Returns [bytes]) ↔ response.length ≤ 122 := by
  constructor
  · rintro ⟨bytes, hsent⟩
    by_contra hlong
    exact not_returns_destinationToServer order k sockfd newSocket clientIp serverIp destIp hreq
      (Nat.lt_of_not_le hlong) hresp _ hsent
  · intro hshort
    rw [destinationToServer_eq order k sockfd newSocket clientIp serverIp destIp hreq hshort]
    exact ⟨_, Mem.returns_pure _⟩

end Request

/-- The length of an encrypted packet agrees when its message has 108 bytes, the length of the response
when it has 102 bytes, and the length of the forwarded packet never. The destination reads behind its
packet when the response is longer than 122 bytes. -/
theorem lengths_agree_iff (hreq : request.length ≤ 127) (hresp : response.length ≤ 127) :
    ¬ LengthBookkeeping order k sockfd newSocket clientFd clientIp serverIp destIp request response ∧
    (EncryptedLeg order k (clientToServer order k sockfd clientIp destIp request) ↔
      request.length = 108) ∧
    ¬ PlainLeg order (serverToDestination order k sockfd newSocket clientIp serverIp destIp request) ∧
    ((∃ bytes, (destinationToServer order k sockfd newSocket clientIp serverIp destIp request
      response).Returns [bytes]) ↔ response.length ≤ 122) ∧
    (PlainLeg order (destinationToServer order k sockfd newSocket clientIp serverIp destIp request
      response) ↔ response.length = 102) ∧
    (EncryptedLeg order k (serverToClient order k sockfd newSocket clientFd clientIp serverIp destIp request
      response) ↔ response.length = 108) :=
  ⟨fun h => not_serverToDestination order k sockfd newSocket clientIp serverIp destIp hreq h.toDestination,
    clientToServer_iff order k sockfd clientIp destIp hreq,
    not_serverToDestination order k sockfd newSocket clientIp serverIp destIp hreq,
    returns_destinationToServer_iff order k sockfd newSocket clientIp serverIp destIp hreq hresp,
    destinationToServer_iff order k sockfd newSocket clientIp serverIp destIp hreq hresp,
    serverToClient_iff order k sockfd newSocket clientFd clientIp serverIp destIp hreq hresp⟩

end Sent

def message108 : CString := ⟨List.replicate 108 65, fun c hc => by
  rw [(List.mem_replicate.mp hc).2]
  decide⟩

lemma length_message108 : message108.length = 108 := List.length_replicate

/-- The transmission of a request of 108 bytes agrees, that of a response of 108 bytes does not. -/
theorem lengths_agree_108 :
    EncryptedLeg .little key
      (clientToServer .little key 3 (.lit "10.0.0.1") (.lit "10.0.0.3") message108) ∧
    ¬ PlainLeg .little (destinationToServer .little key 3 4 (.lit "10.0.0.1") (.lit "10.0.0.2")
      (.lit "10.0.0.3") message108 message108) := by
  have hm : message108.length ≤ 127 := length_message108.le.trans (by decide)
  obtain ⟨-, hrequest, -, -, hresponse, -⟩ := lengths_agree_iff .little key 3 4 5 (.lit "10.0.0.1")
    (.lit "10.0.0.2") (.lit "10.0.0.3") hm hm
  refine ⟨hrequest.mpr length_message108, ?_⟩
  rw [hresponse, length_message108]
  decide

/-- The server forwards 168 bytes of a packet whose `ip_len` is 148. -/
theorem not_lengthBookkeeping_messages :
    ¬ LengthBookkeeping .little key 3 4 5 (.lit "10.0.0.1") (.lit "10.0.0.2") (.lit "10.0.0.3")
      clientPayload responseMsg := by
  intro hagree
  have hreq : clientPayload.length ≤ 127 := by decide
  exact not_serverToDestination .little key 3 4 (.lit "10.0.0.1") (.lit "10.0.0.2") (.lit "10.0.0.3") hreq
    hagree.toDestination

end SimpleVpn
