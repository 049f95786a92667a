import SimpleVpn.Proofs.Sessions

/-!
# What the server forwards

The server decrypts a packet, replaces its source address and sends everything behind the GRE
header to the destination address of the packet. This file determines the bytes on that leg:
they do not depend on the client's address, and they do depend on the key.
-/

namespace SimpleVpn

open CLang

section Relay

variable (order : ByteOrder) (k : Key) (newSocket : Fd) (serverIp : CString)

/-- The server's socket calls for a packet that decrypts to `p`. -/
def relayTraffic (p : Packet) : List (SysCall Output) :=
  [.recv newSocket pktSize, .socket, .inetPton (ipAddrText (p.ipHdr order).ipDst),
    .connect 3 (networkOctets (p.ipHdr order).ipDst) port, .send 3 (p.relayed order serverIp).inner]

theorem traffic_serverRelay {bytes : Received pktSize} {p : Packet}
    (hrec : recover k (received pktSize bytes) = pure p.bytes) (h : 0 ∈ p.field) :
    traffic (serverRelay order k newSocket serverIp) [bytes.val] =
      pure (relayTraffic order newSocket serverIp p) := by
  have ht := trace_serverRelay order k newSocket 3 serverIp hrec h
    (networkOctets (p.ipHdr order).ipDst)
  rw [traffic_of_trace ht ⟨congrArg some (next_singleton bytes), rfl, rfl, inetPton_ipAddrText _, rfl,
    rfl, rfl, rfl, rfl⟩]
  rfl

end Relay

/-- The offsets of the GRE header and of the fields `ip_sum` and `ip_src`. -/
def clientFields : List Nat := [0, 1, 2, 3, 4, 5, 16, 17, 18, 19, 20, 21]

/-- Decryption keeps the agreement, because both ciphertexts end their payload at the same
place. -/
lemma AgreeOutside.decrypted {b b' : Buf} (h : AgreeOutside clientFields b b') (k : Key)
    (hlen : b.length = b'.length) : AgreeOutside clientFields (decrypted k b) (decrypted k b') := by
  have htext : textLength b = textLength b' := by
    rw [textLength, textLength, h.drop (by decide)]
  intro i hi
  rw [SimpleVpn.decrypted, SimpleVpn.decrypted, htext, List.getElem?_set, List.getElem?_set,
    getElem?_xorFrom, getElem?_xorFrom, h i hi, length_xorFrom, length_xorFrom, hlen]

section Packets

variable (order : ByteOrder)

lemma resum_congr {l l' : List UInt8} (h : ∀ j, j < 10 ∨ 16 ≤ j → l.getD j 0 = l'.getD j 0)
    (v : UInt32) : resum order { IpHdr.ofBytes order l with ipSrc := v } =
      resum order { IpHdr.ofBytes order l' with ipSrc := v } := by
  simp (disch := omega) only [resum, swapped, IpHdr.ofBytes, h]

lemma Packet.tail_bytes (p : Packet) : p.bytes.drop 26 = p.tcp ++ p.field := by
  rw [Packet.bytes, Packet.inner, ← List.append_assoc]
  apply List.drop_left'
  rw [List.length_append, p.length_gre, p.length_ip]
  rfl

lemma Packet.getElem?_ip (p : Packet) {j : Nat} (hj : j < 20) : p.ip[j]? = p.bytes[6 + j]? := by
  have hgre : p.gre.length = 6 := p.length_gre
  have hip : p.ip.length = 20 := p.length_ip
  rw [Packet.bytes, Packet.inner, List.getElem?_append_right (by omega), hgre,
    Nat.add_sub_cancel_left, List.getElem?_append_left (by omega)]

/-- The server's traffic does not depend on the GRE header, the source and the checksum of the
packet. -/
lemma relayTraffic_congr {p p' : Packet} (h : AgreeOutside clientFields p.bytes p'.bytes)
    (newSocket : Fd) (serverIp : CString) :
    relayTraffic order newSocket serverIp p = relayTraffic order newSocket serverIp p' := by
  have htail : p.tcp ++ p.field = p'.tcp ++ p'.field := by
    rw [← p.tail_bytes, ← p'.tail_bytes, h.drop (by decide)]
  have hip : ∀ j, j < 10 ∨ 16 ≤ j → p.ip.getD j 0 = p'.ip.getD j 0 := by
    intro j hj
    rw [List.getD_eq_getElem?_getD, List.getD_eq_getElem?_getD]
    by_cases hlt : j < 20
    · rw [p.getElem?_ip hlt, p'.getElem?_ip hlt, h (6 + j)]
      simp only [clientFields, List.mem_cons, List.not_mem_nil, or_false]
      omega
    · have hlen : p.ip.length = 20 := p.length_ip
      have hlen' : p'.ip.length = 20 := p'.length_ip
      rw [List.getElem?_eq_none (by omega), List.getElem?_eq_none (by omega)]
  have hdst : (p.ipHdr order).ipDst = (p'.ipHdr order).ipDst := by
    simp (disch := omega) only [Packet.ipHdr, IpHdr.ofBytes, hip]
  have hinner : (p.relayed order serverIp).inner = (p'.relayed order serverIp).inner := by
    have hresum := resum_congr order hip (parseIpAddr serverIp)
    change (resum order { p.ipHdr order with ipSrc := _ }).toBytes order ++ (p.tcp ++ p.field) =
      (resum order { p'.ipHdr order with ipSrc := _ }).toBytes order ++ (p'.tcp ++ p'.field)
    rw [htail, Packet.ipHdr, Packet.ipHdr, hresum]
  rw [relayTraffic, relayTraffic, hdst, hinner]

end Packets

/-- The server forwards `sent` to the host whose address text is `text`. -/
def Forwards (order : ByteOrder) (k : Key) (newSocket : Fd) (serverIp : CString)
    (bytes : Received pktSize) (text : CString) (address sent : List UInt8) : Prop :=
  traffic (serverRelay order k newSocket serverIp) [bytes.val] =
    pure [.recv newSocket pktSize, .socket, .inetPton text, .connect 3 address port, .send 3 sent]

section Clients

variable (order : ByteOrder) (k : Key) (newSocket : Fd) (serverIp : CString)

lemma forwards_of_agree {bytes bytes' : Received pktSize}
    (h : AgreeOutside clientFields (received pktSize bytes) (received pktSize bytes'))
    (hnul : 0 ∈ (received pktSize bytes).drop 46) :
    ∃ text address sent, sent.length = 168 ∧
      Forwards order k newSocket serverIp bytes text address sent ∧
      Forwards order k newSocket serverIp bytes' text address sent := by
  have hlen := length_received bytes
  have hlen' := length_received bytes'
  have hnul' : 0 ∈ (received pktSize bytes').drop 46 := by
    rw [← h.drop (by decide)]
    exact hnul
  obtain ⟨p, hp, hrec, hfield⟩ := exists_recovered k hlen hnul
  obtain ⟨p', hp', hrec', hfield'⟩ := exists_recovered k hlen' hnul'
  have hagree : AgreeOutside clientFields p.bytes p'.bytes := by
    rw [hp, hp']
    exact h.decrypted k (hlen.trans hlen'.symm)
  have ht := traffic_serverRelay order k newSocket serverIp hrec hfield
  have ht' := traffic_serverRelay order k newSocket serverIp hrec' hfield'
  rw [← relayTraffic_congr order hagree] at ht'
  exact ⟨_, _, _, (p.relayed order serverIp).length_inner, ht, ht'⟩

lemma header_split (ipDest : CString) (flags : UInt8) :
    ∃ a b, a.length = 16 ∧ ∀ clientIp, ∃ x, x.length = 6 ∧
      header order clientIp ipDest ipProtocolTcp flags = a ++ x ++ b := by
  let a := [0, 1, 8, 0] ++ bytes16 order (freshGre order).greSum ++
    [0x40, 0, 0, 148, 0, 0, 0, 0, 0, ipProtocolTcp]
  let b := bytes32 order (parseIpAddr ipDest) ++
    ([67, 198, 67, 198, 0, 0, 0, 0, 0, 0, 0, 0, 0, flags, 0, 0] ++
      (bytes16 order (freshTcp order flags).tcpSum ++ [0, 0]))
  refine ⟨a, b, ?_, ?_⟩
  · rw [List.length_append, List.length_append, length_bytes16]
    rfl
  · intro clientIp
    refine ⟨bytes16 order (freshIp order clientIp ipDest ipProtocolTcp).ipSum ++
      bytes32 order (parseIpAddr clientIp), ?_, ?_⟩
    · rw [List.length_append, length_bytes16, length_bytes32]
    · rw [header_eq]
      simp only [List.append_assoc, a, b]

/-- The server cannot tell the ciphertexts of two clients apart outside their own fields. -/
lemma agree_wires (clientIp clientIp' ipDest m : CString) (flags : UInt8) (c : List UInt8) :
    AgreeOutside clientFields (wire k m (header order clientIp ipDest ipProtocolTcp flags) ++ c)
      (wire k m (header order clientIp' ipDest ipProtocolTcp flags) ++ c) := by
  obtain ⟨a, b, ha, hsplit⟩ := header_split order ipDest flags
  obtain ⟨x, hx, hhdr⟩ := hsplit clientIp
  obtain ⟨x', hx', hhdr'⟩ := hsplit clientIp'
  have hwire : ∀ y : List UInt8, y.length = 6 → wire k m (a ++ y ++ b) ++ c =
      xorFrom k 0 a ++ xorFrom k 16 y ++ (xorFrom k 22 (b ++ m.bytes) ++ c) := by
    intro y hy
    rw [wire, List.append_assoc (a ++ y), xorFrom_append, xorFrom_append, List.length_append, ha, hy,
      List.append_assoc]
  intro i hi
  rw [hhdr, hhdr', hwire x hx, hwire x' hx']
  refine getElem?_append_of_outside _ _ (by rw [length_xorFrom, length_xorFrom, hx, hx']) ?_
  rw [length_xorFrom, length_xorFrom, ha, hx]
  simp only [clientFields, List.mem_cons, List.not_mem_nil, or_false] at hi
  omega

lemma forwards_of_clients (sockfd : Fd) (clientIp clientIp' ipDest m : CString) (flags : UInt8)
    (hm : m.length ≤ 127) :
    ∃ bytes bytes' : Received pktSize,
      sends (sendMessage order k sockfd clientIp ipDest m flags) = pure [bytes.val] ∧
      sends (sendMessage order k sockfd clientIp' ipDest m flags) = pure [bytes'.val] ∧
      ∃ text address sent, sent.length = 168 ∧
        Forwards order k newSocket serverIp bytes text address sent ∧
        Forwards order k newSocket serverIp bytes' text address sent := by
  let hdr (ip : CString) := header order ip ipDest ipProtocolTcp flags
  have hlen : ∀ ip, (wire k m (hdr ip)).length = 46 + m.length :=
    fun ip => length_wire k m (length_header order ip ipDest ipProtocolTcp flags)
  have hle : ∀ ip, (wire k m (hdr ip)).length ≤ pktSize :=
    fun ip => length_wire_le k m (length_header order ip ipDest ipProtocolTcp flags) hm
  refine ⟨⟨_, hle clientIp⟩, ⟨_, hle clientIp'⟩, sends_sendMessage order k sockfd clientIp ipDest m flags hm,
    sends_sendMessage order k sockfd clientIp' ipDest m flags hm, ?_⟩
  refine forwards_of_agree order k newSocket serverIp ?_ ?_
  · rw [received_eq, received_eq, hlen, hlen]
    exact agree_wires order k clientIp clientIp' ipDest m flags _
  · rw [zero_mem_received, hlen]
    exact .inl (by omega)

/-- The destination cannot tell from the traffic which client a packet comes from: packets that
differ in the GRE header, the source and the checksum are forwarded as the same bytes to the same
host, and so are the packets of two clients. -/
theorem client_hidden :
    (∀ bytes bytes' : Received pktSize,
      AgreeOutside clientFields (received pktSize bytes) (received pktSize bytes') →
      0 ∈ (received pktSize bytes).drop (getPayload 0) →
      ∃ text address sent, sent.length = 168 ∧
        Forwards order k newSocket serverIp bytes text address sent ∧
        Forwards order k newSocket serverIp bytes' text address sent) ∧
    ∀ (sockfd : Fd) (clientIp clientIp' ipDest m : CString) (flags : UInt8), m.length ≤ 127 →
      ∃ bytes bytes' : Received pktSize,
        sends (sendMessage order k sockfd clientIp ipDest m flags) = pure [bytes.val] ∧
        sends (sendMessage order k sockfd clientIp' ipDest m flags) = pure [bytes'.val] ∧
        ∃ text address sent, sent.length = 168 ∧
          Forwards order k newSocket serverIp bytes text address sent ∧
          Forwards order k newSocket serverIp bytes' text address sent :=
  ⟨fun _ _ h hnul => forwards_of_agree order k newSocket serverIp h hnul,
    fun sockfd clientIp clientIp' ipDest m flags hm =>
      forwards_of_clients order k newSocket serverIp sockfd clientIp clientIp' ipDest m flags hm⟩

end Clients

/-- Two buffers that differ in their first byte, and the hosts `h1` and `h4`. -/
theorem client_hidden_h1_h4 :
    (∃ text address sent, sent.length = 168 ∧
      Forwards .little key 4 (.lit "10.0.0.2") ⟨[1], by decide⟩ text address sent ∧
      Forwards .little key 4 (.lit "10.0.0.2") ⟨[2], by decide⟩ text address sent) ∧
    ∃ bytes bytes' : Received pktSize,
      sends (sendMessage .little key 3 (.lit "10.0.0.1") (.lit "10.0.0.3") clientPayload tcpFlagSyn) =
        pure [bytes.val] ∧
      sends (sendMessage .little key 3 (.lit "10.0.0.4") (.lit "10.0.0.3") clientPayload tcpFlagSyn) =
        pure [bytes'.val] ∧
      ∃ text address sent, sent.length = 168 ∧
        Forwards .little key 4 (.lit "10.0.0.2") bytes text address sent ∧
        Forwards .little key 4 (.lit "10.0.0.2") bytes' text address sent := by
  have h := client_hidden .little key 4 (.lit "10.0.0.2")
  refine ⟨h.1 ⟨[1], by decide⟩ ⟨[2], by decide⟩ ?_ (by decide +kernel),
    h.2 3 (.lit "10.0.0.1") (.lit "10.0.0.4") (.lit "10.0.0.3") clientPayload tcpFlagSyn (by decide)⟩
  intro i hi
  rw [received_eq, received_eq]
  have hlen : [(1 : UInt8)].length = [(2 : UInt8)].length := rfl
  refine getElem?_append_of_outside [] _ hlen (.inr ?_)
  apply Nat.pos_of_ne_zero
  rintro rfl
  exact hi (by decide)

end SimpleVpn
