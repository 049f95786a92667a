import SimpleVpn.Proofs.Forward

/-!
# Key bytes behind the message

The receiver decrypts the zeros behind a ciphertext to key bytes, and the server forwards the
whole payload field. The forwarded bytes are free of the key only where no byte is left behind
the message, or where the key itself is zero.
-/

namespace SimpleVpn

open CLang

section Field

variable (k : Key) (m : CString)

lemma getElem?_deliveredField_message {i : Nat} (hi : i < m.length) (hne : i ≠ cut k 46 m.bytes) :
    (deliveredField k m)[i]? = m.bytes[i]? := by
  rw [deliveredField, List.getElem?_set_ne hne.symm, List.getElem?_append_left hi]

lemma getElem?_deliveredField_key {i : Nat} (hi : m.length ≤ i) (hlt : i < 128)
    (hne : i ≠ cut k 46 m.bytes) : (deliveredField k m)[i]? = some (k.at (46 + i)) := by
  have hpad : (calloc (128 - m.length))[i - m.length]? = some 0 := by
    rw [calloc, List.getElem?_replicate, if_pos (by omega)]
  have hindex : 46 + m.length + (i - m.length) = 46 + i := by omega
  rw [deliveredField, List.getElem?_set_ne hne.symm, List.getElem?_append_right hi,
    show m.bytes.length = m.length from rfl, getElem?_xorFrom, hpad, hindex, Option.map_some,
    UInt8.zero_xor]

end Field

/-- No byte behind the place where the message is cut comes from the message or the key. -/
def KeyFree (k : Key) (m : CString) : Prop :=
  m.length ≤ cut k 46 m.bytes + 1 ∧
    ∀ i, m.length ≤ i → i < 128 → i ≠ cut k 46 m.bytes → k.at (46 + i) = 0

def ZeroTail (field : List UInt8) : Prop := ∀ b ∈ field.drop (CString.textOf field).length, b = 0

lemma length_textOf_deliveredField (k : Key) (m : CString) (hm : m.length ≤ 127) :
    (CString.textOf (deliveredField k m)).length = cut k 46 m.bytes := by
  rw [CString.length, textOf_deliveredField k m hm, List.length_take_of_le (cut_le k 46 m.bytes)]

lemma deliveredField_of_keyFree {k : Key} {m : CString} (hm : m.length ≤ 127) (h : KeyFree k m) :
    deliveredField k m =
      m.bytes.take (cut k 46 m.bytes) ++ calloc (128 - cut k 46 m.bytes) := by
  obtain ⟨hcut, hkey⟩ := h
  have hle := cut_le k 46 m.bytes
  have hlt := cut_lt k m hm
  have htake : (m.bytes.take (cut k 46 m.bytes)).length = cut k 46 m.bytes :=
    List.length_take_of_le hle
  apply List.ext_getElem?
  intro i
  by_cases hi : i < cut k 46 m.bytes
  · have him : i < m.length := Nat.lt_of_lt_of_le hi hle
    rw [getElem?_deliveredField_message k m him (by omega), List.getElem?_append_left (by omega),
      List.getElem?_take, if_pos hi]
  · rw [List.getElem?_append_right (by omega), htake, calloc, List.getElem?_replicate]
    by_cases hend : i < 128
    · rw [if_pos (by omega)]
      by_cases heq : i = cut k 46 m.bytes
      · rw [heq, getElem?_deliveredField_cut k m hm]
      · rw [getElem?_deliveredField_key k m (by omega) hend heq, hkey i (by omega) hend heq]
    · rw [if_neg (by omega), List.getElem?_eq_none]
      rw [length_deliveredField k m hm]
      omega

theorem zeroTail_deliveredField_iff (k : Key) (m : CString) (hm : m.length ≤ 127) :
    ZeroTail (deliveredField k m) ↔ KeyFree k m := by
  unfold ZeroTail
  rw [length_textOf_deliveredField k m hm]
  constructor
  · intro h
    have hzero : ∀ i b, cut k 46 m.bytes ≤ i → (deliveredField k m)[i]? = some b → b = 0 := by
      intro i b hi hb
      refine h b (List.mem_of_getElem? (i := i - cut k 46 m.bytes) ?_)
      rw [List.getElem?_drop, Nat.add_sub_cancel' hi, hb]
    constructor
    · by_contra hlong
      have hlt : cut k 46 m.bytes + 1 < m.bytes.length := Nat.lt_of_not_le hlong
      have hb := getElem?_deliveredField_message k m hlt (by omega)
      rw [List.getElem?_eq_getElem hlt] at hb
      exact m.nonzero _ (List.getElem_mem hlt) (hzero _ _ (by omega) hb)
    · intro i hi hend hne
      have hle := cut_le k 46 m.bytes
      exact hzero i _ (hle.trans hi) (getElem?_deliveredField_key k m hi hend hne)
  · intro h b hb
    have htake : (m.bytes.take (cut k 46 m.bytes)).length = cut k 46 m.bytes :=
      List.length_take_of_le (cut_le k 46 m.bytes)
    rw [deliveredField_of_keyFree hm h, List.drop_left' htake] at hb
    exact List.eq_of_mem_replicate hb

/-- The key of the programs stays out of the field only behind a message of 127 bytes that is
delivered whole. -/
theorem keyFree_key_iff (m : CString) (hm : m.length ≤ 127) :
    KeyFree key m ↔ m.length = 127 ∧ cut key 46 m.bytes = 127 := by
  have hle : cut key 46 m.bytes ≤ m.length := cut_le key 46 m.bytes
  constructor
  · rintro ⟨-, hkey⟩
    have hcut : cut key 46 m.bytes = 127 := by
      by_contra hne
      exact key_at_ne_zero (46 + 127) (hkey 127 hm (by decide) (Ne.symm hne))
    omega
  · rintro ⟨hlen, hcut⟩
    refine ⟨by omega, ?_⟩
    intro i hi hlt hne
    omega

section Relay

variable (order : ByteOrder) (sockfd newSocket : Fd) (clientIp serverIp ipDest m : CString)
  (flags : UInt8)

/-- The server forwards `sent` for the client's message. -/
def RelaysMessage (k : Key) (sent : List UInt8) : Prop :=
  ∃ bytes : Received pktSize,
    sends (sendMessage order k sockfd clientIp ipDest m flags) = pure [bytes.val] ∧
    ∃ text address, Forwards order k newSocket serverIp bytes text address sent

/-- The headers of the forwarded packet, which do not depend on the key. -/
def relayedHeader : List UInt8 :=
  (resum order { freshIp order clientIp ipDest ipProtocolTcp with
    ipSrc := parseIpAddr serverIp }).toBytes order ++ (freshTcp order flags).toBytes order

lemma length_relayedHeader :
    (relayedHeader order clientIp serverIp ipDest flags).length = sizeofIpHdr + sizeofTcpHdr := by
  rw [relayedHeader, List.length_append, IpHdr.length_toBytes, TcpHdr.length_toBytes]

lemma inner_messagePacket (field : List UInt8) (h : field.length = 128) :
    ((messagePacket order clientIp ipDest flags field h).relayed order serverIp).inner =
      relayedHeader order clientIp serverIp ipDest flags ++ field := by
  rw [Packet.relayed, ipHdr_messagePacket, relayedHeader, List.append_assoc]
  rfl

variable (hm : m.length ≤ 127)
include hm

theorem relaysMessage_iff (k : Key) (sent : List UInt8) :
    RelaysMessage order sockfd newSocket clientIp serverIp ipDest m flags k sent ↔
      sent = relayedHeader order clientIp serverIp ipDest flags ++ deliveredField k m := by
  let hdr := header order clientIp ipDest ipProtocolTcp flags
  let p := messagePacket order clientIp ipDest flags (deliveredField k m) (length_deliveredField k m hm)
  have hhdr : hdr.length = 46 := length_header order clientIp ipDest ipProtocolTcp flags
  have hsends := sends_sendMessage order k sockfd clientIp ipDest m flags hm
  have hwire := length_wire_le k m hhdr hm
  have hfield : 0 ∈ p.field := zero_mem_deliveredField k m hm
  have hrec : recover k (received pktSize ⟨wire k m hdr, hwire⟩) = pure p.bytes := by
    rw [recover_wire k m hhdr hm, bytes_messagePacket]
  have htraffic := traffic_serverRelay order k newSocket serverIp hrec hfield
  rw [relayTraffic, inner_messagePacket] at htraffic
  constructor
  · rintro ⟨bytes, hbytes, text, address, hforward⟩
    rw [hsends, Mem.pure_inj, List.cons.injEq] at hbytes
    have hval : bytes = ⟨wire k m hdr, hwire⟩ := Subtype.ext hbytes.1.symm
    rw [Forwards, hval, htraffic, Mem.pure_inj] at hforward
    simp only [List.cons.injEq, SysCall.send.injEq, true_and, and_true] at hforward
    exact hforward.2.2.symm
  · rintro rfl
    exact ⟨⟨wire k m hdr, hwire⟩, hsends, _, _, htraffic⟩

/-- The forwarded bytes are the same under both keys, and behind the payload string there are
only zeros, as in the packet that the client built. -/
def KeyHidden (k k' : Key) : Prop :=
  ∃ sent, RelaysMessage order sockfd newSocket clientIp serverIp ipDest m flags k sent ∧
    RelaysMessage order sockfd newSocket clientIp serverIp ipDest m flags k' sent ∧
    ZeroTail (sent.drop (sizeofIpHdr + sizeofTcpHdr))

/-- The key stays hidden exactly when both keys cut the message at the same place and leave no
byte behind it: the cut is not before the last byte, and both keys are zero behind it. -/
theorem keyHidden_iff (k k' : Key) :
    KeyHidden order sockfd newSocket clientIp serverIp ipDest m flags k k' ↔
      cut k 46 m.bytes = cut k' 46 m.bytes ∧ KeyFree k m ∧ KeyFree k' m := by
  have hhdr := length_relayedHeader order clientIp serverIp ipDest flags
  unfold KeyHidden
  simp only [relaysMessage_iff order sockfd newSocket clientIp serverIp ipDest m flags hm]
  constructor
  · rintro ⟨sent, hsent, hsent', htail⟩
    have hfield : deliveredField k m = deliveredField k' m :=
      List.append_cancel_left (hsent.symm.trans hsent')
    have hcut : cut k 46 m.bytes = cut k' 46 m.bytes := by
      rw [← length_textOf_deliveredField k m hm, hfield, length_textOf_deliveredField k' m hm]
    rw [hsent, List.drop_left' hhdr] at htail
    refine ⟨hcut, (zeroTail_deliveredField_iff k m hm).mp htail, ?_⟩
    rw [hfield] at htail
    exact (zeroTail_deliveredField_iff k' m hm).mp htail
  · rintro ⟨hcut, hfree, hfree'⟩
    refine ⟨_, rfl, ?_, ?_⟩
    · rw [deliveredField_of_keyFree hm hfree, deliveredField_of_keyFree hm hfree', hcut]
    · rw [List.drop_left' hhdr]
      exact (zeroTail_deliveredField_iff k m hm).mpr hfree

end Relay

/-- A message that fills the field and meets no byte of either key. -/
def fullMessage : CString := ⟨List.replicate 127 0x41, fun c hc => by
  rw [(List.mem_replicate.mp hc).2]
  decide⟩

theorem keyHidden_fullMessage :
    KeyHidden .little 3 4 (.lit "10.0.0.1") (.lit "10.0.0.2") (.lit "10.0.0.3") fullMessage tcpFlagSyn
      key #v[1, 2, 3, 4] := by
  refine (keyHidden_iff .little 3 4 (.lit "10.0.0.1") (.lit "10.0.0.2") (.lit "10.0.0.3") fullMessage
    tcpFlagSyn (by decide +kernel) key #v[1, 2, 3, 4]).mpr ⟨by decide +kernel, ⟨by decide +kernel, ?_⟩,
      by decide +kernel, ?_⟩
  all_goals
    intro i hi hlt hne
    have hlen : fullMessage.length = 127 := by decide +kernel
    obtain rfl : i = 127 := by omega
    exact absurd (by decide +kernel) hne

/-- The key bytes behind the client's message are forwarded. -/
theorem not_keyHidden_clientPayload :
    ¬ KeyHidden .little 3 4 (.lit "10.0.0.1") (.lit "10.0.0.2") (.lit "10.0.0.3") clientPayload
      tcpFlagSyn key #v[1, 2, 3, 4] := by
  rintro ⟨sent, hsent, hsent', -⟩
  rw [relaysMessage_iff _ _ _ _ _ _ _ _ (by decide)] at hsent hsent'
  have hfield := List.append_cancel_left (hsent.symm.trans hsent')
  exact absurd hfield (by decide +kernel)

end SimpleVpn
