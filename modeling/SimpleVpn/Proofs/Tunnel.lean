import SimpleVpn.Proofs.Builder
import SimpleVpn.Proofs.Receive

/-!
# The tunnel

Both senders put a prefix of a ciphertext on the wire: 46 header bytes and the message. The
receiver pads it with zeros and decrypts the padding too, so the message that it reads ends at
the first byte that met its own key byte, and the padding turns into key bytes.
-/

namespace SimpleVpn

open CLang

lemma length_take_head {packet : Buf} (h : packet.length = pktSize) : (packet.take 46).length = 46 := by
  rw [List.length_take_of_le]
  rw [h]
  decide

section Wire

variable (k : Key) {hdr : List UInt8} (m : CString)

/-- The ciphertext of a header and a message. -/
def wire (hdr : List UInt8) : List UInt8 := xorFrom k 0 (hdr ++ m.bytes)

/-- The payload field that the receiver decrypts. -/
def deliveredField : List UInt8 :=
  (m.bytes ++ xorFrom k (46 + m.length) (calloc (128 - m.length))).set (cut k 46 m.bytes) 0

variable (hhdr : hdr.length = 46)
include hhdr

lemma length_wire : (wire k m hdr).length = 46 + m.length := by
  rw [wire, length_xorFrom, List.length_append, hhdr]
  rfl

lemma drop_wire : (wire k m hdr ++ calloc (128 - m.length)).drop 46 =
    xorFrom k 46 m.bytes ++ calloc (128 - m.length) := by
  rw [wire, xorFrom_append, hhdr, List.append_assoc, Nat.zero_add,
    List.drop_left' (by rw [length_xorFrom, hhdr])]

variable (hm : m.length ≤ 127)
include hm

lemma length_wire_le : (wire k m hdr).length ≤ pktSize := by
  rw [length_wire k m hhdr]
  change 46 + m.length ≤ 174
  omega

lemma textLength_wire : textLength (wire k m hdr ++ calloc (128 - m.length)) = cut k 46 m.bytes := by
  have hpad : calloc (128 - m.length) = List.replicate (127 - m.length + 1) 0 := by
    rw [calloc]
    congr 1
    omega
  rw [textLength, drop_wire k m hhdr, hpad, CString.length, CString.bytes_textOf,
    takeWhile_xorFrom, List.length_take_of_le]
  rw [length_xorFrom]
  exact cut_le k 46 m.bytes

lemma decrypted_wire : decrypted k (wire k m hdr ++ calloc (128 - m.length)) =
    hdr ++ deliveredField k m := by
  have hlen : (hdr ++ m.bytes).length = 46 + m.length := by
    rw [List.length_append, hhdr]
    rfl
  rw [decrypted, textLength_wire k m hhdr hm, wire, xorFrom_append, xorFrom_xorFrom,
    length_xorFrom, hlen, Nat.zero_add, List.append_assoc, List.set_append_right _ _ (by omega), hhdr,
    Nat.add_sub_cancel_left]
  rfl

theorem recover_wire (h : (wire k m hdr).length ≤ pktSize) :
    recover k (received pktSize ⟨wire k m hdr, h⟩) = pure (hdr ++ deliveredField k m) := by
  have hrec : received pktSize ⟨wire k m hdr, h⟩ = wire k m hdr ++ calloc (128 - m.length) := by
    rw [received_eq, length_wire k m hhdr]
    congr 2
    change 174 - (46 + m.length) = _
    omega
  have hnul : 0 ∈ (received pktSize ⟨wire k m hdr, h⟩).drop 46 := by
    rw [zero_mem_received, length_wire k m hhdr]
    exact .inl (by omega)
  rw [recover_of_mem k (length_received _) hnul, hrec, decrypted_wire k m hhdr hm]

end Wire

section Field

variable (k : Key) (m : CString) (hm : m.length ≤ 127)
include hm

lemma length_deliveredField : (deliveredField k m).length = 128 := by
  have hlen : m.bytes.length ≤ 127 := hm
  rw [deliveredField, List.length_set, List.length_append, length_xorFrom, length_calloc,
    CString.length]
  omega

lemma cut_lt : cut k 46 m.bytes < 128 :=
  Nat.lt_succ_of_le ((cut_le k 46 m.bytes).trans hm)

lemma getElem?_deliveredField_cut : (deliveredField k m)[cut k 46 m.bytes]? = some 0 := by
  have hlen := length_deliveredField k m hm
  have hcut := cut_lt k m hm
  rw [deliveredField, List.length_set] at hlen
  rw [deliveredField, List.getElem?_set_self (by omega)]

lemma zero_mem_deliveredField : 0 ∈ deliveredField k m :=
  List.mem_of_getElem? (getElem?_deliveredField_cut k m hm)

end Field

/-- The payload string ends where the first byte met its key byte. -/
lemma textOf_deliveredField (k : Key) (m : CString) (hm : m.length ≤ 127) :
    (CString.textOf (deliveredField k m)).bytes = m.bytes.take (cut k 46 m.bytes) := by
  have hcut := cut_le k 46 m.bytes
  have hlen : cut k 46 m.bytes <
      (m.bytes ++ xorFrom k (46 + m.length) (calloc (128 - m.length))).length := by
    have : m.bytes.length ≤ 127 := hm
    rw [List.length_append, length_xorFrom, length_calloc, CString.length]
    omega
  have hnonzero : ∀ c ∈ m.bytes.take (cut k 46 m.bytes), (c != 0) = true := by
    intro c hc
    simpa using m.nonzero c (List.mem_of_mem_take hc)
  rw [CString.bytes_textOf, deliveredField, List.set_eq_take_append_cons_drop, if_pos hlen,
    List.take_append_of_le_length hcut, List.takeWhile_append_of_pos hnonzero]
  simp

lemma sends_sendAndFreePacketVpn (sockfd : Fd) (packet : Buf) (ipProtocol payloadSize : UInt8) :
    sends (sendAndFreePacketVpn sockfd packet ipProtocol payloadSize) =
      (fun bytes => [bytes]) <$> loadRange packet 0 (getPacketSize ipProtocol payloadSize).toNat := by
  simp only [sendAndFreePacketVpn, Prog.liftM_eq_ofMem, sends_ofMem_bind, ← bind_pure_comp]
  rfl

/-- The bytes that `serv_cli_encrypt_free` sends. -/
def encryptedWire (k : Key) (packet : Buf) (ipProtocol payloadSize : UInt8) : Mem (List UInt8) := do
  let packLen := (getPacketSize ipProtocol payloadSize).toNat
  let encryptPacket ← xorEncryptDecrypt k packet (calloc packLen) packLen
  let encryptPacket ← store encryptPacket (getPayload 0 + payloadSize.toNat) 0
  loadRange encryptPacket 0 packLen

lemma servCliEncryptFree_eq (k : Key) (sockfd : Fd) (packet : Buf)
    (ipProtocol payloadSize : UInt8) :
    servCliEncryptFree k sockfd packet ipProtocol payloadSize =
      Prog.ofMem (encryptedWire k packet ipProtocol payloadSize) >>= fun bytes => do
        if !(← Sock.send sockfd bytes) then
          return -1
        return 0 := by
  simp only [servCliEncryptFree, encryptedWire, Prog.liftM_eq_ofMem, Prog.ofMem_bind, bind_assoc]

lemma sends_servCliEncryptFree (k : Key) (sockfd : Fd) (packet : Buf)
    (ipProtocol payloadSize : UInt8) :
    sends (servCliEncryptFree k sockfd packet ipProtocol payloadSize) =
      (fun bytes => [bytes]) <$> encryptedWire k packet ipProtocol payloadSize := by
  rw [servCliEncryptFree_eq, sends_ofMem_bind, ← bind_pure_comp]
  rfl

/-- The client's construction and transmission of a message. -/
def sendMessage (order : ByteOrder) (k : Key) (sockfd : Fd) (ipSrc ipDest m : CString)
    (flags : UInt8) : VpnProg Int := do
  let packet ← createPackets order k ipSrc ipDest ipProtocolTcp m flags
  sendAndFreePacketVpn sockfd packet ipProtocolTcp (UInt8.ofNat m.length)

lemma getPacketSize_message {n : Nat} (hn : n ≤ 127) :
    (getPacketSize ipProtocolTcp (UInt8.ofNat n)).toNat = 46 + n := by
  have hn' : (UInt8.ofNat n).toNat = n := by
    rw [UInt8.toNat_ofNat']
    omega
  rw [getPacketSize, if_pos rfl, UInt8.toNat_ofNat', hn']
  simp only [sizeofTcpHdr, sizeofGreHdr, sizeofIpHdr]
  omega

/-- The client's packet has a NUL in its payload field, and begins with the ciphertext of the
headers and the message. -/
lemma createPackets_message (order : ByteOrder) (k : Key) (ipSrc ipDest m : CString) (flags : UInt8)
    (hm : m.length ≤ 127) : ∃ p : Packet,
      createPackets order k ipSrc ipDest ipProtocolTcp m flags = pure p.bytes ∧ 0 ∈ p.field ∧
      loadRange p.bytes 0 (getPacketSize ipProtocolTcp (UInt8.ofNat m.length)).toNat =
        pure (wire k m (header order ipSrc ipDest ipProtocolTcp flags)) := by
  let plain := plainPacket order ipSrc ipDest ipProtocolTcp m flags
  have hkept : keptLength m.length = m.length := by
    unfold keptLength
    omega
  have hlen : ((xorFrom k 0 plain).set (46 + m.length) 0).length = 174 := by
    rw [List.length_set, length_xorFrom, length_plainPacket]
    rfl
  have hplain : plain.take (46 + m.length) =
      header order ipSrc ipDest ipProtocolTcp flags ++ m.bytes := by
    have hhead : (header order ipSrc ipDest ipProtocolTcp flags ++ m.bytes).length =
        46 + m.length := by
      rw [List.length_append, length_header]
      rfl
    rw [show plain = _ ++ m.bytes.take (keptLength m.length) ++ _ from rfl, hkept,
      List.take_of_length_le (Nat.le_refl m.length), List.take_left' hhead]
  obtain ⟨p, hp⟩ := Packet.exists_bytes hlen
  refine ⟨p, ?_, ?_, ?_⟩
  · rw [createPackets_eq order ipSrc ipDest ipProtocolTcp m flags k (by omega), hkept, hp]
  · rw [← p.drop_bytes, hp, show getPayload 0 = 46 from rfl, List.drop_set, if_neg (by omega),
      Nat.add_sub_cancel_left]
    refine List.mem_set ?_ 0
    rw [List.length_set] at hlen
    rw [List.length_drop, hlen]
    omega
  · rw [getPacketSize_message hm, hp, loadRange_of_le (by omega), List.drop_zero,
      List.take_set_of_le (Nat.le_refl _), ← xorFrom_take, hplain]
    rfl

theorem sends_sendMessage (order : ByteOrder) (k : Key) (sockfd : Fd) (ipSrc ipDest m : CString)
    (flags : UInt8) (hm : m.length ≤ 127) :
    sends (sendMessage order k sockfd ipSrc ipDest m flags) =
      pure [wire k m (header order ipSrc ipDest ipProtocolTcp flags)] := by
  obtain ⟨p, hp, -, hsent⟩ := createPackets_message order k ipSrc ipDest m flags hm
  rw [sendMessage, Prog.liftM_eq_ofMem, sends_ofMem_bind, hp, pure_bind, sends_sendAndFreePacketVpn,
    hsent, map_pure]

/-- The server sends the ciphertext of the packet up to its NUL, and writes the terminator one
byte behind the ciphertext. -/
theorem encryptedWire_message (k : Key) {packet : Buf} {m : CString}
    (hlen : packet.length = pktSize) (hm : cstringAt packet (getPayload 0) = pure m) :
    encryptedWire k packet ipProtocolTcp (UInt8.ofNat m.length) =
      ⟨[.store (46 + m.length : Nat) (46 + m.length)], .value (wire k m (packet.take 46))⟩ := by
  have hlen' : packet.length = 174 := hlen
  obtain ⟨hnul, htext⟩ := cstringAt_eq_pure.mp hm
  rw [show getPayload 0 = 46 from rfl] at hnul htext
  have hlt : m.length < 128 := by
    have := CString.length_textOf_lt hnul
    rw [htext, List.length_drop, hlen'] at this
    exact this
  have hbytes : m.bytes = (packet.drop 46).take m.length := by
    have hprefix := List.takeWhile_prefix (· != 0) (l := packet.drop 46)
    rw [← CString.bytes_textOf, htext] at hprefix
    exact List.prefix_iff_eq_take.mp hprefix
  have htake : packet.take (46 + m.length) = packet.take 46 ++ m.bytes := by
    rw [List.take_add, ← hbytes]
  have hsize : (UInt8.ofNat m.length).toNat = m.length := by
    rw [UInt8.toNat_ofNat']
    omega
  have hwire : (xorFrom k 0 (packet.take (46 + m.length))).length = 46 + m.length := by
    rw [length_xorFrom, List.length_take_of_le (by omega)]
  have hindex : ((getPayload 0 : Nat) : Int) + (m.length : Nat) = ((46 + m.length : Nat) : Int) := rfl
  have hload : loadRange (xorFrom k 0 (packet.take (46 + m.length))) 0 (46 + m.length) =
      pure (wire k m (packet.take 46)) := by
    rw [loadRange_of_le (by omega), List.drop_zero, List.take_of_length_le hwire.le, htake]
    rfl
  rw [encryptedWire, getPacketSize_message (by omega), xorEncryptDecrypt_eq k _ _ (by omega), pure_bind, hsize, hindex,
    store_of_not_mem (by omega), hwire, Mem.value_bind, hload]
  rfl

/-- When the sender's bytes are delivered whole, the receiver reads the message. -/
def Delivers (k : Key) (sender : VpnProg Int) (sockfd : Fd) (m : CString) : Prop :=
  ∃ packet, (tunnel sender (servRecFromCli k sockfd)).Returns (some packet) ∧
    cstringAt packet (getPayload 0) = pure m

/-- The receiver's value for a wire that one `recv` delivers. -/
lemma receives_wire (k : Key) {hdr : List UInt8} {m : CString} (sockfd : Fd) (hhdr : hdr.length = 46)
    (hm : m.length ≤ 127) : receives (servRecFromCli k sockfd) [wire k m hdr] =
      pure (some (hdr ++ deliveredField k m)) := by
  have hwire := length_wire_le k m hhdr hm
  rw [receives_servRecFromCli, next_singleton ⟨wire k m hdr, hwire⟩, recover_wire k m hhdr hm, map_pure]

lemma delivers_wire_iff {k : Key} {sender : VpnProg Int} {hdr : List UInt8} {m : CString}
    (sockfd : Fd) (hs : (sends sender).Returns [wire k m hdr]) (hhdr : hdr.length = 46)
    (hm : m.length ≤ 127) :
    Delivers k sender sockfd m ↔ ∀ (j : Nat) (h : j < m.bytes.length), m.bytes[j] ≠ k.at (46 + j) := by
  have hrec := receives_wire k sockfd hhdr hm
  have hdrop : (hdr ++ deliveredField k m).drop (getPayload 0) = deliveredField k m :=
    List.drop_left' hhdr
  have hcut := cut_le k 46 m.bytes
  have hnul := zero_mem_deliveredField k m hm
  rw [← cut_eq_length_iff]
  constructor
  · rintro ⟨packet, hpacket, htext⟩
    obtain ⟨sent, hsent, hpacket⟩ := Mem.returns_bind.mp hpacket
    rw [Mem.returns_unique hsent hs, hrec, Mem.returns_pure_iff, Option.some_inj] at hpacket
    rw [← hpacket, cstringAt_eq_pure, hdrop] at htext
    have hlen := congrArg CString.length htext.2
    rw [CString.length, textOf_deliveredField k m hm, List.length_take_of_le hcut] at hlen
    exact hlen
  · intro hwhole
    refine ⟨hdr ++ deliveredField k m, Mem.returns_bind.mpr ⟨_, hs, ?_⟩, ?_⟩
    · rw [hrec]
      exact Mem.returns_pure _
    · rw [cstringAt_eq_pure, hdrop]
      refine ⟨hnul, CString.ext ?_⟩
      rw [textOf_deliveredField k m hm, hwhole, List.take_length]

/-- In both directions a message is delivered exactly when none of its bytes equals its key
byte. -/
theorem delivers_iff (order : ByteOrder) (k : Key) (sockfd sockfd' : Fd) (ipSrc ipDest m : CString)
    (flags : UInt8) (hm : m.length ≤ 127) :
    (Delivers k (sendMessage order k sockfd ipSrc ipDest m flags) sockfd' m ↔
      ∀ (j : Nat) (h : j < m.bytes.length), m.bytes[j] ≠ k.at (46 + j)) ∧
    ∀ packet : Buf, packet.length = pktSize → cstringAt packet (getPayload 0) = pure m →
      (Delivers k (servCliEncryptFree k sockfd packet ipProtocolTcp (UInt8.ofNat m.length)) sockfd' m ↔
        ∀ (j : Nat) (h : j < m.bytes.length), m.bytes[j] ≠ k.at (46 + j)) := by
  constructor
  · have hs := sends_sendMessage order k sockfd ipSrc ipDest m flags hm
    refine delivers_wire_iff sockfd' (by rw [hs]; exact Mem.returns_pure _) ?_ hm
    exact length_header order ipSrc ipDest ipProtocolTcp flags
  · intro packet hlen hpacket
    have hs : sends (servCliEncryptFree k sockfd packet ipProtocolTcp (UInt8.ofNat m.length)) =
        ⟨[.store (46 + m.length : Nat) (46 + m.length)], .value [wire k m (packet.take 46)]⟩ := by
      rw [sends_servCliEncryptFree, encryptedWire_message k hlen hpacket]
      rfl
    exact delivers_wire_iff sockfd' (by rw [hs]; rfl) (length_take_head hlen) hm

theorem delivers_clientPayload :
    Delivers key (sendMessage .little key 3 (.lit "10.0.0.1") (.lit "10.0.0.3") clientPayload
      tcpFlagSyn) 4 clientPayload ∧
    Delivers key (servCliEncryptFree key 3 (plainPacket .little (.lit "10.0.0.1") (.lit "10.0.0.3")
      ipProtocolTcp clientPayload tcpFlagSyn) ipProtocolTcp (UInt8.ofNat clientPayload.length)) 4
      clientPayload := by
  have h := delivers_iff .little key 3 4 (.lit "10.0.0.1") (.lit "10.0.0.3") clientPayload tcpFlagSyn
    (by decide)
  have hkey : ∀ (j : Nat) (h : j < clientPayload.bytes.length),
      clientPayload.bytes[j] ≠ key.at (46 + j) := by
    decide +kernel
  exact ⟨h.1.mpr hkey, (h.2 _ (by decide +kernel) (by decide +kernel)).mpr hkey⟩

/-- The second byte of `exit` is its key byte: only the first byte is delivered. -/
theorem not_delivers_exit :
    ¬ Delivers key (sendMessage .little key 3 (.lit "10.0.0.1") (.lit "10.0.0.3") (.lit "exit")
      tcpFlagSyn) 4 (.lit "exit") := by
  rintro ⟨packet, hpacket, htext⟩
  have hm : (CString.lit "exit").length ≤ 127 := by decide
  have hhdr := length_header .little (.lit "10.0.0.1") (.lit "10.0.0.3") ipProtocolTcp tcpFlagSyn
  rw [tunnel, sends_sendMessage .little key 3 _ _ _ _ hm, pure_bind, receives_wire key 4 hhdr hm,
    Mem.returns_pure_iff, Option.some_inj] at hpacket
  rw [← hpacket, cstringAt_eq_pure, show getPayload 0 = 46 from rfl, List.drop_left' hhdr] at htext
  have hdelivered : CString.textOf (deliveredField key (.lit "exit")) = .lit "e" := by
    apply CString.ext
    rw [textOf_deliveredField key _ hm]
    decide
  rw [hdelivered] at htext
  exact absurd htext.2 (by decide)

end SimpleVpn
