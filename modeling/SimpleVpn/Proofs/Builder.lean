import SimpleVpn.Proofs.Cipher
import SimpleVpn.Proofs.Headers

/-!
# What the builders write

The two builders write the same plaintext: a header of 46 bytes that the payload does not
influence, a prefix of the payload, and zeros up to the size of the packet.
-/

namespace SimpleVpn

open CLang

section Header

variable (order : ByteOrder)

/-- The GRE header that `packet_encapsulate` writes. -/
def freshGre : GreHdr :=
  let gre : GreHdr := ⟨htons order 1, htons order ethertypeIpv4, 0⟩
  { gre with greSum := htons order (cksum order (gre.toBytes order)) }

/-- The header that `set_ip` writes over zeros. -/
def freshIp (ipSrc ipDest : CString) (ipProtocol : UInt8) : IpHdr :=
  setIp order (IpHdr.ofBytes order (calloc sizeofIpHdr)) ipDest ipSrc ipProtocol
    (UInt8.ofNat maxPayloadSize)

/-- The header that `set_tcp` writes over zeros. -/
def freshTcp (flags : UInt8) : TcpHdr :=
  setTcp order (TcpHdr.ofBytes order (calloc sizeofTcpHdr)) flags

/-- The 46 bytes before the payload. -/
def header (ipSrc ipDest : CString) (ipProtocol flags : UInt8) : List UInt8 :=
  (freshGre order).toBytes order ++ (freshIp order ipSrc ipDest ipProtocol).toBytes order ++
    (freshTcp order flags).toBytes order

@[simp] lemma length_header (ipSrc ipDest : CString) (ipProtocol flags : UInt8) :
    (header order ipSrc ipDest ipProtocol flags).length = 46 := by
  simp [header, sizeofGreHdr, sizeofIpHdr, sizeofTcpHdr]

end Header

section Fields

variable (order : ByteOrder)

lemma filledGre_toBytes (sum : UInt16) :
    (⟨htons order 1, htons order ethertypeIpv4, sum⟩ : GreHdr).toBytes order =
      [0, 1, 8, 0] ++ bytes16 order sum := by
  rw [GreHdr.toBytes, bytes16_htons, bytes16_htons]
  rfl

/-- The fields that `set_ip` fills. -/
lemma filledIp_toBytes (len sum : UInt16) (ipProtocol : UInt8) (src dst : UInt32) :
    { IpHdr.ofBytes order (calloc sizeofIpHdr) with
      ipV := ipVersion
      ipLen := htons order len
      ipP := ipProtocol
      ipSrc := src
      ipDst := dst
      ipSum := sum }.toBytes order =
      [0x40, 0, hi16 len, lo16 len, 0, 0, 0, 0, 0, ipProtocol] ++ bytes16 order sum ++
        bytes32 order src ++ bytes32 order dst := by
  have hid : (IpHdr.ofBytes order (calloc sizeofIpHdr)).ipId = read16 order 0 0 := rfl
  have hoff : (IpHdr.ofBytes order (calloc sizeofIpHdr)).ipOff = read16 order 0 0 := rfl
  rw [IpHdr.toBytes, IpHdr.versionByte_eq, hid, hoff, bytes16_htons, bytes16_read16]
  rfl

/-- The fields that `set_tcp` fills. -/
lemma filledTcp_toBytes (flags : UInt8) (sum : UInt16) :
    { TcpHdr.ofBytes order (calloc sizeofTcpHdr) with
      srcPort := htons order port
      dstPort := htons order port
      flags := flags
      tcpSum := sum }.toBytes order =
      [67, 198, 67, 198, 0, 0, 0, 0, 0, 0, 0, 0, 0, flags, 0, 0] ++ bytes16 order sum ++ [0, 0] := by
  let zeros := TcpHdr.ofBytes order (calloc sizeofTcpHdr)
  have hseq : zeros.seqNum = read32 order 0 0 0 0 := rfl
  have hack : zeros.ackNum = read32 order 0 0 0 0 := rfl
  have hw : zeros.window = read16 order 0 0 := rfl
  have hu : zeros.urgentPointer = read16 order 0 0 := rfl
  rw [TcpHdr.toBytes, hseq, hack, hw, hu, bytes16_htons, bytes32_read32, bytes16_read16]
  cases order <;> rfl

lemma freshGre_toBytes : (freshGre order).toBytes order =
    [0, 1, 8, 0] ++ bytes16 order (freshGre order).greSum :=
  filledGre_toBytes order _

lemma freshIp_toBytes (ipSrc ipDest : CString) (ipProtocol : UInt8) :
    (freshIp order ipSrc ipDest ipProtocol).toBytes order =
      [0x40, 0, 0, 148, 0, 0, 0, 0, 0, ipProtocol] ++
        bytes16 order (freshIp order ipSrc ipDest ipProtocol).ipSum ++
        bytes32 order (parseIpAddr ipSrc) ++ bytes32 order (parseIpAddr ipDest) :=
  filledIp_toBytes order 148 _ ipProtocol _ _

lemma freshTcp_toBytes (flags : UInt8) : (freshTcp order flags).toBytes order =
    [67, 198, 67, 198, 0, 0, 0, 0, 0, 0, 0, 0, 0, flags, 0, 0] ++
      bytes16 order (freshTcp order flags).tcpSum ++ [0, 0] :=
  filledTcp_toBytes order flags _

end Fields

/-- The header with its three checksums and two addresses left symbolic. -/
lemma header_eq (order : ByteOrder) (ipSrc ipDest : CString) (ipProtocol flags : UInt8) :
    header order ipSrc ipDest ipProtocol flags =
      [0, 1, 8, 0] ++ bytes16 order (freshGre order).greSum ++
        [0x40, 0, 0, 148, 0, 0, 0, 0, 0, ipProtocol] ++
        bytes16 order (freshIp order ipSrc ipDest ipProtocol).ipSum ++
        bytes32 order (parseIpAddr ipSrc) ++ bytes32 order (parseIpAddr ipDest) ++
        [67, 198, 67, 198, 0, 0, 0, 0, 0, 0, 0, 0, 0, flags, 0, 0] ++
        bytes16 order (freshTcp order flags).tcpSum ++ [0, 0] := by
  rw [header, freshGre_toBytes, freshIp_toBytes, freshTcp_toBytes]
  simp only [List.append_assoc]

/-- The size of the payload field together with the unused bytes of a packet that is not TCP. -/
def fieldSize (ipProtocol : UInt8) : Nat := if ipProtocol = ipProtocolTcp then 128 else 209

lemma getPacketSize_max (ipProtocol : UInt8) :
    (getPacketSize ipProtocol (UInt8.ofNat maxPayloadSize)).toNat = 46 + fieldSize ipProtocol := by
  unfold getPacketSize fieldSize
  split <;> rfl

/-- The number of payload bytes that the builders keep of a payload of `n` bytes. -/
def keptLength (n : Nat) : Nat := min (n % 4294967296) 127

def plainPacket (order : ByteOrder) (ipSrc ipDest : CString) (ipProtocol : UInt8)
    (payload : CString) (flags : UInt8) : Buf :=
  header order ipSrc ipDest ipProtocol flags ++ payload.bytes.take (keptLength payload.length) ++
    calloc (fieldSize ipProtocol - keptLength payload.length)

section Parts

variable (order : ByteOrder) (c : List UInt8)

/-- Every field of the header is overwritten. -/
lemma packetEncapsulate_append {b : List UInt8} (hb : b.length = sizeofGreHdr) :
    packetEncapsulate order (b ++ c) = pure ((freshGre order).toBytes order ++ c) := by
  have hload := loadGreHdr_append order (a := []) c (i := getGreHdr 0) rfl hb
  have hstore := storeGreHdr_append order (a := []) c (i := getGreHdr 0) (freshGre order) rfl hb
  rw [List.nil_append] at hload hstore
  rw [packetEncapsulate, hload, pure_bind]
  exact hstore

end Parts

variable (order : ByteOrder) (ipSrc ipDest : CString) (ipProtocol : UInt8) (payload : CString)
  (flags : UInt8)

lemma newPacket_headers :
    newPacket order ipSrc ipDest ipProtocol payload flags = do
      let packet ← strncpy (header order ipSrc ipDest ipProtocol flags ++ calloc (fieldSize ipProtocol))
        46 payload (toSize (toInt payload.length))
      let payloadLength := if toInt payload.length > 127 then (127 : Int) else toInt payload.length
      let packet ← store packet (46 + payloadLength) 0
      return (packet, payloadLength) := by
  let gre := (freshGre order).toBytes order
  let ip := (freshIp order ipSrc ipDest ipProtocol).toBytes order
  let tcp := (freshTcp order flags).toBytes order
  let field := calloc (fieldSize ipProtocol)
  have hsize : calloc (46 + fieldSize ipProtocol) =
      calloc sizeofGreHdr ++ (calloc sizeofIpHdr ++ (calloc sizeofTcpHdr ++ field)) := by
    simp only [field, ← calloc_add, sizeofGreHdr, sizeofIpHdr, sizeofTcpHdr]
    congr 1
    omega
  have hgre : packetEncapsulate order (calloc (46 + fieldSize ipProtocol)) =
      pure (gre ++ calloc sizeofIpHdr ++ (calloc sizeofTcpHdr ++ field)) := by
    rw [hsize, packetEncapsulate_append _ _ (length_calloc _), List.append_assoc]
  have hlip : getIpHdr 0 = gre.length := by simp [gre, getIpHdr]
  have hltcp : getTcpHdr 0 = (gre ++ ip).length := by simp [gre, ip, getTcpHdr]
  have hip : storeIpHdr order (gre ++ calloc sizeofIpHdr ++ (calloc sizeofTcpHdr ++ field))
      (getIpHdr 0) (freshIp order ipSrc ipDest ipProtocol) =
      pure (gre ++ ip ++ calloc sizeofTcpHdr ++ field) := by
    rw [storeIpHdr_append order _ _ hlip (length_calloc _), ← List.append_assoc]
  unfold newPacket
  simp only [getPacketSize_max]
  rw [hgre, pure_bind, loadIpHdr_append order _ hlip (length_calloc _), pure_bind]
  change (storeIpHdr order _ _ (freshIp order ipSrc ipDest ipProtocol) >>= _) = _
  rw [hip, pure_bind, loadTcpHdr_append order _ hltcp (length_calloc _), pure_bind,
    storeTcpHdr_append order _ _ hltcp (length_calloc _), pure_bind]
  rfl

/-- The builders clamp the length as an `int`, which below `2 ^ 31` is the length itself. -/
lemma clamp_length {n : Nat} (h : n % 4294967296 < 2147483648) :
    (if toInt n > 127 then (127 : Int) else toInt n) = (keptLength n : Nat) := by
  rw [toInt_of_mod_lt h, keptLength]
  split <;> omega

lemma payload_index (l : Nat) : (46 : Int) + (l : Nat) = ((46 + l : Nat) : Int) :=
  (Nat.cast_add 46 l).symm

lemma le_fieldSize : 128 ≤ fieldSize ipProtocol := by
  unfold fieldSize
  split <;> omega

lemma set_terminator (hdr : List UInt8) {c size : Nat} (hhdr : hdr.length = 46) (hc : c ≤ 128)
    (hsize : 128 ≤ size) (hlen : c ≤ payload.length) :
    (hdr ++ payload.bytes.take c ++ calloc (size - c)).set (46 + min c 127) 0 =
      hdr ++ payload.bytes.take (min c 127) ++ calloc (size - min c 127) := by
  have hlen' : c ≤ payload.bytes.length := hlen
  by_cases h : c ≤ 127
  · have hl : (hdr ++ payload.bytes.take c).length = 46 + c := by
      rw [List.length_append, hhdr, List.length_take_of_le hlen']
    have hpos : size - c = (size - c - 1) + 1 := by omega
    rw [Nat.min_eq_left h, List.set_append_right _ _ (by omega), hl, Nat.sub_self, hpos]
    rfl
  · obtain rfl : c = 128 := by omega
    have hl : (hdr ++ payload.bytes.take 127).length = 173 := by
      rw [List.length_append, hhdr, List.length_take_of_le (by omega)]
    have htake : payload.bytes.take 128 = payload.bytes.take 127 ++ [payload.bytes[127]] :=
      List.take_succ_eq_append_getElem (by omega)
    have hsize' : calloc (size - 127) = 0 :: calloc (size - 128) := by
      rw [show size - 127 = (size - 128) + 1 by omega]
      exact List.replicate_succ
    rw [htake, ← List.append_assoc, List.append_assoc, Nat.min_eq_right (by omega),
      List.set_append_right _ _ (by omega), hl, hsize', show 46 + 127 - 173 = 0 from rfl,
      List.singleton_append, List.set_cons_zero]

/-- A payload whose length fits builds the plaintext packet, with every access in bounds. -/
theorem newPacket_eq (h : payload.length % 4294967296 ≤ 128) :
    newPacket order ipSrc ipDest ipProtocol payload flags =
      pure (plainPacket order ipSrc ipDest ipProtocol payload flags,
        (keptLength payload.length : Int)) := by
  let hdr := header order ipSrc ipDest ipProtocol flags
  let size := fieldSize ipProtocol
  let c := payload.length % 4294967296
  have hsize : 128 ≤ size := le_fieldSize ipProtocol
  have hlen : c ≤ payload.length := Nat.mod_le _ _
  have hhdr : hdr.length = 46 := length_header order ipSrc ipDest ipProtocol flags
  have hbytes : strncpyBytes payload c = payload.bytes.take c := by
    simp [strncpyBytes, Nat.sub_eq_zero_of_le hlen]
  have hcopy : strncpy (hdr ++ calloc size) 46 payload c =
      pure (hdr ++ payload.bytes.take c ++ calloc (size - c)) := by
    have hsplit : calloc size = calloc c ++ calloc (size - c) := by
      rw [← calloc_add]
      congr 1
      omega
    rw [strncpy, hsplit, ← List.append_assoc, ← hhdr, storeRange_append _ _ (by simp), hbytes]
  have hin : 46 + min c 127 < (hdr ++ payload.bytes.take c ++ calloc (size - c)).length := by
    have := List.length_take_of_le (show c ≤ payload.bytes.length from hlen)
    simp only [List.length_append, length_calloc]
    omega
  rw [newPacket_headers, toSize_toInt_of_lt (by omega)]
  change (strncpy (hdr ++ calloc size) 46 payload c >>= _) = _
  rw [hcopy, pure_bind, clamp_length (by omega)]
  dsimp only
  change (store _ (46 + (min c 127 : Nat)) 0 >>= _) = _
  rw [payload_index, store_of_lt hin, pure_bind, set_terminator payload hdr hhdr h hsize hlen]
  rfl

/-- A longer payload is copied past the end of a TCP packet. -/
theorem not_safe_newPacket (h : 128 < payload.length % 4294967296) :
    ¬ (newPacket order ipSrc ipDest ipProtocolTcp payload flags).Safe := by
  have hlong : 128 < toSize (toInt payload.length) := by
    by_cases hneg : payload.length % 4294967296 < 2147483648
    · rw [toSize_toInt_of_lt hneg]
      exact h
    · have := le_toSize_toInt (n := payload.length) (by omega)
      omega
  rw [newPacket_headers, Mem.safe_bind]
  rintro ⟨p, hp, -⟩
  have hdst : (header order ipSrc ipDest ipProtocolTcp flags ++ calloc (fieldSize ipProtocolTcp)).length =
      174 := by
    rw [List.length_append, length_header, length_calloc]
    rfl
  have hfit := (strncpy_eq_pure (by omega) hp).1
  omega

lemma length_take_kept : (payload.bytes.take (keptLength payload.length)).length =
    keptLength payload.length := by
  have hle : keptLength payload.length ≤ payload.bytes.length :=
    (Nat.min_le_left _ _).trans (Nat.mod_le _ _)
  rw [List.length_take_of_le hle]

lemma length_plainPacket : (plainPacket order ipSrc ipDest ipProtocol payload flags).length =
    46 + fieldSize ipProtocol := by
  have := le_fieldSize ipProtocol
  have hkept : keptLength payload.length ≤ 127 := Nat.min_le_right _ _
  simp only [plainPacket, List.length_append, length_header, length_take_kept, length_calloc]
  omega

lemma getElem?_plainPacket_terminator (h : payload.length ≤ 128) :
    (plainPacket order ipSrc ipDest ipProtocol payload flags)[46 + min payload.length 127]? =
      some 0 := by
  have hkept : keptLength payload.length = min payload.length 127 := by
    rw [keptLength, Nat.mod_eq_of_lt (by omega)]
  have hsize := le_fieldSize ipProtocol
  have hhead : (header order ipSrc ipDest ipProtocol flags ++
      payload.bytes.take (keptLength payload.length)).length = 46 + min payload.length 127 := by
    rw [List.length_append, length_header, length_take_kept, hkept]
  rw [plainPacket, List.getElem?_append_right hhead.le, hhead, Nat.sub_self, calloc,
    List.getElem?_replicate, if_pos (by omega)]

theorem createPacketsDes_eq (h : payload.length % 4294967296 ≤ 128) :
    createPacketsDes order ipSrc ipDest ipProtocol payload flags =
      pure (plainPacket order ipSrc ipDest ipProtocol payload flags) := by
  rw [createPacketsDes, newPacket_eq order ipSrc ipDest ipProtocol payload flags h, pure_bind]

/-- The encrypting builder returns the ciphertext with one byte overwritten by a NUL. -/
theorem createPackets_eq (k : Key) (h : payload.length % 4294967296 ≤ 128) :
    createPackets order k ipSrc ipDest ipProtocol payload flags =
      pure ((xorFrom k 0 (plainPacket order ipSrc ipDest ipProtocol payload flags)).set
        (46 + keptLength payload.length) 0) := by
  have hsize := le_fieldSize ipProtocol
  have hkept : keptLength payload.length ≤ 127 := Nat.min_le_right _ _
  have hlen := length_plainPacket order ipSrc ipDest ipProtocol payload flags
  have hindex : ((getPayload 0 : Nat) : Int) + (keptLength payload.length : Nat) =
      ((46 + keptLength payload.length : Nat) : Int) := rfl
  rw [createPackets, newPacket_eq order ipSrc ipDest ipProtocol payload flags h, pure_bind]
  simp only [getPacketSize_max]
  rw [xorEncryptDecrypt_eq k _ _ (by rw [hlen]), pure_bind, List.take_of_length_le (by rw [hlen]),
    hindex, store_of_lt (by rw [length_xorFrom, hlen]; omega)]

/-- The decrypted packet of `create_packets` is the packet of `create_packets_des` except for the byte
at the terminator, which is NUL in both packets before the decryption. -/
theorem builders_agree (k : Key) (h : payload.length ≤ 128) :
    ∃ encrypted decrypted plain,
      createPackets order k ipSrc ipDest ipProtocol payload flags = pure encrypted ∧
      createPacketsDes order ipSrc ipDest ipProtocol payload flags = pure plain ∧
      xorEncryptDecrypt k encrypted (calloc encrypted.length) encrypted.length = pure decrypted ∧
      encrypted.length = plain.length ∧
      (∀ i, i ≠ 46 + min payload.length 127 → decrypted[i]? = plain[i]?) ∧
      encrypted[46 + min payload.length 127]? = some 0 ∧
      plain[46 + min payload.length 127]? = some 0 := by
  let plain := plainPacket order ipSrc ipDest ipProtocol payload flags
  have hmod : payload.length % 4294967296 ≤ 128 := (Nat.mod_le _ _).trans h
  have hkept : keptLength payload.length = min payload.length 127 := by
    rw [keptLength, Nat.mod_eq_of_lt (by omega)]
  have hlen : plain.length = 46 + fieldSize ipProtocol :=
    length_plainPacket order ipSrc ipDest ipProtocol payload flags
  have hsize := le_fieldSize ipProtocol
  let encrypted := (xorFrom k 0 plain).set (46 + min payload.length 127) 0
  have hlenE : encrypted.length = plain.length := by rw [List.length_set, length_xorFrom]
  refine ⟨encrypted, xorFrom k 0 encrypted, plain, ?_, ?_, ?_, hlenE, ?_, ?_, ?_⟩
  · rw [createPackets_eq order ipSrc ipDest ipProtocol payload flags k hmod, hkept]
  · exact createPacketsDes_eq order ipSrc ipDest ipProtocol payload flags hmod
  · rw [xorEncryptDecrypt_eq k _ _ (Nat.le_refl _), List.take_length]
  · intro i hi
    have hplain := congrArg (·[i]?) (xorFrom_xorFrom k 0 plain)
    rw [getElem?_xorFrom, List.getElem?_set_ne (Ne.symm hi), ← getElem?_xorFrom]
    exact hplain
  · rw [List.getElem?_set_self (by rw [length_xorFrom]; omega)]
  · exact getElem?_plainPacket_terminator order ipSrc ipDest ipProtocol payload flags h

theorem builders_agree_icmp :
    ∃ encrypted decrypted plain,
      createPackets .little key (.lit "10.0.0.1") (.lit "10.0.0.3") 1 (.lit "ping") tcpFlagSyn =
        pure encrypted ∧
      createPacketsDes .little (.lit "10.0.0.1") (.lit "10.0.0.3") 1 (.lit "ping") tcpFlagSyn =
        pure plain ∧
      xorEncryptDecrypt key encrypted (calloc encrypted.length) encrypted.length = pure decrypted ∧
      encrypted.length = plain.length ∧
      (∀ i, i ≠ 46 + min (CString.lit "ping").length 127 → decrypted[i]? = plain[i]?) ∧
      encrypted[46 + min (CString.lit "ping").length 127]? = some 0 ∧
      plain[46 + min (CString.lit "ping").length 127]? = some 0 :=
  builders_agree .little (.lit "10.0.0.1") (.lit "10.0.0.3") 1 (.lit "ping") tcpFlagSyn key (by decide)

/-- Whatever the payload, a packet that is built without leaving its buffer begins with the
headers. -/
lemma newPacket_head {p : Buf} {n : Int}
    (h : newPacket order ipSrc ipDest ipProtocol payload flags = pure (p, n)) :
    p.length = 46 + fieldSize ipProtocol ∧
      p.take 46 = header order ipSrc ipDest ipProtocol flags ∧ ∃ l : Nat, n = l ∧ l ≤ 127 := by
  let hdr := header order ipSrc ipDest ipProtocol flags
  have hhdr : hdr.length = 46 := length_header order ipSrc ipDest ipProtocol flags
  have hlen : (hdr ++ calloc (fieldSize ipProtocol)).length = 46 + fieldSize ipProtocol := by
    rw [List.length_append, hhdr, length_calloc]
  rw [newPacket_headers] at h
  obtain ⟨b, hb, h⟩ := Mem.bind_eq_pure.mp h
  obtain ⟨b', hb', h⟩ := Mem.bind_eq_pure.mp h
  obtain ⟨rfl, rfl⟩ := Prod.mk.inj ((Mem.pure_inj _ _).mp h)
  have hsize : fieldSize ipProtocol ≤ 209 := by
    unfold fieldSize
    split <;> omega
  have hle := le_fieldSize ipProtocol
  change strncpy (hdr ++ calloc (fieldSize ipProtocol)) 46 payload _ = pure b at hb
  obtain ⟨hfit, hcopy⟩ := strncpy_eq_pure (by omega) hb
  -- the copy fits, so the length is not negative as an `int`
  have hmod : payload.length % 4294967296 < 2147483648 := by
    by_contra hneg
    have := le_toSize_toInt (n := payload.length) (by omega)
    omega
  have hblen : b.length = 46 + fieldSize ipProtocol := by
    rw [hcopy, length_overwrite (by rw [length_strncpyBytes]; exact hfit), hlen]
  have hbhead : b.take 46 = hdr := by
    rw [hcopy, overwrite, List.append_assoc, List.take_left' hhdr, List.take_left' hhdr]
  have hkept : keptLength payload.length ≤ 127 := Nat.min_le_right _ _
  rw [clamp_length hmod, payload_index, store_of_lt (by omega), Mem.pure_inj] at hb'
  refine ⟨?_, ?_, _, clamp_length hmod, hkept⟩
  · rw [← hb', List.length_set, hblen]
  · rw [← hb', List.take_set_of_le (Nat.le_add_right _ _), hbhead]

section Messages

/-- The packet with fresh headers and the given payload field. -/
def messagePacket (field : List UInt8) (h : field.length = 128) : Packet where
  gre := (freshGre order).toBytes order
  ip := (freshIp order ipSrc ipDest ipProtocolTcp).toBytes order
  tcp := (freshTcp order flags).toBytes order
  field := field
  length_gre := GreHdr.length_toBytes ..
  length_ip := IpHdr.length_toBytes ..
  length_tcp := TcpHdr.length_toBytes ..
  length_field := h

lemma bytes_messagePacket (field : List UInt8) (h : field.length = 128) :
    (messagePacket order ipSrc ipDest flags field h).bytes =
      header order ipSrc ipDest ipProtocolTcp flags ++ field := by
  rw [header, List.append_assoc, List.append_assoc]
  rfl

lemma ipHdr_messagePacket (field : List UInt8) (h : field.length = 128) :
    (messagePacket order ipSrc ipDest flags field h).ipHdr order =
      freshIp order ipSrc ipDest ipProtocolTcp :=
  IpHdr.ofBytes_toBytes order _

/-- The payload field that holds a message of at most 127 bytes. -/
def messageField : List UInt8 := payload.bytes ++ calloc (128 - payload.length)

variable (hm : payload.length ≤ 127)
include hm

lemma length_messageField : (messageField payload).length = 128 := by
  have hlen : payload.bytes.length ≤ 127 := hm
  rw [messageField, List.length_append, length_calloc, CString.length]
  omega

lemma plainPacket_message : plainPacket order ipSrc ipDest ipProtocolTcp payload flags =
    (messagePacket order ipSrc ipDest flags (messageField payload)
      (length_messageField payload hm)).bytes := by
  have hkept : keptLength payload.length = payload.length := by
    unfold keptLength
    omega
  rw [bytes_messagePacket, plainPacket, hkept, List.take_of_length_le (Nat.le_refl payload.length),
    List.append_assoc]
  rfl

lemma textOf_messageField : CString.textOf (messageField payload) = payload := by
  have hpad : calloc (128 - payload.length) =
      0 :: calloc (128 - payload.length - 1) := by
    rw [show 128 - payload.length = (128 - payload.length - 1) + 1 by omega]
    exact List.replicate_succ
  rw [messageField, hpad, CString.textOf_append]

lemma zero_mem_messageField : 0 ∈ messageField payload := by
  refine List.mem_append_right _ (List.mem_replicate.mpr ⟨?_, rfl⟩)
  omega

end Messages

theorem not_safe_createPacketsDes (h : 128 < payload.length % 4294967296) :
    ¬ (createPacketsDes order ipSrc ipDest ipProtocolTcp payload flags).Safe := by
  rw [createPacketsDes, Mem.safe_bind]
  rintro ⟨p, hp, -⟩
  exact not_safe_newPacket order ipSrc ipDest payload flags h (Mem.safe_iff.mpr ⟨p, hp⟩)

/-- Both builders stay inside their buffers, and the plaintext holds a header that the
payload does not influence, the first 127 bytes of the payload and zeros. -/
def BuildersTruncate (k : Key) : Prop :=
  (∃ p, createPacketsDes order ipSrc ipDest ipProtocolTcp payload flags = pure p ∧
    p.length = 174 ∧ p.take 46 = header order ipSrc ipDest ipProtocolTcp flags ∧
    p.drop 46 = payload.bytes.take 127 ++ List.replicate (128 - min payload.length 127) 0) ∧
  (createPackets order k ipSrc ipDest ipProtocolTcp payload flags).Safe

/-- A field that holds `a` bytes of the payload and zeros shows how many it holds. -/
lemma payload_field_inj {a b : Nat} (ha : a ≤ payload.length) (hb : b ≤ payload.length)
    (h : payload.bytes.take a ++ calloc (128 - a) = payload.bytes.take b ++ calloc (128 - b))
    (ha' : a ≤ 127) (hb' : b ≤ 127) : a = b := by
  have key {x y : Nat} (hy : y ≤ payload.length) (hy' : y ≤ 127)
      (hxy : payload.bytes.take x ++ calloc (128 - x) =
        payload.bytes.take y ++ calloc (128 - y)) (hx : x ≤ payload.length) : ¬ x < y := by
    intro hlt
    have hylen : x < payload.bytes.length := Nat.lt_of_lt_of_le hlt hy
    have hx0 : (payload.bytes.take x ++ calloc (128 - x))[x]? = some 0 := by
      rw [List.getElem?_append_right (List.length_take_le _ _),
        List.length_take_of_le (show x ≤ payload.bytes.length from hx), Nat.sub_self]
      simp only [calloc, List.getElem?_replicate]
      rw [if_pos (by omega)]
    have hy0 : (payload.bytes.take y ++ calloc (128 - y))[x]? = some payload.bytes[x] := by
      rw [List.getElem?_append_left (by rw [List.length_take]; omega), List.getElem?_take,
        if_pos hlt, List.getElem?_eq_getElem hylen]
    rw [hxy, hy0] at hx0
    exact payload.nonzero _ (List.getElem_mem hylen) (Option.some.inj hx0)
  rcases Nat.lt_trichotomy a b with hlt | heq | hgt
  · exact absurd hlt (key hb hb' h ha)
  · exact heq
  · exact absurd hgt (key ha ha' h.symm hb)

/-- The builders truncate as intended exactly on payloads of at most 128 bytes, and on the
huge payloads whose length modulo `2 ^ 32` is 127 or 128. -/
theorem buildersTruncate_iff (k : Key) :
    BuildersTruncate order ipSrc ipDest payload flags k ↔
      payload.length ≤ 128 ∨ payload.length % 4294967296 = 127 ∨
        payload.length % 4294967296 = 128 := by
  by_cases h : payload.length % 4294967296 ≤ 128
  · have hkept : keptLength payload.length ≤ payload.length :=
      (Nat.min_le_left _ _).trans (Nat.mod_le _ _)
    have htake : payload.bytes.take 127 = payload.bytes.take (min payload.length 127) := by
      rw [Nat.min_comm, ← List.take_take, List.take_of_length_le (Nat.le_refl payload.length)]
    have hhdr := length_header order ipSrc ipDest ipProtocolTcp flags
    have hfield : (plainPacket order ipSrc ipDest ipProtocolTcp payload flags).drop 46 =
        payload.bytes.take (keptLength payload.length) ++ calloc (128 - keptLength payload.length) := by
      rw [plainPacket, List.append_assoc, List.drop_left' hhdr]
      rfl
    have hhead : (plainPacket order ipSrc ipDest ipProtocolTcp payload flags).take 46 =
        header order ipSrc ipDest ipProtocolTcp flags := by
      rw [plainPacket, List.append_assoc, List.take_left' hhdr]
    have hiff : BuildersTruncate order ipSrc ipDest payload flags k ↔
        keptLength payload.length = min payload.length 127 := by
      unfold BuildersTruncate
      rw [createPacketsDes_eq order ipSrc ipDest ipProtocolTcp payload flags h,
        createPackets_eq order ipSrc ipDest ipProtocolTcp payload flags k h]
      constructor
      · rintro ⟨⟨p, hp, -, -, hdrop⟩, -⟩
        rw [Mem.pure_inj] at hp
        rw [← hp, hfield, htake] at hdrop
        exact payload_field_inj payload hkept (Nat.min_le_left _ _) hdrop
          (Nat.min_le_right _ _) (Nat.min_le_right _ _)
      · intro hk
        refine ⟨⟨_, rfl, length_plainPacket order ipSrc ipDest ipProtocolTcp payload flags, hhead, ?_⟩,
          Mem.safe_pure _⟩
        rw [hfield, htake, hk]
        rfl
    rw [hiff, keptLength]
    omega
  · have hunsafe := not_safe_createPacketsDes order ipSrc ipDest payload flags (by omega)
    constructor
    · rintro ⟨⟨p, hp, -⟩, -⟩
      exact absurd (Mem.safe_iff.mpr ⟨p, hp⟩) hunsafe
    · intro hlen
      have := Nat.mod_le payload.length 4294967296
      omega

def overlongPayload : CString := ⟨List.replicate 129 65, fun c hc => by
  rw [(List.mem_replicate.mp hc).2]
  decide⟩

/-- The copy of 129 bytes writes the byte after the packet. -/
theorem not_buildersTruncate_overlong :
    (createPacketsDes .little (.lit "10.0.0.1") (.lit "10.0.0.3") ipProtocolTcp overlongPayload
      tcpFlagSyn).stray = [.store 174 174] ∧
    ¬ BuildersTruncate .little (.lit "10.0.0.1") (.lit "10.0.0.3") overlongPayload tcpFlagSyn key := by
  have h : (createPacketsDes .little (.lit "10.0.0.1") (.lit "10.0.0.3") ipProtocolTcp
      overlongPayload tcpFlagSyn).stray = [.store 174 174] := by
    decide +kernel
  refine ⟨h, ?_⟩
  rintro ⟨⟨p, hp, -⟩, -⟩
  rw [hp, Mem.stray_pure] at h
  cases h

end SimpleVpn
