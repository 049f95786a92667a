import SimpleVpn.Proofs.Builder
import SimpleVpn.Proofs.Checksum

/-!
# Rewritten and fresh headers

`serv_handle_pkt` and `serv_handle_pkt_dest` checksum the header with its length and addresses
in the other byte order, and `set_ip` checksums it as it is stored. The two checksums agree on a
big-endian host, and on a little-endian host only modulo 257.
-/

namespace SimpleVpn

open CLang

/-- A plaintext packet that one of the builders made: the result of `create_packets_des`, or the
decryption of the result of `create_packets`. -/
def BuiltPlaintext (order : ByteOrder) (k : Key) (ipSrc ipDest : CString) (ipProtocol : UInt8)
    (payload : CString) (flags : UInt8) (packet : Buf) : Prop :=
  createPacketsDes order ipSrc ipDest ipProtocol payload flags = pure packet ∨
    ∃ encryptPacket,
      createPackets order k ipSrc ipDest ipProtocol payload flags = pure encryptPacket ∧
      xorEncryptDecrypt k encryptPacket (calloc encryptPacket.length) encryptPacket.length =
        pure packet

lemma BuiltPlaintext.take_header {order : ByteOrder} {k : Key} {ipSrc ipDest payload : CString}
    {ipProtocol flags : UInt8} {packet : Buf}
    (h : BuiltPlaintext order k ipSrc ipDest ipProtocol payload flags packet) :
    packet.take 46 = header order ipSrc ipDest ipProtocol flags := by
  rcases h with h | ⟨c, hc, hdecrypt⟩
  · rw [createPacketsDes] at h
    obtain ⟨⟨p, n⟩, hp, h⟩ := Mem.bind_eq_pure.mp h
    rw [Mem.pure_inj] at h
    subst h
    exact (newPacket_head order ipSrc ipDest ipProtocol payload flags hp).2.1
  · rw [createPackets] at hc
    obtain ⟨⟨p, n⟩, hp, hc⟩ := Mem.bind_eq_pure.mp hc
    obtain ⟨hlen, hhead, l, rfl, hl⟩ := newPacket_head order ipSrc ipDest ipProtocol payload flags hp
    have hfield := le_fieldSize ipProtocol
    have hindex : ((getPayload 0 : Nat) : Int) + (l : Nat) = ((46 + l : Nat) : Int) := rfl
    simp only [getPacketSize_max] at hc
    rw [xorEncryptDecrypt_eq k p _ hlen.ge, pure_bind, List.take_of_length_le hlen.le, hindex,
      store_of_lt (by rw [length_xorFrom, hlen]; omega), Mem.pure_inj] at hc
    rw [xorEncryptDecrypt_eq k c _ (Nat.le_refl _), List.take_length, Mem.pure_inj] at hdecrypt
    rw [← hdecrypt, ← xorFrom_take, ← hc, List.take_set_of_le (Nat.le_add_right _ _), ← xorFrom_take,
      xorFrom_xorFrom, hhead]

section Checksums

variable (order : ByteOrder) (src dst : UInt32) (ipProtocol : UInt8)

/-- The header that `set_ip` checksums. -/
def unsummedIp : IpHdr :=
  { IpHdr.ofBytes order (calloc sizeofIpHdr) with
    ipV := ipVersion
    ipLen := htons order 148
    ipP := ipProtocol
    ipSrc := src
    ipDst := dst
    ipSum := 0 }

lemma bytes16_zero : bytes16 order 0 = [0, 0] := by
  cases order <;> rfl

/-- The bytes of a header that `set_ip` has filled with a length, before its checksum. -/
lemma filledIp_toBytes_zero (len : UInt16) :
    { unsummedIp order src dst ipProtocol with ipLen := htons order len }.toBytes order =
      [0x40, 0, hi16 len, lo16 len, 0, 0, 0, 0, 0, ipProtocol, 0, 0] ++ bytes32 order src ++
        bytes32 order dst := by
  have h := filledIp_toBytes order len 0 ipProtocol src dst
  rw [bytes16_zero] at h
  exact h

/-- A little-endian host checksums the swapped header with its length and addresses reversed. -/
lemma swapped_toBytes_little :
    (swapped .little (unsummedIp .little src dst ipProtocol)).toBytes .little =
      [0x40, 0, 148, 0, 0, 0, 0, 0, 0, ipProtocol, 0, 0] ++
        [octet src 3, octet src 2, octet src 1, octet src 0] ++
        [octet dst 3, octet dst 2, octet dst 1, octet dst 0] := by
  let h := swapped .little (unsummedIp .little src dst ipProtocol)
  have hl : h.ipLen = htons .little (htons .little 148) := rfl
  have hid : h.ipId = read16 .little 0 0 := rfl
  have hoff : h.ipOff = read16 .little 0 0 := rfl
  have hsum : h.ipSum = 0 := rfl
  have hsrc : h.ipSrc = htonl .little src := rfl
  have hdst : h.ipDst = htonl .little dst := rfl
  change h.toBytes .little = _
  rw [IpHdr.toBytes, IpHdr.versionByte_eq, hl, hid, hoff, hsum, hsrc, hdst, htons_htons,
    bytes16_read16, bytes16_zero, bytes32_htonl, bytes32_htonl]
  rfl

lemma swapped_big : swapped .big (unsummedIp .big src dst ipProtocol) =
    unsummedIp .big src dst ipProtocol := rfl

/-- The octets of an address with alternating signs. -/
def alternating (v : UInt32) : Int :=
  ((octet v 3).toNat : Int) - (octet v 2).toNat + (octet v 1).toNat - (octet v 0).toNat

/-- The sum of the octets of an address with weights 256 and 1, starting from the first one. -/
def weighted (v : UInt32) : Nat :=
  256 * (octet v 3).toNat + (octet v 2).toNat + 256 * (octet v 1).toNat + (octet v 0).toNat

/-- The same with the octets in the opposite order. -/
def weightedReversed (v : UInt32) : Nat :=
  256 * (octet v 0).toNat + (octet v 1).toNat + 256 * (octet v 2).toNat + (octet v 3).toNat

lemma weighted_sub (v : UInt32) :
    (weighted v : Int) - weightedReversed v = 255 * alternating v := by
  unfold weighted weightedReversed alternating
  omega

lemma wordSum_swapped_little :
    wordSum ((swapped .little (unsummedIp .little src dst ipProtocol)).toBytes .little) =
      54272 + ipProtocol.toNat + weighted src + weighted dst := by
  rw [swapped_toBytes_little]
  simp only [List.cons_append, List.nil_append, wordSum, weighted]
  simp
  omega

lemma wordSum_filledIp_little (len : UInt16) :
    wordSum ({ unsummedIp .little src dst ipProtocol with ipLen := htons .little len }.toBytes .little) =
      16384 + len.toNat + ipProtocol.toNat + weightedReversed src + weightedReversed dst := by
  have hlen := len.toNat_lt
  rw [filledIp_toBytes_zero, bytes32, bytes32]
  simp only [List.cons_append, List.nil_append, wordSum, weightedReversed, toNat_hi16, toNat_lo16]
  simp
  omega

/-- On a little-endian host the two word sums differ by 255 times the length and the alternating
octets, so they agree modulo 65535 exactly when these agree modulo 257. -/
lemma cksum_swapped_little_iff :
    cksum .little ((swapped .little (unsummedIp .little src dst ipProtocol)).toBytes .little) =
        cksum .little ((unsummedIp .little src dst ipProtocol).toBytes .little) ↔
      257 ∣ 148 + alternating src + alternating dst := by
  have hlen := IpHdr.length_toBytes_le .little
  have hsrc := weighted_sub src
  have hdst := weighted_sub dst
  have hunsummed := wordSum_filledIp_little src dst ipProtocol 148
  change wordSum ((unsummedIp .little src dst ipProtocol).toBytes .little) = 16384 + 148 + _ + _ + _
    at hunsummed
  rw [cksum_inj .little (hlen _) (hlen _), wordSum_swapped_little, hunsummed]
  omega

theorem cksum_swapped_iff :
    cksum order ((swapped order (unsummedIp order src dst ipProtocol)).toBytes order) =
        cksum order ((unsummedIp order src dst ipProtocol).toBytes order) ↔
      order = .big ∨ 257 ∣ 148 + alternating src + alternating dst := by
  cases order with
  | little =>
    rw [cksum_swapped_little_iff]
    constructor
    · exact .inr
    · rintro (h | h)
      · cases h
      · exact h
  | big =>
    rw [swapped_big]
    exact ⟨fun _ => .inl rfl, fun _ => rfl⟩

end Checksums

section Rewriting

variable (order : ByteOrder) (ipProtocol : UInt8)

lemma resum_withSrc (ipSrc ipDest serverIp : CString) :
    resum order { freshIp order ipSrc ipDest ipProtocol with ipSrc := parseIpAddr serverIp } =
      { unsummedIp order (parseIpAddr serverIp) (parseIpAddr ipDest) ipProtocol with
        ipSum := htons order (cksum order ((swapped order
          (unsummedIp order (parseIpAddr serverIp) (parseIpAddr ipDest) ipProtocol)).toBytes
            order)) } :=
  rfl

lemma resum_withDst (ipSrc ipDest clientIp : CString) :
    resum order { freshIp order ipSrc ipDest ipProtocol with ipDst := parseIpAddr clientIp } =
      { unsummedIp order (parseIpAddr ipSrc) (parseIpAddr clientIp) ipProtocol with
        ipSum := htons order (cksum order ((swapped order
          (unsummedIp order (parseIpAddr ipSrc) (parseIpAddr clientIp) ipProtocol)).toBytes
            order)) } :=
  rfl

lemma toBytes_withSum_iff (h : IpHdr) (x y : UInt16) :
    ({ h with ipSum := htons order x }.toBytes order =
      { h with ipSum := htons order y }.toBytes order) ↔ x = y := by
  constructor
  · intro heq
    have hhdr := congrArg (IpHdr.ofBytes order) heq
    rw [IpHdr.ofBytes_toBytes, IpHdr.ofBytes_toBytes] at hhdr
    have hsum : htons order x = htons order y := congrArg IpHdr.ipSum hhdr
    rw [← htons_htons order x, hsum, htons_htons]
  · intro heq
    rw [heq]

def ipBytes (packet : Buf) : List UInt8 := (packet.drop sizeofGreHdr).take sizeofIpHdr

lemma ipBytes_append {a b : List UInt8} (c : List UInt8) (ha : a.length = sizeofGreHdr)
    (hb : b.length = sizeofIpHdr) : ipBytes (a ++ b ++ c) = b := by
  rw [ipBytes, List.append_assoc, List.drop_left' ha, List.take_left' hb]

/-- `serv_handle_pkt` leaves the header that `set_ip` builds for the new source. -/
def RewritesSource (packet : Buf) (serverIp ipDest : CString) : Prop :=
  ∃ fixed, servHandlePkt order packet serverIp = pure (fixed, sizeofGreHdr) ∧
    ipBytes fixed = (freshIp order serverIp ipDest ipProtocol).toBytes order

/-- `serv_handle_pkt_dest` leaves the header that `set_ip` builds for the new destination. -/
def RewritesDestination (packet : Buf) (ipSrc clientIp : CString) : Prop :=
  ∃ fixed, servHandlePktDest order packet clientIp = pure (fixed, sizeofGreHdr) ∧
    ipBytes fixed = (freshIp order ipSrc clientIp ipProtocol).toBytes order

variable {order ipProtocol} {k : Key} {ipSrc ipDest payload : CString} {flags : UInt8}
  {packet : Buf}

lemma BuiltPlaintext.split (h : BuiltPlaintext order k ipSrc ipDest ipProtocol payload flags packet) :
    ∃ rest, packet = (freshGre order).toBytes order ++
      (freshIp order ipSrc ipDest ipProtocol).toBytes order ++ rest := by
  refine ⟨(freshTcp order flags).toBytes order ++ packet.drop 46, ?_⟩
  have hsplit := List.take_append_drop 46 packet
  rw [h.take_header, header, List.append_assoc] at hsplit
  exact hsplit.symm

/-- A function that leaves the header of the new addresses with the checksum of the swapped form
meets `set_ip` exactly when the two checksums agree. -/
lemma handled_iff {handle : Mem (Buf × Nat)} (src dst : UInt32) {gre : List UInt8}
    (rest : List UInt8) (hgre : gre.length = sizeofGreHdr)
    (hhandle : handle = pure (gre ++ ({ unsummedIp order src dst ipProtocol with
      ipSum := htons order (cksum order ((swapped order
        (unsummedIp order src dst ipProtocol)).toBytes order)) } : IpHdr).toBytes order ++ rest,
      sizeofGreHdr)) :
    (∃ fixed, handle = pure (fixed, sizeofGreHdr) ∧
      ipBytes fixed = ({ unsummedIp order src dst ipProtocol with
        ipSum := htons order (cksum order ((unsummedIp order src dst ipProtocol).toBytes order)) } :
          IpHdr).toBytes order) ↔
      order = .big ∨ 257 ∣ 148 + alternating src + alternating dst := by
  rw [hhandle, ← cksum_swapped_iff order src dst ipProtocol, ← toBytes_withSum_iff order]
  constructor
  · rintro ⟨fixed, hfixed, heq⟩
    obtain ⟨rfl, -⟩ := Prod.mk.inj ((Mem.pure_inj _ _).mp hfixed)
    rwa [ipBytes_append rest hgre (IpHdr.length_toBytes _ _)] at heq
  · intro heq
    exact ⟨_, rfl, (ipBytes_append rest hgre (IpHdr.length_toBytes _ _)).trans heq⟩

lemma BuiltPlaintext.rewritesSource_iff (serverIp : CString)
    (h : BuiltPlaintext order k ipSrc ipDest ipProtocol payload flags packet) :
    RewritesSource order ipProtocol packet serverIp ipDest ↔
      order = .big ∨ 257 ∣ 148 + alternating (parseIpAddr serverIp) +
        alternating (parseIpAddr ipDest) := by
  obtain ⟨rest, rfl⟩ := h.split
  have hgre := (freshGre order).length_toBytes order
  have hhandle := servHandlePkt_append order rest serverIp hgre
    ((freshIp order ipSrc ipDest ipProtocol).length_toBytes order)
  rw [IpHdr.ofBytes_toBytes, resum_withSrc] at hhandle
  exact handled_iff _ _ rest hgre hhandle

lemma BuiltPlaintext.rewritesDestination_iff (clientIp : CString)
    (h : BuiltPlaintext order k ipSrc ipDest ipProtocol payload flags packet) :
    RewritesDestination order ipProtocol packet ipSrc clientIp ↔
      order = .big ∨ 257 ∣ 148 + alternating (parseIpAddr ipSrc) +
        alternating (parseIpAddr clientIp) := by
  obtain ⟨rest, rfl⟩ := h.split
  have hgre := (freshGre order).length_toBytes order
  have hhandle := servHandlePktDest_append order rest clientIp hgre
    ((freshIp order ipSrc ipDest ipProtocol).length_toBytes order)
  rw [IpHdr.ofBytes_toBytes, resum_withDst] at hhandle
  exact handled_iff _ _ rest hgre hhandle

/-- On a big-endian host the rewritten header is the one that `set_ip` builds. On a little-endian
host this holds when 257 divides the total length plus the alternating sums of the octets of the
two addresses. -/
theorem rewrites_iff (newIp : CString)
    (h : BuiltPlaintext order k ipSrc ipDest ipProtocol payload flags packet) :
    (RewritesSource order ipProtocol packet newIp ipDest ↔
      order = .big ∨ 257 ∣ 148 + alternating (parseIpAddr newIp) +
        alternating (parseIpAddr ipDest)) ∧
    (RewritesDestination order ipProtocol packet ipSrc newIp ↔
      order = .big ∨ 257 ∣ 148 + alternating (parseIpAddr ipSrc) +
        alternating (parseIpAddr newIp)) :=
  ⟨h.rewritesSource_iff newIp, h.rewritesDestination_iff newIp⟩

end Rewriting

def farRequest : Buf :=
  plainPacket .little (.lit "10.0.0.1") (.lit "104.0.0.3") ipProtocolTcp (.lit "payload") tcpFlagSyn

lemma builtPlaintext_des (ipDest : CString) :
    BuiltPlaintext .little key (.lit "10.0.0.1") ipDest ipProtocolTcp (.lit "payload") tcpFlagSyn
      (plainPacket .little (.lit "10.0.0.1") ipDest ipProtocolTcp (.lit "payload") tcpFlagSyn) :=
  .inl (createPacketsDes_eq .little _ ipDest ipProtocolTcp _ tcpFlagSyn (by decide))

/-- The server 10.0.0.2 rewrites the source as `set_ip` does, but not the destination. -/
theorem rewrites_farRequest :
    RewritesSource .little ipProtocolTcp farRequest (.lit "10.0.0.2") (.lit "104.0.0.3") ∧
    ¬ RewritesDestination .little ipProtocolTcp farRequest (.lit "10.0.0.1") (.lit "10.0.0.2") := by
  obtain ⟨hsrc, hdst⟩ := rewrites_iff (.lit "10.0.0.2") (builtPlaintext_des (.lit "104.0.0.3"))
  refine ⟨hsrc.mpr (.inr (by decide +kernel)), ?_⟩
  intro h
  rcases hdst.mp h with horder | hdvd
  · cases horder
  · revert hdvd
    decide +kernel

theorem not_rewritesSource_hosts :
    ∃ packet, createPacketsDes .little (.lit "10.0.0.1") (.lit "10.0.0.3") ipProtocolTcp
      (.lit "payload") tcpFlagSyn = pure packet ∧
    ¬ RewritesSource .little ipProtocolTcp packet (.lit "10.0.0.2") (.lit "10.0.0.3") := by
  refine ⟨_, createPacketsDes_eq .little _ _ ipProtocolTcp _ tcpFlagSyn (by decide), ?_⟩
  rw [(builtPlaintext_des (.lit "10.0.0.3")).rewritesSource_iff]
  rintro (horder | hdvd)
  · cases horder
  · revert hdvd
    decide +kernel

end SimpleVpn
