import SimpleVpn.Proofs.InternetChecksum
import SimpleVpn.Proofs.Rewrite

/-!
# The checksums of fresh headers

The writers put the result of `cksum`, which is in network order already, through `htons` once more.
On a big-endian host this changes nothing. On a little-endian host the stored checksum verifies only
when its two bytes are equal, which happens when 257 divides the word sum of the header.
-/

namespace SimpleVpn

open CLang

variable (order : ByteOrder)

lemma swap16_eq_self_iff (v : UInt16) : swap16 v = v ↔ 257 ∣ v.toNat := by
  have hv := v.toNat_lt
  rw [← UInt16.toNat_inj, swap16, toNat_join16, toNat_hi16, toNat_lo16]
  omega

/-- A header whose checksum has been swapped once more verifies exactly when the swap does not change
the checksum. -/
lemma verifyChecksum_stored_iff {data : List UInt8} (h : data.length ≤ 131074) :
    verifyChecksum order data (htons order (cksum order data)) = 0 ↔
      order = .big ∨ 257 ∣ wordSum data := by
  rw [verifyChecksum_eq_zero]
  cases order with
  | little =>
    rw [cksum_eq .little data h, htons_htons, htons, swap16_eq_self_iff, toNat_complement]
    constructor
    · intro hdvd
      exact .inr (by omega)
    · rintro (hbig | hdvd)
      · cases hbig
      · omega
  | big => exact ⟨fun _ => .inl rfl, fun _ => rfl⟩

/-- The IP header that `set_ip` leaves on zeros verifies with the checksum stored in it. -/
def IpVerifies (ipSrc ipDest : CString) (ipProtocol payloadSize : UInt8) : Prop :=
  let ip := setIp order (IpHdr.ofBytes order (calloc sizeofIpHdr)) ipDest ipSrc ipProtocol payloadSize
  verifyChecksum order ({ ip with ipSum := 0 }.toBytes order) ip.ipSum = 0

/-- The TCP header that `set_tcp` leaves on zeros verifies with the checksum stored in it. -/
def TcpVerifies (flags : UInt8) : Prop :=
  let tcp := setTcp order (TcpHdr.ofBytes order (calloc sizeofTcpHdr)) flags
  verifyChecksum order ({ tcp with tcpSum := 0 }.toBytes order) tcp.tcpSum = 0

/-- The GRE header that `packet_encapsulate` leaves verifies with the checksum stored in it. -/
def GreVerifies (packet : Buf) : Prop :=
  ∃ encapsulated gre, packetEncapsulate order packet = pure encapsulated ∧
    loadGreHdr order encapsulated (getGreHdr 0) = pure gre ∧
    verifyChecksum order ({ gre with greSum := 0 }.toBytes order) gre.greSum = 0

section Ip

variable (ipSrc ipDest : CString) (ipProtocol payloadSize : UInt8)

/-- The header that `set_ip` checksums. -/
def sizedIp : IpHdr :=
  { unsummedIp order (parseIpAddr ipSrc) (parseIpAddr ipDest) ipProtocol with
    ipLen := htons order (UInt16.ofNat (payloadSize.toNat + sizeofIpHdr)) }

lemma wordSum_sizedIp_little :
    wordSum ((sizedIp .little ipSrc ipDest ipProtocol payloadSize).toBytes .little) =
      16404 + payloadSize.toNat + ipProtocol.toNat + weightedReversed (parseIpAddr ipSrc) +
        weightedReversed (parseIpAddr ipDest) := by
  have hsize := payloadSize.toNat_lt
  have hlen : (UInt16.ofNat (payloadSize.toNat + sizeofIpHdr)).toNat = payloadSize.toNat + 20 := by
    rw [UInt16.toNat_ofNat', sizeofIpHdr]
    omega
  rw [sizedIp, wordSum_filledIp_little, hlen]
  omega

theorem ipVerifies_iff : IpVerifies order ipSrc ipDest ipProtocol payloadSize ↔
    order = .big ∨ (257 : Int) ∣ payloadSize.toNat + ipProtocol.toNat - 44 +
      alternating (parseIpAddr ipSrc) + alternating (parseIpAddr ipDest) := by
  let h := sizedIp order ipSrc ipDest ipProtocol payloadSize
  have hlen := h.length_toBytes_le order
  change verifyChecksum order (h.toBytes order) (htons order (cksum order (h.toBytes order))) = 0 ↔ _
  rw [verifyChecksum_stored_iff order hlen]
  cases order with
  | little =>
    rw [wordSum_sizedIp_little, weightedReversed, weightedReversed, alternating, alternating]
    apply or_congr Iff.rfl
    omega
  | big => exact ⟨fun _ => .inl rfl, fun _ => .inl rfl⟩

end Ip

section Tcp

variable (flags : UInt8)

/-- The header that `set_tcp` checksums. -/
def unsummedTcp : TcpHdr :=
  { TcpHdr.ofBytes order (calloc sizeofTcpHdr) with
    srcPort := htons order port
    dstPort := htons order port
    flags := flags
    tcpSum := 0 }

lemma unsummedTcp_toBytes : (unsummedTcp order flags).toBytes order =
    [67, 198, 67, 198, 0, 0, 0, 0, 0, 0, 0, 0, 0, flags, 0, 0, 0, 0, 0, 0] := by
  have h := filledTcp_toBytes order flags 0
  rw [bytes16_zero] at h
  exact h

theorem tcpVerifies_iff : TcpVerifies order flags ↔ order = .big ∨ flags = 252 := by
  let h := unsummedTcp order flags
  have hlen := h.length_toBytes_le order
  have hfresh : (freshTcp order flags).tcpSum = htons order (cksum order (h.toBytes order)) := by
    cases order <;> rfl
  have hbytes : ({ freshTcp order flags with tcpSum := 0 } : TcpHdr) = h := rfl
  change verifyChecksum order (({ freshTcp order flags with tcpSum := 0 } : TcpHdr).toBytes order)
    (freshTcp order flags).tcpSum = 0 ↔ _
  rw [hbytes, hfresh, verifyChecksum_stored_iff order hlen, unsummedTcp_toBytes]
  have hflags := flags.toNat_lt
  have hsum : wordSum [67, 198, 67, 198, 0, 0, 0, 0, 0, 0, 0, 0, 0, flags, 0, 0, 0, 0, 0, 0] =
      34700 + flags.toNat := by
    simp only [wordSum]
    simp
    omega
  have heq : flags = 252 ↔ flags.toNat = 252 := by
    rw [← UInt8.toNat_inj]
    rfl
  rw [hsum, heq]
  apply or_congr Iff.rfl
  omega

end Tcp

section Gre

lemma packetEncapsulate_of_le {packet : Buf} (h : sizeofGreHdr ≤ packet.length) :
    packetEncapsulate order packet =
      pure ((freshGre order).toBytes order ++ packet.drop sizeofGreHdr) := by
  have hsplit := List.take_append_drop sizeofGreHdr packet
  rw [← packetEncapsulate_append order _ (List.length_take_of_le h), hsplit]

lemma packetEncapsulate_of_lt {packet encapsulated : Buf} (h : packet.length < sizeofGreHdr) :
    packetEncapsulate order packet ≠ pure encapsulated := by
  intro heq
  obtain ⟨gre, hgre, -⟩ := Mem.bind_eq_pure.mp heq
  rw [loadGreHdr, loadRange, if_neg (by rw [getGreHdr, Nat.zero_add]; omega), Mem.fault_map] at hgre
  exact Mem.fault_ne_pure _ _ hgre

/-- The word sum of the GRE header is not divisible by 257. -/
theorem greVerifies_iff (packet : Buf) :
    GreVerifies order packet ↔ order = .big ∧ sizeofGreHdr ≤ packet.length := by
  let h : GreHdr := { freshGre order with greSum := 0 }
  have hbytes : h.toBytes order = [0, 1, 8, 0, 0, 0] := by
    have hfilled := filledGre_toBytes order 0
    rw [bytes16_zero] at hfilled
    exact hfilled
  have hlen := h.length_toBytes_le order
  have hstored : verifyChecksum order (h.toBytes order) (freshGre order).greSum = 0 ↔ order = .big := by
    have hiff := verifyChecksum_stored_iff order hlen
    rw [hbytes] at hiff
    change verifyChecksum order (h.toBytes order) (htons order (cksum order (h.toBytes order))) = 0 ↔ _
    rw [hbytes, hiff]
    exact or_iff_left (by decide)
  by_cases hle : sizeofGreHdr ≤ packet.length
  · have hload := loadGreHdr_append order (a := []) (packet.drop sizeofGreHdr) (i := getGreHdr 0) rfl
      (GreHdr.length_toBytes order (freshGre order))
    rw [List.nil_append, GreHdr.ofBytes_toBytes] at hload
    rw [and_iff_left hle, ← hstored, GreVerifies, packetEncapsulate_of_le order hle]
    constructor
    · rintro ⟨_, gre, hencapsulated, hgre, hverify⟩
      rw [← (Mem.pure_inj _ _).mp hencapsulated, hload, Mem.pure_inj] at hgre
      rw [← hgre] at hverify
      exact hverify
    · intro hverify
      exact ⟨_, _, rfl, hload, hverify⟩
  · constructor
    · rintro ⟨encapsulated, -, hencapsulated, -⟩
      exact absurd hencapsulated (packetEncapsulate_of_lt order (Nat.lt_of_not_le hle))
    · intro h
      exact absurd h.2 hle

end Gre

/-- On a big-endian host all three headers verify. On a little-endian host the IP header verifies when
257 divides a sum of its fields, the TCP header with the flags 252, and the GRE header never. -/
theorem headers_verify_iff (ipSrc ipDest : CString) (ipProtocol payloadSize flags : UInt8)
    (packet : Buf) :
    (IpVerifies order ipSrc ipDest ipProtocol payloadSize ↔
      order = .big ∨ (257 : Int) ∣ payloadSize.toNat + ipProtocol.toNat - 44 +
        alternating (parseIpAddr ipSrc) + alternating (parseIpAddr ipDest)) ∧
    (TcpVerifies order flags ↔ order = .big ∨ flags = 252) ∧
    (GreVerifies order packet ↔ order = .big ∧ sizeofGreHdr ≤ packet.length) :=
  ⟨ipVerifies_iff order ipSrc ipDest ipProtocol payloadSize, tcpVerifies_iff order flags,
    greVerifies_iff order packet⟩

/-- None of the headers of the client's packet to `h3` verifies. -/
theorem not_headersVerify_hosts :
    ¬ IpVerifies .little (.lit "10.0.0.1") (.lit "10.0.0.3") ipProtocolTcp 128 ∧
    ¬ TcpVerifies .little tcpFlagSyn ∧ ¬ GreVerifies .little (calloc pktSize) := by
  unfold IpVerifies TcpVerifies
  refine ⟨by decide +kernel, by decide +kernel, ?_⟩
  rintro ⟨encapsulated, gre, hencapsulated, hgre, hverify⟩
  have h : (packetEncapsulate .little (calloc pktSize) >>= fun p => do
      let gre ← loadGreHdr .little p (getGreHdr 0)
      return verifyChecksum .little ({ gre with greSum := 0 }.toBytes .little) gre.greSum) = pure (-1) := by
    decide +kernel
  rw [hencapsulated, pure_bind, hgre, pure_bind, hverify] at h
  exact absurd h (by decide)

end SimpleVpn
