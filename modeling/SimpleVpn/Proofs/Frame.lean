import SimpleVpn.Proofs.Checksum
import SimpleVpn.Proofs.Headers

/-!
# What the rewriting functions change

`serv_handle_pkt` changes the source address and the checksum of a packet, `serv_handle_pkt_dest` the
destination address and the checksum, and a second call changes nothing. Each function is the other one
with the two addresses exchanged.
-/

namespace SimpleVpn

open CLang

variable (order : ByteOrder)

namespace IpHdr

/-- The bytes before the checksum. -/
def front (h : IpHdr) : List UInt8 :=
  [joinNibbles h.ipV h.ipHl, h.ipTos] ++ bytes16 order h.ipLen ++ bytes16 order h.ipId ++
    bytes16 order h.ipOff ++ [h.ipTtl, h.ipP]

@[simp] lemma length_front (h : IpHdr) : (h.front order).length = 10 := by
  simp [front]

lemma toBytes_front (h : IpHdr) : h.toBytes order =
    h.front order ++ bytes16 order h.ipSum ++ bytes32 order h.ipSrc ++ bytes32 order h.ipDst := by
  rw [toBytes, versionByte_eq, front]

variable (h : IpHdr) (sum : UInt16) (addr : UInt32) {i : Nat}

lemma getElem?_withSrc (hi : i < 10 ∨ 16 ≤ i) :
    ({ h with ipSum := sum, ipSrc := addr }.toBytes order)[i]? = (h.toBytes order)[i]? := by
  have hsize : (bytes16 order sum ++ bytes32 order addr).length =
      (bytes16 order h.ipSum ++ bytes32 order h.ipSrc).length := by
    simp only [List.length_append, length_bytes16, length_bytes32]
  have hagree := getElem?_append_of_outside (h.front order) (bytes32 order h.ipDst) hsize (i := i)
    (by simpa only [length_front, List.length_append, length_bytes16, length_bytes32] using hi)
  rw [← List.append_assoc, ← List.append_assoc] at hagree
  rw [toBytes_front, toBytes_front]
  exact hagree

lemma getElem?_withDst (hi : i < 10 ∨ (12 ≤ i ∧ i < 16) ∨ 20 ≤ i) :
    ({ h with ipSum := sum, ipDst := addr }.toBytes order)[i]? = (h.toBytes order)[i]? := by
  have hfront := h.length_front order
  have hsize : (bytes16 order sum).length = (bytes16 order h.ipSum).length := by
    rw [length_bytes16, length_bytes16]
  have hsize' : (bytes32 order addr).length = (bytes32 order h.ipDst).length := by
    rw [length_bytes32, length_bytes32]
  have hsum := getElem?_append_of_outside (h.front order) (bytes32 order h.ipSrc ++ bytes32 order addr)
    hsize (i := i) (by rw [hfront, length_bytes16]; omega)
  have hdst := getElem?_append_of_outside
    (h.front order ++ bytes16 order h.ipSum ++ bytes32 order h.ipSrc) [] hsize' (i := i)
    (by simp only [hfront, List.length_append, length_bytes16, length_bytes32]; omega)
  rw [List.append_nil, List.append_nil] at hdst
  rw [← List.append_assoc, ← List.append_assoc] at hsum
  rw [toBytes_front, toBytes_front]
  exact hsum.trans hdst

end IpHdr

namespace Packet

lemma toBytes_ipHdr (p : Packet) : (p.ipHdr order).toBytes order = p.ip :=
  IpHdr.toBytes_ofBytes order p.length_ip

lemma withIp_withIp (p : Packet) (h h' : IpHdr) :
    (p.withIp order h).withIp order h' = p.withIp order h' := rfl

/-- A change of the IP header is visible at the bytes of the header that it changes. -/
lemma agreeOutside_withIp {hidden : List Nat} (p : Packet) (h : IpHdr)
    (hagree : ∀ j, 6 + j ∉ hidden → (h.toBytes order)[j]? = ((p.ipHdr order).toBytes order)[j]?) :
    AgreeOutside hidden (p.withIp order h).bytes p.bytes := by
  have hbytes : p.bytes = p.gre ++ (p.ipHdr order).toBytes order ++ (p.tcp ++ p.field) := by
    rw [toBytes_ipHdr, List.append_assoc]
    rfl
  have hbytes' : (p.withIp order h).bytes = p.gre ++ h.toBytes order ++ (p.tcp ++ p.field) := by
    rw [List.append_assoc]
    rfl
  intro i hi
  rw [hbytes, hbytes']
  apply getElem?_append_congr _ _ (by rw [IpHdr.length_toBytes, IpHdr.length_toBytes])
  rw [p.length_gre]
  intro hle
  apply hagree
  rw [show 6 + (i - sizeofGreHdr) = i from Nat.add_sub_cancel' hle]
  exact hi

end Packet

/-- The offsets of `ip_sum` and `ip_src`. -/
def sourceFields : List Nat := [16, 17, 18, 19, 20, 21]

/-- The offsets of `ip_sum` and `ip_dst`. -/
def destinationFields : List Nat := [16, 17, 22, 23, 24, 25]

section Frames

variable (p : Packet) (serverIp : CString)

lemma agreeOutside_relayed : AgreeOutside sourceFields (p.relayed order serverIp).bytes p.bytes := by
  apply p.agreeOutside_withIp
  intro j hj
  apply IpHdr.getElem?_withSrc order (p.ipHdr order)
  simp only [sourceFields, List.mem_cons, List.not_mem_nil, or_false] at hj
  omega

lemma agreeOutside_returned :
    AgreeOutside destinationFields (p.returned order serverIp).bytes p.bytes := by
  apply p.agreeOutside_withIp
  intro j hj
  apply IpHdr.getElem?_withDst order (p.ipHdr order)
  simp only [destinationFields, List.mem_cons, List.not_mem_nil, or_false] at hj
  omega

/-- The checksum does not depend on the one that was there before. -/
lemma relayed_relayed : (p.relayed order serverIp).relayed order serverIp = p.relayed order serverIp := by
  rw [Packet.relayed, Packet.relayed, Packet.ipHdr_withIp, Packet.withIp_withIp]
  rfl

lemma returned_returned :
    (p.returned order serverIp).returned order serverIp = p.returned order serverIp := by
  rw [Packet.returned, Packet.returned, Packet.ipHdr_withIp, Packet.withIp_withIp]
  rfl

end Frames

/-- Both functions return the decapsulated packet, change their address field and the checksum and
nothing else, and change nothing when they are applied again. -/
theorem rewriting_frame {packet : Buf} (h : packet.length = pktSize) (serverIp : CString) :
    (∃ fixed ip, servHandlePkt order packet serverIp = pure (fixed, sizeofGreHdr) ∧
      AgreeOutside sourceFields fixed packet ∧
      loadIpHdr order fixed sizeofGreHdr = pure ip ∧ ip.ipSrc = parseIpAddr serverIp ∧
      servHandlePkt order fixed serverIp = pure (fixed, sizeofGreHdr)) ∧
    ∃ fixed ip, servHandlePktDest order packet serverIp = pure (fixed, sizeofGreHdr) ∧
      AgreeOutside destinationFields fixed packet ∧
      loadIpHdr order fixed sizeofGreHdr = pure ip ∧ ip.ipDst = parseIpAddr serverIp ∧
      servHandlePktDest order fixed serverIp = pure (fixed, sizeofGreHdr) := by
  obtain ⟨p, rfl⟩ := Packet.exists_bytes h
  constructor
  · refine ⟨_, _, servHandlePkt_bytes order p serverIp, agreeOutside_relayed order p serverIp,
      loadIpHdr_bytes order _, p.ipSrc_relayed order serverIp, ?_⟩
    rw [servHandlePkt_bytes, relayed_relayed]
  · refine ⟨_, _, servHandlePktDest_bytes order p serverIp, agreeOutside_returned order p serverIp,
      loadIpHdr_bytes order _, p.ipDst_returned order serverIp, ?_⟩
    rw [servHandlePktDest_bytes, returned_returned]

theorem rewriting_frame_calloc :
    ∃ fixed ip, servHandlePkt .little (calloc pktSize) (.lit "10.0.0.2") =
        pure (fixed, sizeofGreHdr) ∧
      AgreeOutside sourceFields fixed (calloc pktSize) ∧
      loadIpHdr .little fixed sizeofGreHdr = pure ip ∧
      ip.ipSrc = parseIpAddr (.lit "10.0.0.2") ∧
      servHandlePkt .little fixed (.lit "10.0.0.2") = pure (fixed, sizeofGreHdr) :=
  (rewriting_frame .little (length_calloc pktSize) (.lit "10.0.0.2")).1

/-- The packet with `ip_src` and `ip_dst` exchanged. -/
def swapAddresses (packet : Buf) : Buf :=
  packet.take 18 ++ (packet.drop 22).take 4 ++ (packet.drop 18).take 4 ++ packet.drop 26

lemma swapAddresses_append {a s d : List UInt8} (c : List UInt8) (ha : a.length = 18)
    (hs : s.length = 4) (hd : d.length = 4) :
    swapAddresses (a ++ s ++ d ++ c) = a ++ d ++ s ++ c := by
  have h22 : (a ++ s).length = 22 := by rw [List.length_append, ha, hs]
  have h26 : (a ++ s ++ d).length = 26 := by rw [List.length_append, h22, hd]
  have hsrc : (a ++ s ++ d ++ c).drop 18 = s ++ (d ++ c) := by
    rw [List.append_assoc, List.append_assoc, List.drop_left' ha]
  have hdst : (a ++ s ++ d ++ c).drop 22 = d ++ c := by
    rw [List.append_assoc, List.drop_left' h22]
  have hfront : (a ++ s ++ d ++ c).take 18 = a := by
    rw [List.append_assoc, List.append_assoc, List.take_left' ha]
  rw [swapAddresses, hsrc, hdst, hfront, List.drop_left' h26, List.take_left' hs, List.take_left' hd]

def IpHdr.swapAddresses (h : IpHdr) : IpHdr := { h with ipSrc := h.ipDst, ipDst := h.ipSrc }

lemma swapAddresses_withIp (p : Packet) (h : IpHdr) :
    swapAddresses (p.withIp order h).bytes = (p.withIp order h.swapAddresses).bytes := by
  have hbytes : ∀ h : IpHdr, (p.withIp order h).bytes =
      p.gre ++ (h.front order ++ bytes16 order h.ipSum) ++ bytes32 order h.ipSrc ++
        bytes32 order h.ipDst ++ (p.tcp ++ p.field) := by
    intro h
    change p.gre ++ (h.toBytes order ++ (p.tcp ++ p.field)) = _
    rw [IpHdr.toBytes_front]
    simp only [List.append_assoc]
  have hfront : (p.gre ++ (h.front order ++ bytes16 order h.ipSum)).length = 18 := by
    rw [List.length_append, List.length_append, p.length_gre, h.length_front, length_bytes16]
    rfl
  rw [hbytes, hbytes, swapAddresses_append _ hfront (length_bytes32 ..) (length_bytes32 ..)]
  rfl

/-- The word sum does not depend on the order of the two addresses. -/
lemma cksum_swapAddresses (h : IpHdr) :
    cksum order (h.swapAddresses.toBytes order) = cksum order (h.toBytes order) := by
  have hlen := IpHdr.length_toBytes_le order
  have hsum : ∀ h : IpHdr, wordSum (h.toBytes order) =
      wordSum (h.front order ++ bytes16 order h.ipSum) + wordSum (bytes32 order h.ipSrc) +
        wordSum (bytes32 order h.ipDst) := by
    intro h
    have hfront : (h.front order ++ bytes16 order h.ipSum).length % 2 = 0 := by
      rw [List.length_append, h.length_front, length_bytes16]
    rw [IpHdr.toBytes_front, wordSum_append, wordSum_append hfront]
    rw [List.length_append, length_bytes32]
    omega
  rw [cksum_inj order (hlen _) (hlen _), hsum, hsum, Nat.add_right_comm]
  rfl

lemma resum_swapAddresses (h : IpHdr) :
    resum order h.swapAddresses = (resum order h).swapAddresses := by
  have hsum := cksum_swapAddresses order (swapped order h)
  rw [resum, show swapped order h.swapAddresses = (swapped order h).swapAddresses from rfl, hsum]
  rfl

lemma swapAddresses_bytes (p : Packet) :
    swapAddresses p.bytes = (p.withIp order (p.ipHdr order).swapAddresses).bytes := by
  have hself : (p.withIp order (p.ipHdr order)).bytes = p.bytes := by
    rw [Packet.bytes, Packet.inner]
    change p.gre ++ ((p.ipHdr order).toBytes order ++ (p.tcp ++ p.field)) = _
    rw [p.toBytes_ipHdr]
    rfl
  rw [← swapAddresses_withIp, hself]

/-- `serv_handle_pkt_dest` is `serv_handle_pkt` on the packet with exchanged addresses. -/
theorem servHandlePktDest_mirror {packet : Buf} (h : packet.length = pktSize) (serverIp : CString) :
    ∃ fixed, servHandlePkt order (swapAddresses packet) serverIp = pure (fixed, sizeofGreHdr) ∧
      servHandlePktDest order packet serverIp = pure (swapAddresses fixed, sizeofGreHdr) := by
  obtain ⟨p, rfl⟩ := Packet.exists_bytes h
  have hfixed := servHandlePkt_bytes order (p.withIp order (p.ipHdr order).swapAddresses) serverIp
  rw [← swapAddresses_bytes] at hfixed
  refine ⟨_, hfixed, ?_⟩
  rw [servHandlePktDest_bytes, Packet.relayed, Packet.ipHdr_withIp, Packet.withIp_withIp,
    swapAddresses_withIp, ← resum_swapAddresses]
  rfl

theorem servHandlePktDest_mirror_calloc :
    ∃ fixed, servHandlePkt .little (swapAddresses (calloc pktSize)) (.lit "10.0.0.2") =
        pure (fixed, sizeofGreHdr) ∧
      servHandlePktDest .little (calloc pktSize) (.lit "10.0.0.2") =
        pure (swapAddresses fixed, sizeofGreHdr) :=
  servHandlePktDest_mirror .little (length_calloc pktSize) (.lit "10.0.0.2")

end SimpleVpn
