import SimpleVpn.Proofs.Forward
import SimpleVpn.Proofs.Runs
import SimpleVpn.Proofs.WireImage

/-!
# Hosts of different byte orders

Addresses are stored in the byte order of the host. A server of the other byte order reads them reversed
from the client's packet, and dials another host.
-/

namespace SimpleVpn

open CLang

lemma networkOctets_injective : Function.Injective networkOctets := by
  intro v w h
  rw [networkOctets, networkOctets] at h
  simp only [List.cons.injEq, and_true] at h
  rw [← join32_octets v, ← join32_octets w, h.1, h.2.1, h.2.2.1, h.2.2.2]

lemma swap32_eq_iff (v : UInt32) : swap32 v = v ↔ (printedQuad v).Palindromic := by
  constructor
  · intro h
    have h3 : octet (swap32 v) 3 = octet v 0 := octet_three_join32 ..
    have h2 : octet (swap32 v) 2 = octet v 1 := octet_two_join32 ..
    rw [h] at h3 h2
    exact ⟨h3, h2⟩
  · rintro ⟨h3, h2⟩
    change octet v 3 = octet v 0 at h3
    change octet v 2 = octet v 1 at h2
    rw [swap32, ← h3, ← h2]
    conv_rhs => rw [← join32_octets v, ← h3, ← h2]

lemma ipDst_ofBytes_toBytes (order order' : ByteOrder) (h : IpHdr) :
    (IpHdr.ofBytes order' (h.toBytes order)).ipDst = if order = order' then h.ipDst else swap32 h.ipDst := by
  by_cases heq : order = order'
  · rw [if_pos heq, ← heq, IpHdr.ofBytes_toBytes]
  · rw [if_neg heq]
    cases order
    · cases order'
      · exact absurd rfl heq
      · simp [IpHdr.ofBytes, IpHdr.toBytes, bytes16, bytes32, read32, swap32]
    · cases order'
      · simp [IpHdr.ofBytes, IpHdr.toBytes, bytes16, bytes32, read32, swap32]
      · exact absurd rfl heq

section Relay

variable (order order' : ByteOrder) (k : Key) (newSocket : Fd) (c s d : UInt32) {request : CString}
  (hreq : request.length ≤ 127)

/-- The destination of the client's packet as a server of byte order `order'` reads it. -/
lemma ipDst_relayedPacket_of (order' : ByteOrder) :
    ((relayedPacket order k c d hreq).ipHdr order').ipDst = if order = order' then d else swap32 d := by
  have hdst : (freshIp order (ipAddrText c) (ipAddrText d) ipProtocolTcp).ipDst = d :=
    parseIpAddr_ipAddrText d
  have h := ipDst_ofBytes_toBytes order order' (freshIp order (ipAddrText c) (ipAddrText d) ipProtocolTcp)
  rw [hdst] at h
  exact h

/-- The server dials the destination that the client names exactly when both hosts have the same byte order or
the octets of the address read the same in both directions. -/
theorem serverRelay_dials_iff :
    (∃ text sent, traffic (serverRelay order' k newSocket (ipAddrText s))
        [(requestBytes order k c d hreq).val] =
      pure [.recv newSocket pktSize, .socket, .inetPton text, .connect 3 (networkOctets d) port,
        .send 3 sent]) ↔ order = order' ∨ (printedQuad d).Palindromic := by
  let p := relayedPacket order k c d hreq
  have htraffic := traffic_serverRelay order' k newSocket (ipAddrText s) (p := p)
    (recover_requestBytes order k c d hreq) (zero_mem_deliveredField k request hreq)
  rw [htraffic, relayTraffic, ipDst_relayedPacket_of order k c d hreq order', ← swap32_eq_iff]
  constructor
  · rintro ⟨text, sent, h⟩
    rw [Mem.pure_inj] at h
    simp only [List.cons.injEq, SysCall.connect.injEq, true_and, and_true] at h
    have hdst := networkOctets_injective h.2.1
    split at hdst
    · rename_i heq
      exact .inl heq
    · exact .inr hdst
  · intro h
    have hdst : (if order = order' then d else swap32 d) = d := by
      rcases h with rfl | h
      · exact if_pos rfl
      · rw [h, ite_self]
    rw [hdst]
    exact ⟨_, _, rfl⟩

end Relay

/-- A big-endian server that receives the packet of a little-endian `h1` for `h3` dials 3.0.0.10. -/
theorem serverRelay_dials_h3 :
    ¬ ∃ text sent, traffic (serverRelay .big key 4 (ipAddrText 0x0A000002))
        [(requestBytes .little key 0x0A000001 0x0A000003 (show clientPayload.length ≤ 127 by decide)).val] =
      pure [.recv 4 pktSize, .socket, .inetPton text, .connect 3 (networkOctets 0x0A000003) port,
        .send 3 sent] := by
  rw [serverRelay_dials_iff]
  rintro (h | ⟨h, -⟩)
  · cases h
  · exact absurd h (by decide)

end SimpleVpn
