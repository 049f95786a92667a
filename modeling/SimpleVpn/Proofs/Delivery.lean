import SimpleVpn.Proofs.Tunnel

/-!
# What the tunnel delivers

A message arrives up to the first byte that equals the key byte at its packet offset, behind the
header that the sender built.
-/

namespace SimpleVpn

open CLang

/-- `j` is the first index at which a byte of the message equals the key byte at its packet offset,
or the length of the message when there is none. -/
def FirstMatch (k : Key) (m : CString) (j : Nat) : Prop :=
  (∀ (i : Nat) (h : i < m.bytes.length), i < j → m.bytes[i] ≠ k.at (46 + i)) ∧
    (j = m.length ∨ ∃ h : j < m.bytes.length, m.bytes[j] = k.at (46 + j))

lemma firstMatch_cut (k : Key) (m : CString) : FirstMatch k m (cut k 46 m.bytes) := by
  refine ⟨fun i h hi => getElem_of_lt_cut k 46 m.bytes hi h, ?_⟩
  rcases Nat.lt_or_ge (cut k 46 m.bytes) m.bytes.length with h | h
  · exact .inr ⟨h, getElem_cut k 46 m.bytes h⟩
  · exact .inl (Nat.le_antisymm (cut_le k 46 m.bytes) h)

/-- The header arrives as it was built, and the message up to its first key byte. -/
theorem tunnel_sendMessage (order : ByteOrder) (k : Key) (sockfd sockfd' : Fd)
    (ipSrc ipDest m : CString) (flags : UInt8) (hm : m.length ≤ 127) :
    ∃ plain n packet text j,
      newPacket order ipSrc ipDest ipProtocolTcp m flags = pure (plain, n) ∧
      tunnel (sendMessage order k sockfd ipSrc ipDest m flags) (servRecFromCli k sockfd') =
        pure (some packet) ∧
      packet.length = pktSize ∧ packet.take 46 = plain.take 46 ∧
      cstringAt packet (getPayload 0) = pure text ∧
      FirstMatch k m j ∧ text.bytes = m.bytes.take j ∧
      (text = m ↔ ∀ (i : Nat) (h : i < m.bytes.length), m.bytes[i] ≠ k.at (46 + i)) := by
  have hmod : m.length % 4294967296 ≤ 128 := (Nat.mod_le _ _).trans (by omega)
  have hnew := newPacket_eq order ipSrc ipDest ipProtocolTcp m flags hmod
  obtain ⟨-, hplain, -⟩ := newPacket_head order ipSrc ipDest ipProtocolTcp m flags hnew
  have hhdr := length_header order ipSrc ipDest ipProtocolTcp flags
  have hfield := length_deliveredField k m hm
  have htext := textOf_deliveredField k m hm
  refine ⟨_, _, header order ipSrc ipDest ipProtocolTcp flags ++ deliveredField k m,
    .textOf (deliveredField k m), cut k 46 m.bytes, hnew, ?_, ?_, ?_, ?_, firstMatch_cut k m, htext, ?_⟩
  · rw [tunnel, sends_sendMessage order k sockfd ipSrc ipDest m flags hm, pure_bind,
      receives_wire k sockfd' hhdr hm]
  · rw [List.length_append, hhdr, hfield]
    rfl
  · rw [hplain, List.take_left' hhdr]
  · rw [cstringAt_eq_pure, show getPayload 0 = 46 from rfl, List.drop_left' hhdr]
    exact ⟨zero_mem_deliveredField k m hm, rfl⟩
  · rw [← cut_eq_length_iff]
    constructor
    · intro h
      have hlen := congrArg List.length htext
      rw [h, List.length_take_of_le (cut_le k 46 m.bytes)] at hlen
      exact hlen.symm
    · intro h
      apply CString.ext
      rw [htext, h, List.take_length]

theorem tunnel_sendMessage_exit :
    ∃ plain n packet text j,
      newPacket .little (.lit "10.0.0.1") (.lit "10.0.0.3") ipProtocolTcp (.lit "exit") tcpFlagSyn =
        pure (plain, n) ∧
      tunnel (sendMessage .little key 3 (.lit "10.0.0.1") (.lit "10.0.0.3") (.lit "exit") tcpFlagSyn)
        (servRecFromCli key 4) = pure (some packet) ∧
      packet.length = pktSize ∧ packet.take 46 = plain.take 46 ∧
      cstringAt packet (getPayload 0) = pure text ∧
      FirstMatch key (.lit "exit") j ∧ text.bytes = (CString.lit "exit").bytes.take j ∧
      (text = .lit "exit" ↔ ∀ (i : Nat) (h : i < (CString.lit "exit").bytes.length),
        (CString.lit "exit").bytes[i] ≠ key.at (46 + i)) :=
  tunnel_sendMessage .little key 3 4 (.lit "10.0.0.1") (.lit "10.0.0.3") (.lit "exit") tcpFlagSyn
    (by decide)

end SimpleVpn
