import SimpleVpn.Proofs.Address
import SimpleVpn.Proofs.Builder

/-!
# The wire image of a packet

The bytes of the header that the builders write, field by field, and how they depend on the
byte order of the host that builds the packet.
-/

namespace SimpleVpn

open CLang

/-- The offsets of the checksum fields of the three headers. -/
def checksumFields : List Nat := [4, 5, 16, 17, 42, 43]

def DottedQuad.octets (q : DottedQuad) : List UInt8 := [q.a, q.b, q.c, q.d]

def ipSrcBytes (packet : Buf) : List UInt8 := (packet.drop 18).take 4

def ipDstBytes (packet : Buf) : List UInt8 := (packet.drop 22).take 4

/-- The packets built on the two kinds of host agree outside the checksums, with both
addresses most significant octet first. -/
def BuilderPortable (src dest : DottedQuad) (payload : CString) (flags : UInt8) : Prop :=
  ∃ p q, createPacketsDes .little src.text dest.text ipProtocolTcp payload flags = pure p ∧
    createPacketsDes .big src.text dest.text ipProtocolTcp payload flags = pure q ∧
    (∀ i, i ∉ checksumFields → p[i]? = q[i]?) ∧
    (ipSrcBytes p = src.octets ∧ ipDstBytes p = dest.octets) ∧
    (ipSrcBytes q = src.octets ∧ ipDstBytes q = dest.octets)

def DottedQuad.Palindromic (q : DottedQuad) : Prop := q.a = q.d ∧ q.b = q.c

lemma bytes32_little_value (q : DottedQuad) :
    bytes32 .little (parseIpAddr q.text) = [q.d, q.c, q.b, q.a] := by
  simp [parseIpAddr_text, DottedQuad.value, bytes32]

lemma bytes32_big_value (q : DottedQuad) :
    bytes32 .big (parseIpAddr q.text) = [q.a, q.b, q.c, q.d] := by
  simp [parseIpAddr_text, DottedQuad.value, bytes32]

lemma addressBytes_plainPacket (order : ByteOrder) (src dest : DottedQuad) (payload : CString)
    (flags : UInt8) :
    ipSrcBytes (plainPacket order src.text dest.text ipProtocolTcp payload flags) =
        bytes32 order (parseIpAddr src.text) ∧
      ipDstBytes (plainPacket order src.text dest.text ipProtocolTcp payload flags) =
        bytes32 order (parseIpAddr dest.text) := by
  obtain ⟨g0, g1, hg, -⟩ := bytes16_cases order (freshGre order).greSum
  obtain ⟨c0, c1, hc, -⟩ :=
    bytes16_cases order (freshIp order src.text dest.text ipProtocolTcp).ipSum
  obtain ⟨s0, s1, s2, s3, hs, -⟩ := bytes32_cases order (parseIpAddr src.text)
  obtain ⟨d0, d1, d2, d3, hd, -⟩ := bytes32_cases order (parseIpAddr dest.text)
  rw [plainPacket, header_eq, hg, hc, hs, hd]
  exact ⟨rfl, rfl⟩

/-- A header and what follows it, with the checksums apart from the rest. -/
def layout (greSum ipSum tcpSum : List UInt8) (ipProtocol flags : UInt8) (addresses rest : List UInt8) :
    List UInt8 :=
  [0, 1, 8, 0] ++ greSum ++ [0x40, 0, 0, 148, 0, 0, 0, 0, 0, ipProtocol] ++ ipSum ++ addresses ++
    [67, 198, 67, 198, 0, 0, 0, 0, 0, 0, 0, 0, 0, flags, 0, 0] ++ tcpSum ++ ([0, 0] ++ rest)

lemma layout_agree {g g' s s' t t' addresses : List UInt8} (hg : g.length = 2) (hg' : g'.length = 2)
    (hs : s.length = 2) (hs' : s'.length = 2) (ht : t.length = 2) (ht' : t'.length = 2)
    (haddr : addresses.length = 8) (ipProtocol flags : UInt8) (rest : List UInt8) {i : Nat}
    (hi : i ∉ checksumFields) :
    (layout g s t ipProtocol flags addresses rest)[i]? =
      (layout g' s' t' ipProtocol flags addresses rest)[i]? := by
  let ip := [0x40, 0, 0, 148, 0, 0, 0, 0, 0, ipProtocol]
  let tcp := [67, 198, 67, 198, 0, 0, 0, 0, 0, 0, 0, 0, 0, flags, 0, 0]
  simp only [checksumFields, List.mem_cons, List.not_mem_nil, or_false, not_or] at hi
  have hgre : ([0, 1, 8, 0] : List UInt8).length = 4 := rfl
  have hsum : ([0, 1, 8, 0] ++ g' ++ ip).length = 16 := by
    rw [List.length_append, List.length_append, hg']
    rfl
  have htcp : ([0, 1, 8, 0] ++ g' ++ ip ++ s' ++ addresses ++ tcp).length = 42 := by
    rw [List.length_append, List.length_append, List.length_append, hsum, hs', haddr]
    rfl
  calc (layout g s t ipProtocol flags addresses rest)[i]?
      = ([0, 1, 8, 0] ++ g ++ (ip ++ s ++ addresses ++ tcp ++ t ++ ([0, 0] ++ rest)))[i]? := by
        simp only [layout, List.append_assoc, ip, tcp]
    _ = ([0, 1, 8, 0] ++ g' ++ (ip ++ s ++ addresses ++ tcp ++ t ++ ([0, 0] ++ rest)))[i]? :=
        getElem?_append_of_outside _ _ (by rw [hg, hg']) (by rw [hgre, hg]; omega)
    _ = ([0, 1, 8, 0] ++ g' ++ ip ++ s ++ (addresses ++ tcp ++ t ++ ([0, 0] ++ rest)))[i]? := by
        simp only [List.append_assoc]
    _ = ([0, 1, 8, 0] ++ g' ++ ip ++ s' ++ (addresses ++ tcp ++ t ++ ([0, 0] ++ rest)))[i]? :=
        getElem?_append_of_outside _ _ (by rw [hs, hs']) (by rw [hsum, hs]; omega)
    _ = ([0, 1, 8, 0] ++ g' ++ ip ++ s' ++ addresses ++ tcp ++ t ++ ([0, 0] ++ rest))[i]? := by
        simp only [List.append_assoc]
    _ = (layout g' s' t' ipProtocol flags addresses rest)[i]? :=
        getElem?_append_of_outside _ _ (by rw [ht, ht']) (by rw [htcp, ht]; omega)

lemma plainPacket_layout (order : ByteOrder) (ipSrc ipDest payload : CString) (ipProtocol flags : UInt8) :
    plainPacket order ipSrc ipDest ipProtocol payload flags =
      layout (bytes16 order (freshGre order).greSum)
        (bytes16 order (freshIp order ipSrc ipDest ipProtocol).ipSum)
        (bytes16 order (freshTcp order flags).tcpSum) ipProtocol flags
        (bytes32 order (parseIpAddr ipSrc) ++ bytes32 order (parseIpAddr ipDest))
        (payload.bytes.take (keptLength payload.length) ++
          calloc (fieldSize ipProtocol - keptLength payload.length)) := by
  rw [plainPacket, header_eq, layout]
  simp only [List.append_assoc]

lemma plainPacket_agree (src dest : DottedQuad) (payload : CString) (flags : UInt8)
    (hsrc : src.Palindromic) (hdest : dest.Palindromic) (i : Nat) (hi : i ∉ checksumFields) :
    (plainPacket .little src.text dest.text ipProtocolTcp payload flags)[i]? =
      (plainPacket .big src.text dest.text ipProtocolTcp payload flags)[i]? := by
  rw [plainPacket_layout, plainPacket_layout, bytes32_little_value, bytes32_big_value,
    bytes32_little_value, bytes32_big_value, hsrc.1, hsrc.2, hdest.1, hdest.2]
  exact layout_agree (length_bytes16 ..) (length_bytes16 ..) (length_bytes16 ..) (length_bytes16 ..)
    (length_bytes16 ..) (length_bytes16 ..) rfl ipProtocolTcp flags _ hi

/-- The wire image is portable exactly when both addresses are palindromic: a little-endian
host stores them least significant octet first. -/
theorem builderPortable_iff (src dest : DottedQuad) (payload : CString) (flags : UInt8)
    (hlen : payload.length ≤ 127) :
    BuilderPortable src dest payload flags ↔ src.Palindromic ∧ dest.Palindromic := by
  have hmod : payload.length % 4294967296 ≤ 128 := (Nat.mod_le _ _).trans (by omega)
  obtain ⟨hsl, hdl⟩ := addressBytes_plainPacket .little src dest payload flags
  obtain ⟨hsb, hdb⟩ := addressBytes_plainPacket .big src dest payload flags
  rw [bytes32_little_value] at hsl hdl
  rw [bytes32_big_value] at hsb hdb
  unfold BuilderPortable
  rw [createPacketsDes_eq _ _ _ _ _ _ hmod, createPacketsDes_eq _ _ _ _ _ _ hmod]
  constructor
  · rintro ⟨p, q, hp, hq, -, ⟨hs, hd⟩, -⟩
    rw [Mem.pure_inj] at hp
    subst hp
    rw [hsl, DottedQuad.octets] at hs
    rw [hdl, DottedQuad.octets] at hd
    simp only [List.cons.injEq] at hs hd
    exact ⟨⟨hs.1.symm, hs.2.1.symm⟩, ⟨hd.1.symm, hd.2.1.symm⟩⟩
  · rintro ⟨hsrc, hdest⟩
    refine ⟨_, _, rfl, rfl, plainPacket_agree src dest payload flags hsrc hdest, ⟨?_, ?_⟩, hsb, hdb⟩
    · rw [hsl, DottedQuad.octets, hsrc.1, hsrc.2]
    · rw [hdl, DottedQuad.octets, hdest.1, hdest.2]

theorem builderPortable_palindromic :
    BuilderPortable (printedQuad 0x0A00000A) (printedQuad 0x0B00000B) (.lit "payload") tcpFlagSyn :=
  (builderPortable_iff (printedQuad 0x0A00000A) (printedQuad 0x0B00000B) (.lit "payload")
    tcpFlagSyn (by decide)).mpr ⟨⟨by decide, by decide⟩, by decide, by decide⟩

/-- The reply of host `h3` to host `h2`: a little-endian `h3` sends 3.0.0.10 as its address. -/
theorem not_builderPortable_hosts :
    ¬ BuilderPortable (printedQuad 0x0A000003) (printedQuad 0x0A000002)
      (.lit "Hello from the other side!") tcpFlagAck := by
  rintro ⟨p, q, hp, -, -, ⟨hs, -⟩, -⟩
  have h : (createPacketsDes .little (printedQuad 0x0A000003).text (printedQuad 0x0A000002).text
      ipProtocolTcp (.lit "Hello from the other side!") tcpFlagAck >>= fun p =>
        pure (ipSrcBytes p)) = pure [3, 0, 0, 10] := by
    decide +kernel
  rw [hp, pure_bind, Mem.pure_inj, hs] at h
  exact absurd h (by decide)

end SimpleVpn
