import SimpleVpn.Proofs.Tunnel

/-!
# Reception and TCP segmentation

The receiver calls `recv` once. What it makes of a stream is decided by the first chunk, and a
later byte is missing from the packet exactly when it is not zero.
-/

namespace SimpleVpn

open CLang

/-- A way to deliver a byte string: successive results of `recv`, none of them empty. -/
structure Segmentation (bytes : List UInt8) where
  chunks : List (List UInt8)
  nonempty : ∀ c ∈ chunks, c ≠ []
  flatten : chunks.flatten = bytes

namespace Segmentation

variable {bytes : List UInt8} (s : Segmentation bytes)

def first : List UInt8 := s.chunks.headD []

lemma first_prefix : s.first <+: bytes := by
  obtain ⟨chunks, hne, hflat⟩ := s
  cases chunks with
  | nil => exact List.nil_prefix
  | cons c cs => exact ⟨cs.flatten, hflat⟩

end Segmentation

lemma getElem?_decrypted (k : Key) (packet : Buf) {i : Nat} (hi : i ≠ 46 + textLength packet) :
    (decrypted k packet)[i]? = packet[i]?.map (· ^^^ k.at i) := by
  rw [decrypted, List.getElem?_set_ne (Ne.symm hi), getElem?_xorFrom, Nat.zero_add]

lemma getElem?_textLength {packet : Buf} (h : 0 ∈ packet.drop 46) :
    packet[46 + textLength packet]? = some 0 := by
  rw [← List.getElem?_drop]
  exact CString.getElem?_length_textOf h

lemma getElem?_decrypted_textLength (k : Key) {packet : Buf} (h : 0 ∈ packet.drop 46) :
    (decrypted k packet)[46 + textLength packet]? = some 0 := by
  have hlt : 46 + textLength packet < (xorFrom k 0 packet).length := by
    have := textLength_lt h
    rw [length_xorFrom]
    omega
  rw [decrypted, List.getElem?_set_self hlt]

/-- Equal packets were cut at the same place: at the cut of the second packet the first one
would hold a key byte. -/
lemma textLength_eq_of_decrypted {a t : List UInt8} (hnul : 0 ∈ (a ++ t).drop 46)
    (hdec : decrypted key (a ++ calloc t.length) = decrypted key (a ++ t)) :
    textLength (a ++ calloc t.length) = textLength (a ++ t) := by
  by_contra hne
  have hend : (a ++ t)[46 + textLength (a ++ t)]? = some 0 := getElem?_textLength hnul
  have hcut := getElem?_decrypted_textLength key hnul
  rw [← hdec, getElem?_decrypted key _ (by omega), Option.map_eq_some_iff] at hcut
  obtain ⟨v, hv, hzero⟩ := hcut
  have hkey : v = key.at (46 + textLength (a ++ t)) := (xor_eq_zero _ _).mp hzero
  have hv0 : v = 0 := by
    by_cases hi : 46 + textLength (a ++ t) < a.length
    · rw [List.getElem?_append_left hi] at hv hend
      rw [hv] at hend
      exact Option.some.inj hend
    · rw [List.getElem?_append_right (by omega)] at hv
      exact List.eq_of_mem_replicate (List.mem_of_getElem? hv)
  exact key_at_ne_zero _ (hkey.symm.trans hv0)

lemma eq_calloc_of_decrypted {a t : List UInt8} (hnul : 0 ∈ (a ++ calloc t.length).drop 46)
    (hnul' : 0 ∈ (a ++ t).drop 46)
    (hdec : decrypted key (a ++ calloc t.length) = decrypted key (a ++ t)) :
    t = calloc t.length := by
  have hcut := textLength_eq_of_decrypted hnul' hdec
  have hend := getElem?_textLength hnul
  have hend' := getElem?_textLength hnul'
  have hbytes : ∀ i : Nat, (a ++ calloc t.length)[i]? = (a ++ t)[i]? := by
    intro i
    by_cases hi : i = 46 + textLength (a ++ t)
    · rw [hi, hend', ← hcut, hend]
    · have hi' : i ≠ 46 + textLength (a ++ calloc t.length) := by
        rw [hcut]
        exact hi
      have h : (decrypted key (a ++ calloc t.length))[i]? = (decrypted key (a ++ t))[i]? := by
        rw [hdec]
      rw [getElem?_decrypted key _ hi, getElem?_decrypted key _ hi'] at h
      refine Option.map_injective ?_ h
      intro x y hxy
      have hx := congrArg (· ^^^ key.at i) hxy
      simpa only [xor_xor_key] using hx
  exact (List.append_cancel_left (List.ext_getElem? hbytes)).symm

/-- Two buffers of which one continues a prefix by zeros give the same result only if they are
equal. -/
theorem recover_padded_iff {a t : List UInt8} (hlen : (a ++ t).length = pktSize) :
    recover key (a ++ calloc t.length) = recover key (a ++ t) ↔ t = calloc t.length := by
  have hlen' : (a ++ calloc t.length).length = pktSize := by
    rw [List.length_append, length_calloc, ← List.length_append, hlen]
  have hsize : a.length + t.length = 174 := by
    rw [← List.length_append]
    exact hlen
  constructor
  · intro heq
    by_cases hempty : t.length = 0
    · rw [hempty, List.length_eq_zero_iff.mp hempty]
      rfl
    · have hnul : 0 ∈ (a ++ calloc t.length).drop 46 := by
        rw [List.drop_append, List.mem_append, calloc, List.drop_replicate, List.mem_replicate]
        exact .inr ⟨by omega, rfl⟩
      rw [recover_of_mem key hlen' hnul] at heq
      by_cases hnul' : 0 ∈ (a ++ t).drop 46
      · rw [recover_of_mem key hlen hnul', Mem.pure_inj] at heq
        exact eq_calloc_of_decrypted hnul hnul' heq
      · rw [recover_of_not_mem key hlen hnul'] at heq
        exact absurd heq.symm (Mem.fault_ne_pure _ _)
  · intro ht
    rw [← ht]

/-- The packet does not depend on the segmentation exactly when the bytes that the first `recv`
leaves behind are zero. -/
lemma receives_segmentation_iff (sockfd : Fd) {bytes : List UInt8} (s : Segmentation bytes) :
    receives (servRecFromCli key sockfd) s.chunks = receives (servRecFromCli key sockfd) [bytes] ↔
      ∀ b ∈ (bytes.take pktSize).drop s.first.length, b = 0 := by
  let w := bytes.take pktSize
  let a := w.take s.first.length
  let r := w.drop s.first.length
  let t := r ++ calloc (pktSize - w.length)
  have hw : w.length ≤ pktSize := List.length_take_le _ _
  have hsplit : a ++ r = w := List.take_append_drop _ _
  have hlen : (a ++ t).length = pktSize := by
    rw [← List.append_assoc, hsplit, List.length_append, length_calloc]
    omega
  have hfirst : s.first.take pktSize = a := by
    have hprefix := List.prefix_iff_eq_take.mp s.first_prefix
    calc s.first.take pktSize = (bytes.take s.first.length).take pktSize := by rw [← hprefix]
      _ = a := by rw [List.take_take, Nat.min_comm, ← List.take_take]
  have hwhole : received pktSize (World.next [bytes] pktSize) = a ++ t := by
    rw [received_eq, ← List.append_assoc, hsplit]
    rfl
  have hpart : received pktSize (World.next s.chunks pktSize) = a ++ calloc t.length := by
    have hnext : (World.next s.chunks pktSize).val = a := hfirst
    have hpad : pktSize - a.length = t.length := by
      rw [List.length_append] at hlen
      omega
    rw [received_eq, hnext, hpad]
  have hzero : t = calloc t.length ↔ ∀ b ∈ r, b = 0 := by
    rw [calloc, List.eq_replicate_iff, List.forall_mem_append]
    constructor
    · rintro ⟨-, hr, -⟩
      exact hr
    · intro hr
      exact ⟨rfl, hr, fun b hb => List.eq_of_mem_replicate hb⟩
  rw [receives_servRecFromCli, receives_servRecFromCli, Mem.map_inj (Option.some_injective _), hwhole, hpart,
    recover_padded_iff hlen, hzero]

/-- Whichever sender put the bytes on the wire, the receiver's packet does not depend on the
segmentation exactly when the bytes after the first `recv`, up to the size of a packet, are
zero. -/
theorem segmentation_iff (sockfd sockfd' : Fd) (packet : Buf) (ipProtocol payloadSize : UInt8)
    {bytes : List UInt8} (s : Segmentation bytes) :
    ((sends (sendAndFreePacketVpn sockfd packet ipProtocol payloadSize)).Returns [bytes] →
      (receives (servRecFromCli key sockfd') s.chunks = receives (servRecFromCli key sockfd') [bytes] ↔
        ∀ b ∈ (bytes.take pktSize).drop s.first.length, b = 0)) ∧
    ((sends (servCliEncryptFree key sockfd packet ipProtocol payloadSize)).Returns [bytes] →
      (receives (servRecFromCli key sockfd') s.chunks = receives (servRecFromCli key sockfd') [bytes] ↔
        ∀ b ∈ (bytes.take pktSize).drop s.first.length, b = 0)) :=
  ⟨fun _ => receives_segmentation_iff sockfd' s, fun _ => receives_segmentation_iff sockfd' s⟩

def Segmentation.two (bytes : List UInt8) (n : Nat) (hpos : 0 < n) (hn : n < bytes.length) :
    Segmentation bytes where
  chunks := [bytes.take n, bytes.drop n]
  nonempty := by
    intro c hc
    rw [← List.length_pos_iff]
    simp only [List.mem_cons, List.not_mem_nil, or_false] at hc
    rcases hc with rfl | rfl
    · rw [List.length_take]
      omega
    · rw [List.length_drop]
      omega
  flatten := by
    rw [List.flatten_cons, List.flatten_cons, List.flatten_nil, List.append_nil,
      List.take_append_drop]

def clientWire : List UInt8 :=
  wire key clientPayload (header .little (.lit "10.0.0.1") (.lit "10.0.0.3") ipProtocolTcp tcpFlagSyn)

theorem segmentation_zero_tail :
    receives (servRecFromCli key 4) [1 :: calloc 19, calloc 26] =
      receives (servRecFromCli key 4) [1 :: calloc 45] :=
  ((segmentation_iff 3 4 (1 :: calloc 173) ipProtocolTcp 0
    (Segmentation.two (1 :: calloc 45) 20 (by decide) (by decide))).1 (by decide +kernel)).mpr
    (by decide +kernel)

/-- A segment boundary inside the headers of the client's packet gives another packet. -/
theorem not_segmentation_clientWire :
    (sends (sendMessage .little key 3 (.lit "10.0.0.1") (.lit "10.0.0.3") clientPayload
      tcpFlagSyn)).Returns [clientWire] ∧
    ∃ s : Segmentation clientWire, receives (servRecFromCli key 4) s.chunks ≠
      receives (servRecFromCli key 4) [clientWire] := by
  constructor
  · rw [sends_sendMessage _ _ _ _ _ _ _ (by decide)]
    exact Mem.returns_pure _
  · refine ⟨Segmentation.two clientWire 20 (by decide) (by decide +kernel), ?_⟩
    rw [Ne, receives_segmentation_iff]
    decide +kernel

end SimpleVpn
