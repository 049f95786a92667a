import SimpleVpn.Lib.Mem
import SimpleVpn.Proofs.Checksum

/-!
# The checksum and its verification

On buffers of at most 131074 bytes `cksum` is the Internet checksum, and `verify_checksum` accepts
exactly the buffers whose word sum has the same residue modulo 65535.
-/

namespace SimpleVpn

open CLang

variable (order : ByteOrder)

theorem cksum_eq_internetChecksum {data : List UInt8} (h : data.length ≤ 131074) :
    cksum order data = internetChecksum order data := by
  rw [cksum_eq order data h, internetChecksum_eq]

lemma wordSum_bytes16_htons (v : UInt16) : wordSum (bytes16 order (htons order v)) = v.toNat := by
  rw [bytes16_htons, wordSum, wordSum, Nat.add_zero, toNat_hi16, toNat_lo16]
  omega

/-- Two zero bytes between the bytes before and after them. -/
lemma split_field {data : List UInt8} {i : Nat} (h0 : data[i]? = some 0) (h1 : data[i + 1]? = some 0) :
    data = data.take i ++ ([0, 0] ++ data.drop (i + 2)) := by
  obtain ⟨hi, h0⟩ := List.getElem?_eq_some_iff.mp h0
  obtain ⟨hi', h1⟩ := List.getElem?_eq_some_iff.mp h1
  have hdrop : data.drop i = [0, 0] ++ data.drop (i + 2) := by
    rw [List.drop_eq_getElem_cons hi, List.drop_eq_getElem_cons hi', h0, h1]
    rfl
  rw [← hdrop, List.take_append_drop]

/-- With its checksum in a zero field a buffer has a word sum divisible by 65535. -/
theorem cksum_completed {data : List UInt8} {i : Nat} (hlen : data.length ≤ 131074)
    (hi : i % 2 = 0) (h0 : data[i]? = some 0) (h1 : data[i + 1]? = some 0) :
    cksum order (overwrite data i (bytes16 order (cksum order data))) = 0xffff := by
  have hsplit := split_field h0 h1
  have hfield : i + (bytes16 order (cksum order data)).length ≤ data.length := by
    obtain ⟨hi', -⟩ := List.getElem?_eq_some_iff.mp h1
    rw [length_bytes16]
    exact hi'
  have htake : (data.take i).length % 2 = 0 := by
    rw [length_bytes16] at hfield
    rw [List.length_take_of_le (by omega)]
    exact hi
  have hsum : wordSum data = wordSum (data.take i) + wordSum (data.drop (i + 2)) := by
    have hzero : wordSum ([0, 0] ++ data.drop (i + 2)) = wordSum (data.drop (i + 2)) := by
      rw [wordSum_append rfl]
      exact Nat.zero_add _
    rw [← hzero, ← wordSum_append htake, ← hsplit]
  have hcompleted : wordSum (overwrite data i (bytes16 order (cksum order data))) =
      wordSum data + (65535 - wordSum data % 65535) := by
    rw [overwrite, length_bytes16, List.append_assoc, wordSum_append htake,
      wordSum_append (by rw [length_bytes16]), cksum_eq order data hlen, wordSum_bytes16_htons,
      toNat_complement, hsum]
    omega
  have hmod : wordSum (overwrite data i (bytes16 order (cksum order data))) % 65535 = 0 := by
    rw [hcompleted]
    omega
  rw [cksum_eq order _ (by rw [length_overwrite hfield]; exact hlen), hmod]
  cases order <;> rfl

/-- With 65538 words of ones the accumulator overflows, and the lost carry changes the checksum. -/
lemma cksum_overflow :
    cksum order (List.replicate 131076 0xff) ≠ internetChecksum order (List.replicate 131076 0xff) := by
  have hsum : wordSum (List.replicate 131076 0xff) = 4295032830 := wordSum_replicate 65538
  rw [cksum_eq_mod, internetChecksum_eq, hsum]
  cases order <;> decide

/-- Up to 131074 bytes `cksum` is the Internet checksum, and a buffer that is completed with it has the
checksum `0xffff`. With two more bytes a carry out of 32 bits can be lost. -/
theorem cksum_internet :
    (∀ data : List UInt8, data.length ≤ 131074 → cksum order data = internetChecksum order data) ∧
    (∀ (data : List UInt8) (i : Nat), data.length ≤ 131074 → data.length % 2 = 0 → i % 2 = 0 →
      data[i]? = some 0 → data[i + 1]? = some 0 →
      cksum order (overwrite data i (bytes16 order (cksum order data))) = 0xffff) ∧
    ∃ data : List UInt8, data.length = 131076 ∧ 4294967296 ≤ wordSum data ∧
      cksum order data ≠ internetChecksum order data := by
  refine ⟨fun data h => cksum_eq_internetChecksum order h, ?_, List.replicate 131076 0xff, ?_, ?_, ?_⟩
  · intro data i hlen _ hi h0 h1
    exact cksum_completed order hlen hi h0 h1
  · exact List.length_replicate
  · rw [show wordSum (List.replicate 131076 0xff) = _ from wordSum_replicate 65538]
    decide
  · exact cksum_overflow order

/-- The fresh GRE header, completed with its checksum. -/
theorem cksum_internet_gre :
    cksum .little [0, 1, 8, 0, 0, 0] = internetChecksum .little [0, 1, 8, 0, 0, 0] ∧
    cksum .little (overwrite [0, 1, 8, 0, 0, 0] 4
      (bytes16 .little (cksum .little [0, 1, 8, 0, 0, 0]))) = 0xffff :=
  ⟨(cksum_internet .little).1 _ (by decide),
    (cksum_internet .little).2.1 _ 4 (by decide) rfl rfl rfl rfl⟩

lemma verifyChecksum_eq_zero (buf : List UInt8) (oldCksum : UInt16) :
    verifyChecksum order buf oldCksum = 0 ↔ cksum order buf = oldCksum := by
  by_cases h : cksum order buf = oldCksum
  · rw [verifyChecksum, if_pos h]
    exact ⟨fun _ => h, fun _ => rfl⟩
  · rw [verifyChecksum, if_neg h]
    constructor
    · intro h0
      cases h0
    · intro h'
      exact absurd h' h

variable {a b : List UInt8}

theorem verifyChecksum_iff (hlen : a.length = b.length) (ha : a.length ≤ 131074) :
    verifyChecksum order b (cksum order a) = 0 ↔ wordSum a ≡ wordSum b [MOD 65535] := by
  rw [verifyChecksum_eq_zero, cksum_inj order (hlen ▸ ha) ha]
  exact eq_comm

lemma wordSum_of_perm (h : (alignedWords a).Perm (alignedWords b)) : wordSum a = wordSum b := by
  rw [wordSum_eq_sum, wordSum_eq_sum]
  exact (h.map _).sum_eq

/-- Two words with the same residue are equal, or they are the two representations of zero. -/
lemma modEq_words_iff (x y : UInt16) : x.toNat ≡ y.toNat [MOD 65535] ↔
    x = y ∨ (x = 0 ∧ y = 0xffff) ∨ (x = 0xffff ∧ y = 0) := by
  have hx := x.toNat_lt
  have hy := y.toNat_lt
  have hzero : (0 : UInt16).toNat = 0 := rfl
  have hones : (0xffff : UInt16).toNat = 65535 := rfl
  simp only [Nat.ModEq, ← UInt16.toNat_inj, hzero, hones]
  omega

/-- A corruption of one word passes when the word changes between the two representations of zero. -/
lemma modEq_of_set {i : Nat} {x y : UInt16} (hx : (alignedWords a)[i]? = some x)
    (hb : alignedWords b = (alignedWords a).set i y) :
    wordSum a ≡ wordSum b [MOD 65535] ↔ x.toNat ≡ y.toNat [MOD 65535] := by
  have hsum : wordSum b + x.toNat = wordSum a + y.toNat := by
    rw [wordSum_eq_sum, wordSum_eq_sum, hb, List.map_set]
    exact sum_set_add (by rw [List.getElem?_map, hx, Option.map_some]) _
  unfold Nat.ModEq
  omega

/-- `verify_checksum` accepts a buffer for the checksum of another exactly when their word sums agree
modulo 65535. It accepts an unchanged buffer and every permutation of the words, and it detects every
change of one word except the exchange of the two representations of zero. -/
theorem verifyChecksum_detects (hlen : a.length = b.length) (ha : a.length ≤ 131074) :
    (verifyChecksum order b (cksum order a) = 0 ↔ wordSum a ≡ wordSum b [MOD 65535]) ∧
    verifyChecksum order a (cksum order a) = 0 ∧
    ((alignedWords a).Perm (alignedWords b) → verifyChecksum order b (cksum order a) = 0) ∧
    ∀ (i : Nat) (x y : UInt16), (alignedWords a)[i]? = some x →
      alignedWords b = (alignedWords a).set i y →
      (verifyChecksum order b (cksum order a) = 0 ↔
        x = y ∨ (x = 0 ∧ y = 0xffff) ∨ (x = 0xffff ∧ y = 0)) := by
  have hiff := verifyChecksum_iff order hlen ha
  refine ⟨hiff, (verifyChecksum_eq_zero order a _).mpr rfl, ?_, ?_⟩
  · intro hperm
    rw [hiff, wordSum_of_perm hperm]
  · intro i x y hx hb
    rw [hiff, modEq_of_set hx hb, modEq_words_iff]

/-- Three bytes with their two words exchanged are accepted, and so is a word `0x0000` that has become
`0xffff`. -/
theorem verifyChecksum_detects_words :
    verifyChecksum .little [8, 0, 1, 2, 9] (cksum .little [1, 2, 8, 0, 9]) = 0 ∧
    verifyChecksum .little [0xff, 0xff] (cksum .little [0, 0]) = 0 := by
  have hperm := verifyChecksum_detects .little (a := [1, 2, 8, 0, 9]) (b := [8, 0, 1, 2, 9]) rfl (by decide)
  have hzero := verifyChecksum_detects .little (a := [0, 0]) (b := [0xff, 0xff]) rfl (by decide)
  exact ⟨hperm.2.2.1 (.swap _ _ _), (hzero.2.2.2 0 0 0xffff rfl rfl).mpr (.inr (.inl ⟨rfl, rfl⟩))⟩

end SimpleVpn
