import SimpleVpn.Lib.OnesComplement
import SimpleVpn.Model.Protocol
import SimpleVpn.Model.Utils

/-!
# The checksum in closed form

`cksum` is the complement modulo 65535 of the word sum that the 32-bit accumulator holds, in network
order. A buffer of at most 131074 bytes does not overflow the accumulator.
-/

namespace SimpleVpn

open CLang

lemma toNat_word (d0 d1 : UInt8) :
    ((d0.toUInt32 <<< 8) ||| d1.toUInt32).toNat = 256 * d0.toNat + d1.toNat := by
  have h0 := d0.toNat_lt
  have h1 := d1.toNat_lt
  have hshift : (d0.toUInt32 <<< 8).toNat = d0.toNat <<< 8 := by
    rw [UInt32.toNat_shiftLeft, UInt8.toNat_toUInt32, Nat.shiftLeft_eq, Nat.shiftLeft_eq]
    exact Nat.mod_eq_of_lt (by change d0.toNat * 256 < 4294967296; omega)
  rw [UInt32.toNat_or, hshift, UInt8.toNat_toUInt32, ← Nat.shiftLeft_add_eq_or_of_lt (i := 8) (by omega),
    Nat.shiftLeft_eq]
  omega

lemma toNat_oddWord (d0 : UInt8) : (d0.toUInt32 <<< 8).toNat = 256 * d0.toNat := by
  have h := toNat_word d0 0
  rw [UInt32.toNat_or] at h
  simpa using h

/-- The accumulator loses the carries out of 32 bits. -/
lemma toNat_cksumSum (sum : UInt32) (data : List UInt8) :
    (cksumSum sum data).toNat = (sum.toNat + wordSum data) % 4294967296 := by
  induction sum, data using cksumSum.induct with
  | case1 sum d0 d1 data ih =>
    have hadd : (sum + ((d0.toUInt32 <<< 8) ||| d1.toUInt32)).toNat =
        (sum.toNat + (256 * d0.toNat + d1.toNat)) % 4294967296 := by
      rw [UInt32.toNat_add, toNat_word]
    rw [cksumSum, ih, hadd, wordSum]
    omega
  | case2 sum d0 =>
    rw [cksumSum, UInt32.toNat_add, toNat_oddWord, wordSum]
  | case3 sum =>
    rw [cksumSum, wordSum, Nat.add_zero]
    exact (Nat.mod_eq_of_lt sum.toNat_lt).symm

lemma toNat_cksumFold (sum : UInt32) : (cksumFold sum).toNat = foldCarry sum.toNat := by
  induction sum using cksumFold.induct with
  | case1 sum h ih =>
    have hlt : 65535 < sum.toNat := h
    have hstep : foldCarry sum.toNat = foldCarry (sum.toNat / 65536 + sum.toNat % 65536) := by
      rw [foldCarry, if_pos hlt]
    rw [cksumFold, if_pos h, ih, toNat_addHalves, hstep]
  | case2 sum h =>
    have hle : ¬ 65535 < sum.toNat := h
    rw [cksumFold, if_neg h, foldCarry, if_neg hle]

lemma cksum_patched (order : ByteOrder) {r : UInt32} (hr : r.toNat ≤ 65535) :
    (if (htons order (~~~r).toUInt16).toUInt32 ≠ 0 then
      (htons order (~~~r).toUInt16).toUInt32.toUInt16 else 0xffff) =
    htons order (UInt16.ofNat (if 65535 - r.toNat = 0 then 65535 else 65535 - r.toNat)) := by
  have hmax := r.toNat_lt
  have hcompl : (~~~r).toUInt16.toNat = 65535 - r.toNat := by
    rw [UInt32.toNat_toUInt16, UInt32.toNat_not]
    change (4294967296 - 1 - r.toNat) % 65536 = _
    omega
  have hzero : (htons order (~~~r).toUInt16).toUInt32 = 0 ↔ 65535 - r.toNat = 0 := by
    rw [← hcompl, ← UInt32.toNat_inj, UInt16.toNat_toUInt32]
    change (htons order (~~~r).toUInt16).toNat = (0 : UInt16).toNat ↔ _ = (0 : UInt16).toNat
    rw [UInt16.toNat_inj, UInt16.toNat_inj, htons_eq_zero]
  by_cases h : 65535 - r.toNat = 0
  · rw [if_neg (not_not_intro (hzero.mpr h)), if_pos h]
    cases order <;> rfl
  · rw [if_pos (fun h0 => h (hzero.mp h0)), if_neg h, UInt16.toUInt16_toUInt32, ← hcompl,
      UInt16.ofNat_toNat]

theorem cksum_eq_mod (order : ByteOrder) (data : List UInt8) : cksum order data =
    htons order (UInt16.ofNat (65535 - wordSum data % 4294967296 % 65535)) := by
  have hsum : (cksumSum 0 data).toNat = wordSum data % 4294967296 := by
    rw [toNat_cksumSum]
    exact congrArg (· % 4294967296) (Nat.zero_add _)
  have hfold : (cksumFold (cksumSum 0 data)).toNat = foldCarry (wordSum data % 4294967296) := by
    rw [toNat_cksumFold, hsum]
  have hr : (cksumFold (cksumSum 0 data)).toNat ≤ 65535 := by
    rw [hfold]
    exact foldCarry_le _
  have hpatched := cksum_patched order hr
  rw [hfold, complement_foldCarry] at hpatched
  exact hpatched

/-- No carry is lost in a buffer of at most 131074 bytes. -/
lemma wordSum_lt {data : List UInt8} (h : data.length ≤ 131074) : wordSum data < 4294967296 := by
  have hle := wordSum_le data
  omega

theorem cksum_eq (order : ByteOrder) (data : List UInt8) (h : data.length ≤ 131074) :
    cksum order data = htons order (UInt16.ofNat (65535 - wordSum data % 65535)) := by
  rw [cksum_eq_mod, Nat.mod_eq_of_lt (wordSum_lt h)]

section Headers

variable (order : ByteOrder)

lemma GreHdr.length_toBytes_le (h : GreHdr) : (h.toBytes order).length ≤ 131074 :=
  (h.length_toBytes order).le.trans (by decide)

lemma IpHdr.length_toBytes_le (h : IpHdr) : (h.toBytes order).length ≤ 131074 :=
  (h.length_toBytes order).le.trans (by decide)

lemma TcpHdr.length_toBytes_le (h : TcpHdr) : (h.toBytes order).length ≤ 131074 :=
  (h.length_toBytes order).le.trans (by decide)

end Headers

/-- Two short buffers have the same checksum exactly when their word sums agree modulo 65535. -/
lemma cksum_inj (order : ByteOrder) {a b : List UInt8} (ha : a.length ≤ 131074)
    (hb : b.length ≤ 131074) :
    cksum order a = cksum order b ↔ wordSum a % 65535 = wordSum b % 65535 := by
  rw [cksum_eq order a ha, cksum_eq order b hb]
  constructor
  · intro h
    have hval := congrArg (fun v => (htons order v).toNat) h
    simp only [htons_htons, UInt16.toNat_ofNat'] at hval
    omega
  · intro h
    rw [h]

end SimpleVpn
