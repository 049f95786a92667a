import SimpleVpn.Lib.ByteOrder

/-!
# Checksums

The functions of `utils.c`.
-/

namespace SimpleVpn

open CLang

/-- The first loop of `cksum` with its odd tail. -/
def cksumSum (sum : UInt32) : List UInt8 → UInt32
  | d0 :: d1 :: data => cksumSum (sum + ((d0.toUInt32 <<< 8) ||| d1.toUInt32)) data
  | [d0] => sum + (d0.toUInt32 <<< 8)
  | [] => sum

/-- The sum of the two halves of the accumulator does not overflow. -/
lemma toNat_addHalves (sum : UInt32) :
    ((sum >>> 16) + (sum &&& 0xffff)).toNat = sum.toNat / 65536 + sum.toNat % 65536 := by
  have hmax := sum.toNat_lt
  have hhi : (sum >>> 16).toNat = sum.toNat / 65536 := by
    simp [UInt32.toNat_shiftRight, Nat.shiftRight_eq_div_pow]
  have hlo : (sum &&& 0xffff).toNat = sum.toNat % 65536 := by
    simpa using Nat.and_two_pow_sub_one_eq_mod sum.toNat 16
  rw [UInt32.toNat_add, hhi, hlo]
  exact Nat.mod_eq_of_lt (by omega)

lemma cksumFold_decreases {sum : UInt32} (h : 0xffff < sum) :
    ((sum >>> 16) + (sum &&& 0xffff)).toNat < sum.toNat := by
  have hlt : 65535 < sum.toNat := h
  rw [toNat_addHalves]
  omega

def cksumFold (sum : UInt32) : UInt32 :=
  if 0xffff < sum then cksumFold ((sum >>> 16) + (sum &&& 0xffff)) else sum
termination_by sum.toNat
decreasing_by exact cksumFold_decreases ‹_›

def cksum (order : ByteOrder) (data : List UInt8) : UInt16 :=
  let sum := cksumFold (cksumSum 0 data)
  let sum := (htons order (~~~sum).toUInt16).toUInt32
  if sum ≠ 0 then sum.toUInt16 else 0xffff

def verifyChecksum (order : ByteOrder) (buf : List UInt8) (oldCksum : UInt16) : Int :=
  if cksum order buf = oldCksum then 0 else -1

end SimpleVpn
