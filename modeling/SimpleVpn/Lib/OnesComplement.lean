import SimpleVpn.Lib.ByteOrder
import Mathlib.Algebra.BigOperators.Group.List.Basic
import Mathlib.Data.Nat.ModEq
import Mathlib.Tactic.Lemma

/-!
# The Internet checksum

The sum of the 16-bit words of a byte string, its reduction to 16 bits by adding the carry back,
and the checksum that is its complement. The reduction keeps the sum modulo 65535 and does not reach
zero from a positive sum, so the checksum tells exactly the sums modulo 65535 apart.
-/

namespace CLang

/-- The sum of the big-endian 16-bit words; an odd last byte is the high half of a word. -/
def wordSum : List UInt8 → Nat
  | d0 :: d1 :: data => 256 * d0.toNat + d1.toNat + wordSum data
  | [d0] => 256 * d0.toNat
  | [] => 0

lemma wordSum_le (data : List UInt8) : wordSum data ≤ 65535 * ((data.length + 1) / 2) := by
  induction data using wordSum.induct with
  | case1 d0 d1 data ih =>
    have := d0.toNat_lt
    have := d1.toNat_lt
    rw [wordSum, List.length_cons, List.length_cons]
    omega
  | case2 d0 =>
    have := d0.toNat_lt
    rw [wordSum, List.length_singleton]
    omega
  | case3 => exact Nat.zero_le _

lemma wordSum_append {a : List UInt8} (ha : a.length % 2 = 0) (b : List UInt8) :
    wordSum (a ++ b) = wordSum a + wordSum b := by
  induction a using wordSum.induct with
  | case1 d0 d1 a ih =>
    have ha' : a.length % 2 = 0 := by
      rw [List.length_cons, List.length_cons] at ha
      omega
    rw [List.cons_append, List.cons_append, wordSum, wordSum, ih ha', ← Nat.add_assoc]
  | case2 d0 => cases ha
  | case3 => rw [List.nil_append, wordSum, Nat.zero_add]

lemma wordSum_replicate (n : Nat) : wordSum (List.replicate (2 * n) 0xff) = 65535 * n := by
  induction n with
  | zero => rfl
  | succ n ih =>
    change wordSum (List.replicate (2 * n + 1 + 1) 0xff) = _
    rw [List.replicate_succ, List.replicate_succ, wordSum, ih, Nat.mul_succ, Nat.add_comm]
    rfl

/-- The big-endian 16-bit words of a byte string; an odd last byte is the high half of a word. -/
def alignedWords : List UInt8 → List UInt16
  | d0 :: d1 :: data => join16 d0 d1 :: alignedWords data
  | [d0] => [join16 d0 0]
  | [] => []

lemma wordSum_eq_sum (data : List UInt8) :
    wordSum data = ((alignedWords data).map UInt16.toNat).sum := by
  induction data using wordSum.induct with
  | case1 d0 d1 data ih =>
    rw [wordSum, alignedWords, List.map_cons, List.sum_cons, toNat_join16, ih]
  | case2 d0 =>
    rw [wordSum, alignedWords, List.map_singleton, List.sum_singleton, toNat_join16]
    rfl
  | case3 => rfl

lemma sum_set_add {l : List Nat} {i x : Nat} (h : l[i]? = some x) (y : Nat) :
    (l.set i y).sum + x = l.sum + y := by
  induction l generalizing i with
  | nil => cases h
  | cons z l ih =>
    cases i with
    | zero =>
      obtain rfl : z = x := Option.some.inj h
      rw [List.set_cons_zero, List.sum_cons, List.sum_cons]
      omega
    | succ i =>
      have hset := ih h
      rw [List.set_cons_succ, List.sum_cons, List.sum_cons]
      omega

/-- Adds the part above 16 bits back until none is left. -/
def foldCarry (n : Nat) : Nat :=
  if 65535 < n then foldCarry (n / 65536 + n % 65536) else n
termination_by n

/-- The reduction picks the representative between 1 and 65535 of a positive sum. -/
theorem foldCarry_eq (n : Nat) : foldCarry n = if n = 0 then 0 else (n - 1) % 65535 + 1 := by
  induction n using Nat.strong_induction_on with
  | _ n ih =>
    rw [foldCarry]
    by_cases h : 65535 < n
    · rw [if_pos h, ih _ (by omega), if_neg (by omega), if_neg (by omega)]
      omega
    · rw [if_neg h]
      by_cases hn : n = 0
      · rw [if_pos hn, hn]
      · rw [if_neg hn]
        omega

lemma foldCarry_le (n : Nat) : foldCarry n ≤ 65535 := by
  rw [foldCarry_eq]
  split <;> omega

lemma complement_foldCarry (n : Nat) :
    (if 65535 - foldCarry n = 0 then 65535 else 65535 - foldCarry n) = 65535 - n % 65535 := by
  rw [foldCarry_eq]
  split <;> split <;> omega

lemma toNat_complement (n : Nat) : (UInt16.ofNat (65535 - n % 65535)).toNat = 65535 - n % 65535 := by
  rw [UInt16.toNat_ofNat']
  omega

/-- The sum of the words, folded to 16 bits, complemented and put in network order, where zero is
replaced by the other representation of zero. -/
def internetChecksum (order : ByteOrder) (data : List UInt8) : UInt16 :=
  let sum := htons order (UInt16.ofNat (65535 - foldCarry (wordSum data)))
  if sum = 0 then 0xffff else sum

theorem internetChecksum_eq (order : ByteOrder) (data : List UInt8) :
    internetChecksum order data = htons order (UInt16.ofNat (65535 - wordSum data % 65535)) := by
  have hle := foldCarry_le (wordSum data)
  have hzero : htons order (UInt16.ofNat (65535 - foldCarry (wordSum data))) = 0 ↔
      65535 - foldCarry (wordSum data) = 0 := by
    rw [htons_eq_zero, ← UInt16.toNat_inj, UInt16.toNat_ofNat']
    change _ % 65536 = 0 ↔ _
    omega
  rw [internetChecksum, ← complement_foldCarry]
  by_cases h : 65535 - foldCarry (wordSum data) = 0
  · rw [if_pos (hzero.mpr h), if_pos h]
    cases order <;> rfl
  · rw [if_neg (fun h0 => h (hzero.mp h0)), if_neg h]

end CLang
