import Mathlib.Algebra.Group.Nat.Defs
import Mathlib.Tactic.Lemma

/-!
# Byte orders

A machine stores a 16-bit or 32-bit unsigned integer as bytes in one of two orders. This
file fixes the representation of a value in memory, the value read back from memory, and
the conversions between host order and network order.
-/

namespace CLang

/-- The order in which a machine lays out the bytes of an integer. -/
inductive ByteOrder where
  | little
  | big
  deriving DecidableEq, Repr

def hi16 (v : UInt16) : UInt8 := UInt8.ofNat (v.toNat / 256)

def lo16 (v : UInt16) : UInt8 := UInt8.ofNat v.toNat

def join16 (h l : UInt8) : UInt16 := UInt16.ofNat (256 * h.toNat + l.toNat)

lemma toNat_join16 (h l : UInt8) : (join16 h l).toNat = 256 * h.toNat + l.toNat := by
  have := h.toNat_lt
  have := l.toNat_lt
  simp only [join16, UInt16.toNat_ofNat']
  omega

lemma toNat_hi16 (v : UInt16) : (hi16 v).toNat = v.toNat / 256 := by
  have := v.toNat_lt
  simp only [hi16, UInt8.toNat_ofNat']
  omega

lemma toNat_lo16 (v : UInt16) : (lo16 v).toNat = v.toNat % 256 := by
  simp only [lo16, UInt8.toNat_ofNat']

@[simp] lemma hi16_join16 (h l : UInt8) : hi16 (join16 h l) = h := by
  apply UInt8.toNat.inj
  have := h.toNat_lt
  have := l.toNat_lt
  rw [toNat_hi16, toNat_join16]
  omega

@[simp] lemma lo16_join16 (h l : UInt8) : lo16 (join16 h l) = l := by
  apply UInt8.toNat.inj
  have := l.toNat_lt
  rw [toNat_lo16, toNat_join16]
  omega

@[simp] lemma join16_hi_lo (v : UInt16) : join16 (hi16 v) (lo16 v) = v := by
  apply UInt16.toNat.inj
  rw [toNat_join16, toNat_hi16, toNat_lo16]
  omega

def swap16 (v : UInt16) : UInt16 := join16 (lo16 v) (hi16 v)

@[simp] lemma swap16_swap16 (v : UInt16) : swap16 (swap16 v) = v := by simp [swap16]

/-- Octet `k` of a 32-bit value, counted from the least significant one. -/
def octet (v : UInt32) (k : Nat) : UInt8 := UInt8.ofNat (v.toNat / 256 ^ k)

def join32 (a b c d : UInt8) : UInt32 :=
  UInt32.ofNat (16777216 * a.toNat + 65536 * b.toNat + 256 * c.toNat + d.toNat)

lemma toNat_join32 (a b c d : UInt8) : (join32 a b c d).toNat =
    16777216 * a.toNat + 65536 * b.toNat + 256 * c.toNat + d.toNat := by
  have := a.toNat_lt
  have := b.toNat_lt
  have := c.toNat_lt
  have := d.toNat_lt
  rw [join32, UInt32.toNat_ofNat', Nat.mod_eq_of_lt (by omega)]

lemma octet_join32 (a b c d : UInt8) :
    octet (join32 a b c d) 3 = a ∧ octet (join32 a b c d) 2 = b ∧
      octet (join32 a b c d) 1 = c ∧ octet (join32 a b c d) 0 = d := by
  have := a.toNat_lt
  have := b.toNat_lt
  have := c.toNat_lt
  have := d.toNat_lt
  refine ⟨?_, ?_, ?_, ?_⟩
  all_goals
    apply UInt8.toNat.inj
    simp only [octet, UInt8.toNat_ofNat', toNat_join32]
    omega

@[simp] lemma octet_three_join32 (a b c d : UInt8) : octet (join32 a b c d) 3 = a :=
  (octet_join32 a b c d).1

@[simp] lemma octet_two_join32 (a b c d : UInt8) : octet (join32 a b c d) 2 = b :=
  (octet_join32 a b c d).2.1

@[simp] lemma octet_one_join32 (a b c d : UInt8) : octet (join32 a b c d) 1 = c :=
  (octet_join32 a b c d).2.2.1

@[simp] lemma octet_zero_join32 (a b c d : UInt8) : octet (join32 a b c d) 0 = d :=
  (octet_join32 a b c d).2.2.2

@[simp] lemma join32_octets (v : UInt32) :
    join32 (octet v 3) (octet v 2) (octet v 1) (octet v 0) = v := by
  apply UInt32.toNat.inj
  have := v.toNat_lt
  simp only [toNat_join32, octet, UInt8.toNat_ofNat']
  omega

def swap32 (v : UInt32) : UInt32 := join32 (octet v 0) (octet v 1) (octet v 2) (octet v 3)

@[simp] lemma swap32_swap32 (v : UInt32) : swap32 (swap32 v) = v := by simp [swap32]

def bytes16 : ByteOrder → UInt16 → List UInt8
  | .little, v => [lo16 v, hi16 v]
  | .big, v => [hi16 v, lo16 v]

def read16 : ByteOrder → UInt8 → UInt8 → UInt16
  | .little, x, y => join16 y x
  | .big, x, y => join16 x y

def bytes32 : ByteOrder → UInt32 → List UInt8
  | .little, v => [octet v 0, octet v 1, octet v 2, octet v 3]
  | .big, v => [octet v 3, octet v 2, octet v 1, octet v 0]

def read32 : ByteOrder → UInt8 → UInt8 → UInt8 → UInt8 → UInt32
  | .little, x, y, z, w => join32 w z y x
  | .big, x, y, z, w => join32 x y z w

@[simp] lemma length_bytes16 (order : ByteOrder) (v : UInt16) : (bytes16 order v).length = 2 := by
  cases order <;> rfl

@[simp] lemma length_bytes32 (order : ByteOrder) (v : UInt32) : (bytes32 order v).length = 4 := by
  cases order <;> rfl

@[simp] lemma bytes16_read16 (order : ByteOrder) (x y : UInt8) :
    bytes16 order (read16 order x y) = [x, y] := by
  cases order <;> simp [bytes16, read16]

@[simp] lemma bytes32_read32 (order : ByteOrder) (x y z w : UInt8) :
    bytes32 order (read32 order x y z w) = [x, y, z, w] := by
  cases order <;> simp [bytes32, read32]

def htons : ByteOrder → UInt16 → UInt16
  | .little, v => swap16 v
  | .big, v => v

def ntohs (order : ByteOrder) (v : UInt16) : UInt16 := htons order v

def htonl : ByteOrder → UInt32 → UInt32
  | .little, v => swap32 v
  | .big, v => v

def ntohl (order : ByteOrder) (v : UInt32) : UInt32 := htonl order v

@[simp] lemma htons_htons (order : ByteOrder) (v : UInt16) : htons order (htons order v) = v := by
  cases order <;> simp [htons]

@[simp] lemma htons_ntohs (order : ByteOrder) (v : UInt16) : htons order (ntohs order v) = v :=
  htons_htons order v

lemma htons_eq_zero (order : ByteOrder) (v : UInt16) : htons order v = 0 ↔ v = 0 := by
  constructor
  · intro h
    rw [← htons_htons order v, h]
    cases order <;> rfl
  · intro h
    rw [h]
    cases order <;> rfl

@[simp] lemma htonl_htonl (order : ByteOrder) (v : UInt32) : htonl order (htonl order v) = v := by
  cases order <;> simp [htonl]

@[simp] lemma htonl_ntohl (order : ByteOrder) (v : UInt32) : htonl order (ntohl order v) = v :=
  htonl_htonl order v

/-- A 16-bit value in network order is laid out most significant byte first. -/
lemma bytes16_htons (order : ByteOrder) (v : UInt16) :
    bytes16 order (htons order v) = [hi16 v, lo16 v] := by
  cases order <;> simp [bytes16, htons, swap16]

/-- The octets of an address as they are sent, whatever the host. -/
def networkOctets (v : UInt32) : List UInt8 := [octet v 3, octet v 2, octet v 1, octet v 0]

lemma bytes32_htonl (order : ByteOrder) (v : UInt32) :
    bytes32 order (htonl order v) = networkOctets v := by
  cases order <;> simp [bytes32, htonl, swap32, networkOctets]

end CLang
