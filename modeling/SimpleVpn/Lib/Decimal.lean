import SimpleVpn.Lib.Mem
import Mathlib.Data.List.Basic
import Mathlib.Data.List.Induction

/-!
# Decimal text

The bytes of character constants and of the decimal text that `%d` prints. A text of digits has a
value, and among the texts with one value exactly the one that is printed has no leading zero.
-/

namespace CLang

def charByte (c : Char) : UInt8 := UInt8.ofNat c.toNat

def CString.lit (s : String) : CString :=
  ⟨(s.toList.map charByte).takeWhile (· != 0), fun c hc => by simpa using List.mem_takeWhile_imp hc⟩

/-- The text that `%d` prints for a natural number. -/
def decimal (n : Nat) : List UInt8 := (Nat.toDigits 10 n).map charByte

def IsDigitByte (c : UInt8) : Prop := 48 ≤ c.toNat ∧ c.toNat ≤ 57

lemma IsDigitByte.ne_zero {c : UInt8} (h : IsDigitByte c) : c ≠ 0 := by
  rintro rfl
  exact absurd h.1 (by decide)

/-- The digit byte of a number below 10. -/
def digitByte (n : Nat) : UInt8 := UInt8.ofNat (48 + n)

lemma toNat_digitByte {n : Nat} (h : n < 10) : (digitByte n).toNat = 48 + n := by
  rw [digitByte, UInt8.toNat_ofNat']
  omega

lemma isDigitByte_digitByte {n : Nat} (h : n < 10) : IsDigitByte (digitByte n) := by
  unfold IsDigitByte
  rw [toNat_digitByte h]
  omega

lemma IsDigitByte.eq_digitByte {c : UInt8} (h : IsDigitByte c) : c = digitByte (c.toNat - 48) := by
  obtain ⟨hlo, hhi⟩ := h
  rw [← UInt8.toNat_inj, toNat_digitByte (by omega)]
  omega

lemma charByte_digitChar {n : Nat} (h : n < 10) : charByte n.digitChar = digitByte n := by
  rw [charByte, Nat.toNat_digitChar_of_lt_ten h, digitByte]

lemma decimal_of_lt {n : Nat} (h : n < 10) : decimal n = [digitByte n] := by
  rw [decimal, Nat.toDigits_of_lt_base h, List.map_singleton, charByte_digitChar h]

lemma decimal_of_le {n : Nat} (h : 10 ≤ n) : decimal n = decimal (n / 10) ++ [digitByte (n % 10)] := by
  rw [decimal, Nat.toDigits_of_base_le (by decide) h, List.map_append, List.map_singleton,
    charByte_digitChar (Nat.mod_lt n (by decide)), decimal]

/-- One decimal digit or more. -/
def IsDecimal (l : List UInt8) : Prop := l ≠ [] ∧ ∀ c ∈ l, IsDigitByte c

def NoLeadingZero (l : List UInt8) : Prop := l.length = 1 ∨ l.head? ≠ some (charByte '0')

/-- The number whose digits are those of `n` followed by the bytes of a text. -/
def digitsFrom (n : Nat) (l : List UInt8) : Nat := l.foldl (fun n c => 10 * n + (c.toNat - 48)) n

def digitsValue (l : List UInt8) : Nat := digitsFrom 0 l

lemma digitsFrom_nil (n : Nat) : digitsFrom n [] = n := by
  rw [digitsFrom, List.foldl_nil]

lemma digitsFrom_cons (n : Nat) (c : UInt8) (l : List UInt8) :
    digitsFrom n (c :: l) = digitsFrom (10 * n + (c.toNat - 48)) l := by
  rw [digitsFrom, List.foldl_cons, digitsFrom]

lemma digitsFrom_append (n : Nat) (l l' : List UInt8) :
    digitsFrom n (l ++ l') = digitsFrom (digitsFrom n l) l' := by
  rw [digitsFrom, List.foldl_append, digitsFrom, digitsFrom]

lemma le_digitsFrom (n : Nat) (l : List UInt8) : n ≤ digitsFrom n l := by
  induction l generalizing n with
  | nil => exact Nat.le_refl n
  | cons c l ih =>
    have hle := ih (10 * n + (c.toNat - 48))
    rw [digitsFrom_cons]
    omega

theorem isDecimal_decimal (n : Nat) : IsDecimal (decimal n) := by
  induction n using Nat.strong_induction_on with
  | _ n ih =>
    by_cases h : n < 10
    · rw [decimal_of_lt h]
      refine ⟨List.cons_ne_nil _ _, ?_⟩
      intro c hc
      rw [List.mem_singleton.mp hc]
      exact isDigitByte_digitByte h
    · rw [decimal_of_le (by omega)]
      refine ⟨List.append_ne_nil_of_right_ne_nil _ (List.cons_ne_nil _ _), ?_⟩
      intro c hc
      rcases List.mem_append.mp hc with hc | hc
      · exact (ih (n / 10) (by omega)).2 c hc
      · rw [List.mem_singleton.mp hc]
        exact isDigitByte_digitByte (Nat.mod_lt n (by decide))

lemma isDigitByte_of_mem_decimal {n : Nat} {c : UInt8} (hc : c ∈ decimal n) : IsDigitByte c :=
  (isDecimal_decimal n).2 c hc

theorem digitsValue_decimal (n : Nat) : digitsValue (decimal n) = n := by
  induction n using Nat.strong_induction_on with
  | _ n ih =>
    by_cases h : n < 10
    · rw [decimal_of_lt h, digitsValue, digitsFrom_cons, digitsFrom_nil, toNat_digitByte h]
      omega
    · have hlast := toNat_digitByte (Nat.mod_lt n (by decide : 10 > 0))
      have hrest : digitsFrom 0 (decimal (n / 10)) = n / 10 := ih (n / 10) (by omega)
      rw [decimal_of_le (by omega), digitsValue, digitsFrom_append, hrest, digitsFrom_cons,
        digitsFrom_nil, hlast]
      omega

lemma head?_decimal_ne {n : Nat} (h : n ≠ 0) : (decimal n).head? ≠ some (charByte '0') := by
  induction n using Nat.strong_induction_on with
  | _ n ih =>
    by_cases hn : n < 10
    · intro hzero
      rw [decimal_of_lt hn, List.head?_cons, Option.some_inj, ← UInt8.toNat_inj,
        toNat_digitByte hn] at hzero
      change 48 + n = 48 at hzero
      omega
    · have hrest := ih (n / 10) (by omega) (by omega)
      rw [decimal_of_le (by omega), List.head?_append_of_ne_nil _ (isDecimal_decimal _).1]
      exact hrest

theorem noLeadingZero_decimal (n : Nat) : NoLeadingZero (decimal n) := by
  by_cases h : n < 10
  · rw [decimal_of_lt h]
    exact .inl rfl
  · exact .inr (head?_decimal_ne (by omega))

lemma digitsValue_pos {l : List UInt8} (hl : IsDecimal l) (h : l.head? ≠ some (charByte '0')) :
    0 < digitsValue l := by
  obtain ⟨hne, hdigits⟩ := hl
  cases l with
  | nil => exact absurd rfl hne
  | cons c l =>
    have hc : 48 < c.toNat := by
      have hle := (hdigits c (List.mem_cons_self ..)).1
      apply Nat.lt_of_le_of_ne hle
      intro heq
      exact h (congrArg some (UInt8.toNat.inj heq.symm))
    have hpos := le_digitsFrom (10 * 0 + (c.toNat - 48)) l
    rw [digitsValue, digitsFrom_cons]
    omega

/-- The text that is printed is the only one without a leading zero. -/
theorem decimal_digitsValue {l : List UInt8} (hl : IsDecimal l) (h : NoLeadingZero l) :
    decimal (digitsValue l) = l := by
  induction l using List.reverseRecOn with
  | nil => exact absurd rfl hl.1
  | append_singleton l c ih =>
    have hc : IsDigitByte c := hl.2 c (List.mem_append_right _ (List.mem_singleton_self c))
    have hlt : c.toNat - 48 < 10 := by
      have hhi := hc.2
      omega
    have hvalue : digitsValue (l ++ [c]) = 10 * digitsValue l + (c.toNat - 48) := by
      rw [digitsValue, digitsFrom_append, digitsFrom_cons, digitsFrom_nil, digitsValue]
    rw [hvalue]
    by_cases hnil : l = []
    · rw [hnil, show digitsValue [] = 0 from rfl, Nat.mul_zero, Nat.zero_add, decimal_of_lt hlt,
        ← hc.eq_digitByte, List.nil_append]
    · have hdecimal : IsDecimal l := ⟨hnil, fun d hd => hl.2 d (List.mem_append_left _ hd)⟩
      have hhead : l.head? ≠ some (charByte '0') := by
        rw [← List.head?_append_of_ne_nil _ hnil]
        rcases h with hlen | hhead
        · have hpos := List.length_pos_of_ne_nil hnil
          rw [List.length_append, List.length_singleton] at hlen
          omega
        · exact hhead
      have hpos := digitsValue_pos hdecimal hhead
      have hdiv : (10 * digitsValue l + (c.toNat - 48)) / 10 = digitsValue l := by omega
      have hmod : (10 * digitsValue l + (c.toNat - 48)) % 10 = c.toNat - 48 := by omega
      rw [decimal_of_le (by omega), hdiv, hmod, ih hdecimal (.inr hhead), ← hc.eq_digitByte]

end CLang
