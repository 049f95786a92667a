import SimpleVpn.Lib.ByteOrder
import SimpleVpn.Lib.Sockets
import SimpleVpn.Model.HostInfo
import Mathlib.Tactic.IntervalCases

/-!
# Address text

A dotted quad may have leading zeros in its octets; `parse_ip_addr` reads the value of every
dotted quad, and `parse_ip_addr_to_str` prints the one without leading zeros.
-/

namespace SimpleVpn

open CLang

lemma digit_value {c : UInt8} (h : IsDigitByte c) :
    c.toInt8.toInt32 - 48 = Int32.ofNat (c.toNat - 48) := by
  obtain ⟨n, hn, rfl⟩ : ∃ n, n < 10 ∧ c = digitByte n := by
    refine ⟨c.toNat - 48, ?_, h.eq_digitByte⟩
    have hhi := h.2
    omega
  rw [toNat_digitByte hn]
  interval_cases n <;> rfl

lemma ne_dot_of_isDigitByte {c : UInt8} (h : IsDigitByte c) : c ≠ charByte '.' := by
  rintro rfl
  exact absurd h.1 (by decide)

lemma parseOctet_digits (l : List UInt8) (hl : ∀ c ∈ l, IsDigitByte c) (n : Nat)
    (rest : List UInt8) :
    parseOctet (Int32.ofNat n) (l ++ rest) = parseOctet (Int32.ofNat (digitsFrom n l)) rest := by
  induction l generalizing n with
  | nil => rw [digitsFrom_nil, List.nil_append]
  | cons c l ih =>
    have hc : IsDigitByte c := hl c (List.mem_cons_self ..)
    have hstep : Int32.ofNat n * 10 + (c.toInt8.toInt32 - 48) =
        Int32.ofNat (10 * n + (c.toNat - 48)) := by
      rw [digit_value hc, Int32.ofNat_add, Int32.ofNat_mul, Int32.mul_comm]
      rfl
    rw [List.cons_append, parseOctet, if_neg (ne_dot_of_isDigitByte hc), hstep,
      ih (fun d hd => hl d (List.mem_cons_of_mem _ hd)), digitsFrom_cons]

/-- The digits of an octet, possibly with leading zeros. -/
structure IsOctet (l : List UInt8) : Prop where
  decimal : IsDecimal l
  le : digitsValue l ≤ 255

lemma toNat_shift_or_octet (val : UInt32) {n : Nat} (hn : n ≤ 255) :
    (val <<< 8 ||| (Int32.ofNat n).toUInt32).toNat = 256 * (val.toNat % 16777216) + n := by
  have hval : (Int32.ofNat n).toUInt32.toNat = n := by
    change (UInt32.ofNat n).toNat = n
    rw [UInt32.toNat_ofNat', Nat.mod_eq_of_lt (by omega)]
  have hshift : (val <<< 8).toNat = (val.toNat % 16777216) <<< 8 := by
    rw [UInt32.toNat_shiftLeft, Nat.shiftLeft_eq, Nat.shiftLeft_eq]
    change val.toNat * 256 % 4294967296 = val.toNat % 16777216 * 256
    omega
  rw [UInt32.toNat_or, hval, hshift, ← Nat.shiftLeft_add_eq_or_of_lt (i := 8) (by omega),
    Nat.shiftLeft_eq]
  omega

/-- One round of the outer loop reads an octet and the dot behind it. -/
lemma parseIpAddrLoop_octet {l : List UInt8} (hl : IsOctet l) (n : Nat) (val : UInt32)
    (rest : List UInt8) :
    parseIpAddrLoop (n + 1) val (l ++ charByte '.' :: rest) =
      parseIpAddrLoop n (val <<< 8 ||| (Int32.ofNat (digitsValue l)).toUInt32) rest := by
  have hread := parseOctet_digits l hl.decimal.2 0 (charByte '.' :: rest)
  rw [parseOctet, if_pos rfl] at hread
  rw [parseIpAddrLoop, show (0 : Int32) = Int32.ofNat 0 from rfl, hread]
  dsimp only
  rw [skipDot, if_pos rfl, digitsValue]

lemma parseIpAddrLoop_last {l : List UInt8} (hl : IsOctet l) (n : Nat) (val : UInt32) :
    parseIpAddrLoop (n + 1) val l =
      parseIpAddrLoop n (val <<< 8 ||| (Int32.ofNat (digitsValue l)).toUInt32) [] := by
  have hread := parseOctet_digits l hl.decimal.2 0 []
  rw [List.append_nil, parseOctet] at hread
  rw [parseIpAddrLoop, show (0 : Int32) = Int32.ofNat 0 from rfl, hread]
  dsimp only
  rw [skipDot, digitsValue]

def quadBytes (a b c d : List UInt8) : List UInt8 :=
  a ++ charByte '.' :: (b ++ charByte '.' :: (c ++ charByte '.' :: d))

theorem toNat_parseIpAddr {t : CString} {a b c d : List UInt8} (ht : t.bytes = quadBytes a b c d)
    (ha : IsOctet a) (hb : IsOctet b) (hc : IsOctet c) (hd : IsOctet d) :
    (parseIpAddr t).toNat = 16777216 * digitsValue a + 65536 * digitsValue b +
      256 * digitsValue c + digitsValue d := by
  have hzero : (0 : UInt32).toNat = 0 := rfl
  rw [parseIpAddr, ht, quadBytes, parseIpAddrLoop_octet ha, parseIpAddrLoop_octet hb,
    parseIpAddrLoop_octet hc, parseIpAddrLoop_last hd, parseIpAddrLoop, toNat_shift_or_octet _ hd.le,
    toNat_shift_or_octet _ hc.le, toNat_shift_or_octet _ hb.le, toNat_shift_or_octet _ ha.le, hzero]
  have hale := ha.le
  have hble := hb.le
  have hcle := hc.le
  omega

/-- The text of an octet with `zeros` leading zeros. -/
def octetText (zeros : Nat) (o : UInt8) : List UInt8 :=
  (List.replicate zeros '0' ++ Nat.toDigits 10 o.toNat).map charByte

lemma octetText_eq (zeros : Nat) (o : UInt8) :
    octetText zeros o = List.replicate zeros (charByte '0') ++ decimal o.toNat := by
  rw [octetText, List.map_append, List.map_replicate, decimal]

lemma octetText_zero (o : UInt8) : octetText 0 o = decimal o.toNat := rfl

lemma digitsFrom_zeros (zeros : Nat) : digitsFrom 0 (List.replicate zeros (charByte '0')) = 0 := by
  induction zeros with
  | zero => rw [List.replicate_zero, digitsFrom_nil]
  | succ zeros ih =>
    rw [List.replicate_succ, digitsFrom_cons]
    exact ih

lemma digitsValue_octetText (zeros : Nat) (o : UInt8) :
    digitsValue (octetText zeros o) = o.toNat := by
  rw [octetText_eq, digitsValue, digitsFrom_append, digitsFrom_zeros]
  exact digitsValue_decimal o.toNat

lemma isOctet_octetText (zeros : Nat) (o : UInt8) : IsOctet (octetText zeros o) := by
  have hdecimal := isDecimal_decimal o.toNat
  constructor
  · rw [octetText_eq]
    refine ⟨List.append_ne_nil_of_right_ne_nil _ hdecimal.1, ?_⟩
    intro c hc
    rcases List.mem_append.mp hc with hc | hc
    · rw [(List.mem_replicate.mp hc).2]
      unfold IsDigitByte
      decide
    · exact hdecimal.2 c hc
  · rw [digitsValue_octetText]
    exact Nat.le_of_lt_succ o.toNat_lt

/-- A dotted quad: four octets, each written with any number of leading zeros. -/
structure DottedQuad where
  text : CString
  a : UInt8
  b : UInt8
  c : UInt8
  d : UInt8
  spelled : ∃ za zb zc zd, text.bytes =
    octetText za a ++ charByte '.' :: (octetText zb b ++ charByte '.' ::
      (octetText zc c ++ charByte '.' :: (octetText zd d ++ [])))

def DottedQuad.value (q : DottedQuad) : UInt32 := join32 q.a q.b q.c q.d

theorem parseIpAddr_text (q : DottedQuad) : parseIpAddr q.text = q.value := by
  obtain ⟨text, a, b, c, d, za, zb, zc, zd, htext⟩ := q
  rw [List.append_nil] at htext
  apply UInt32.toNat.inj
  rw [toNat_parseIpAddr htext (isOctet_octetText za a) (isOctet_octetText zb b)
    (isOctet_octetText zc c) (isOctet_octetText zd d), DottedQuad.value, toNat_join32]
  simp only [digitsValue_octetText]

lemma octet_shift (v : UInt32) :
    (v >>> 24).toNat = (octet v 3).toNat ∧ ((v >>> 16) % 256).toNat = (octet v 2).toNat ∧
      ((v >>> 8) % 256).toNat = (octet v 1).toNat ∧ (v % 256).toNat = (octet v 0).toNat := by
  have := v.toNat_lt
  simp only [octet, UInt8.toNat_ofNat', UInt32.toNat_mod, UInt32.toNat_shiftRight,
    Nat.shiftRight_eq_div_pow]
  refine ⟨?_, ?_, ?_, ?_⟩
  all_goals
    simp
    try omega

def printedQuad (v : UInt32) : DottedQuad where
  text := ipAddrText v
  a := octet v 3
  b := octet v 2
  c := octet v 1
  d := octet v 0
  spelled := by
    obtain ⟨h3, h2, h1, h0⟩ := octet_shift v
    refine ⟨0, 0, 0, 0, ?_⟩
    simp only [ipAddrText, octetText_zero, h3, h2, h1, h0]
    simp

theorem parseIpAddr_ipAddrText (v : UInt32) : parseIpAddr (ipAddrText v) = v := by
  rw [show ipAddrText v = (printedQuad v).text from rfl, parseIpAddr_text]
  exact join32_octets v

lemma length_decimal_octet (o : UInt8) : (decimal o.toNat).length ≤ 3 := by
  rw [decimal, List.length_map, Nat.length_toDigits_le_iff (by decide) (by decide)]
  have := o.toNat_lt
  omega

lemma length_ipAddrText (v : UInt32) : (ipAddrText v).bytes.length ≤ 15 := by
  obtain ⟨h3, h2, h1, h0⟩ := octet_shift v
  have := length_decimal_octet (octet v 3)
  have := length_decimal_octet (octet v 2)
  have := length_decimal_octet (octet v 1)
  have := length_decimal_octet (octet v 0)
  simp only [ipAddrText, h3, h2, h1, h0, List.length_append, List.length_singleton]
  omega

theorem parseIpAddrToStr_eq (v : UInt32) :
    parseIpAddrToStr (calloc 16) v =
      pure ((ipAddrText v).bytes ++ 0 :: calloc (15 - (ipAddrText v).bytes.length)) := by
  have hlen := length_ipAddrText v
  have hsplit : calloc 16 = [] ++ calloc ((ipAddrText v).bytes.length + 1) ++
      calloc (15 - (ipAddrText v).bytes.length) := by
    rw [List.nil_append, ← calloc_add]
    congr 1
    omega
  have hstore := storeRange_append [] (calloc (15 - (ipAddrText v).bytes.length))
    (b := calloc ((ipAddrText v).bytes.length + 1)) (show ((ipAddrText v).bytes ++ [0]).length = _ by simp)
  rw [← hsplit] at hstore
  rw [parseIpAddrToStr, List.length_nil.symm, hstore]
  simp

lemma cstringAt_addrBuf (v : UInt32) :
    cstringAt ((ipAddrText v).bytes ++ 0 :: calloc (15 - (ipAddrText v).bytes.length)) 0 =
      pure (ipAddrText v) :=
  cstringAt_append [] (ipAddrText v) _ rfl

lemma decimal_octet (o : UInt8) : decimal o.toNat =
    if o.toNat < 10 then [digitByte o.toNat]
    else if o.toNat < 100 then [digitByte (o.toNat / 10), digitByte (o.toNat % 10)]
    else [digitByte (o.toNat / 100), digitByte (o.toNat / 10 % 10), digitByte (o.toNat % 10)] := by
  have ho := o.toNat_lt
  split
  · rename_i h
    exact decimal_of_lt h
  · split
    · rename_i h10 h100
      rw [decimal_of_le (by omega), decimal_of_lt (by omega)]
      rfl
    · rename_i h10 h100
      rw [decimal_of_le (by omega), decimal_of_le (by omega), decimal_of_lt (by omega),
        Nat.div_div_eq_div_mul]
      rfl

lemma inetPtonLoop_first (octets cs : List UInt8) {x : Nat} (hx : x < 10) :
    inetPtonLoop octets none (digitByte x :: cs) = inetPtonLoop octets (some x) cs := by
  rw [inetPtonLoop, toNat_digitByte hx, if_pos (by omega), Nat.add_sub_cancel_left]

lemma inetPtonLoop_next (octets cs : List UInt8) {n x : Nat} (hx : x < 10) (hn : n ≠ 0)
    (hmax : 10 * n + x ≤ 255) :
    inetPtonLoop octets (some n) (digitByte x :: cs) =
      inetPtonLoop octets (some (10 * n + x)) cs := by
  rw [inetPtonLoop, toNat_digitByte hx, if_pos (by omega), Nat.add_sub_cancel_left,
    if_neg (by omega)]

lemma inetPtonLoop_decimal (octets cs : List UInt8) (o : UInt8) :
    inetPtonLoop octets none (decimal o.toNat ++ cs) = inetPtonLoop octets (some o.toNat) cs := by
  have ho := o.toNat_lt
  rw [decimal_octet]
  split
  · rename_i h
    rw [List.singleton_append, inetPtonLoop_first _ _ h]
  · split
    · rename_i h10 h100
      rw [List.cons_append, inetPtonLoop_first _ _ (by omega), List.singleton_append,
        inetPtonLoop_next _ _ (by omega) (by omega) (by omega)]
      congr 2
      omega
    · rename_i h10 h100
      rw [List.cons_append, inetPtonLoop_first _ _ (by omega), List.cons_append,
        inetPtonLoop_next _ _ (by omega) (by omega) (by omega), List.singleton_append,
        inetPtonLoop_next _ _ (by omega) (by omega) (by omega)]
      congr 2
      omega

lemma inetPtonLoop_dot (octets cs : List UInt8) (o : UInt8) (h : octets.length ≠ 3) :
    inetPtonLoop octets (some o.toNat) (charByte '.' :: cs) =
      inetPtonLoop (octets ++ [o]) none cs := by
  have hdot : (charByte '.').toNat = 46 := rfl
  rw [inetPtonLoop, hdot, if_neg (by omega), if_pos rfl, if_neg h, UInt8.ofNat_toNat]

theorem inetPton_ipAddrText (v : UInt32) :
    inetPton (ipAddrText v) = some (networkOctets v) := by
  unfold networkOctets
  obtain ⟨h3, h2, h1, h0⟩ := octet_shift v
  have hend : decimal (octet v 0).toNat = decimal (octet v 0).toNat ++ [] := (List.append_nil _).symm
  simp only [inetPton, ipAddrText, h3, h2, h1, h0, List.append_assoc, List.cons_append,
    List.nil_append]
  rw [inetPtonLoop_decimal, inetPtonLoop_dot _ _ _ (by simp), inetPtonLoop_decimal,
    inetPtonLoop_dot _ _ _ (by simp), inetPtonLoop_decimal, inetPtonLoop_dot _ _ _ (by simp), hend,
    inetPtonLoop_decimal]
  simp [inetPtonLoop]

/-! ### `inet_pton` on every text -/

/-- A number is printed with one more digit. -/
lemma decimal_digit {n x : Nat} (hn : n ≠ 0) (hx : x < 10) :
    decimal (10 * n + x) = decimal n ++ [digitByte x] := by
  have hdiv : (10 * n + x) / 10 = n := by omega
  have hmod : (10 * n + x) % 10 = x := by omega
  rw [decimal_of_le (by omega), hdiv, hmod]

/-- The octets of a list behind dots. -/
def dottedTail (octets : List UInt8) : List UInt8 :=
  octets.flatMap fun o => charByte '.' :: decimal o.toNat

/-- Behind `octets`, the octets in `r` are spelled by the octet being read and the rest of the text. -/
def Spells (octets : List UInt8) (cur : Option Nat) (rest r : List UInt8) : Prop :=
  ∃ o os, r = octets ++ o :: os ∧ cur.elim [] decimal ++ rest = decimal o.toNat ++ dottedTail os

namespace Spells

variable {octets rest r : List UInt8} {c : UInt8} {n : Nat}

lemma last (hn : n ≤ 255) : Spells octets (some n) [] (octets ++ [UInt8.ofNat n]) := by
  refine ⟨UInt8.ofNat n, [], rfl, ?_⟩
  rw [UInt8.toNat_ofNat', Nat.mod_eq_of_lt (by omega)]
  rfl

lemma first (hc : IsDigitByte c) (h : Spells octets (some (c.toNat - 48)) rest r) :
    Spells octets none (c :: rest) r := by
  obtain ⟨o, os, hr, htext⟩ := h
  have hhi := hc.2
  refine ⟨o, os, hr, ?_⟩
  rw [← htext, Option.elim_some, decimal_of_lt (by omega), ← hc.eq_digitByte]
  rfl

lemma next (hc : IsDigitByte c) (hn : n ≠ 0) (h : Spells octets (some (10 * n + (c.toNat - 48))) rest r) :
    Spells octets (some n) (c :: rest) r := by
  obtain ⟨o, os, hr, htext⟩ := h
  have hhi := hc.2
  refine ⟨o, os, hr, ?_⟩
  rw [← htext, Option.elim_some, Option.elim_some, decimal_digit hn (by omega), ← hc.eq_digitByte,
    List.append_assoc]
  rfl

lemma dot (hn : n ≤ 255) (h : Spells (octets ++ [UInt8.ofNat n]) none rest r) :
    Spells octets (some n) (charByte '.' :: rest) r := by
  obtain ⟨o, os, hr, htext⟩ := h
  refine ⟨UInt8.ofNat n, o :: os, ?_, ?_⟩
  · rw [hr, List.append_assoc]
    rfl
  · rw [UInt8.toNat_ofNat', Nat.mod_eq_of_lt (by omega), Option.elim_some, dottedTail, List.flatMap_cons,
      ← dottedTail, List.cons_append, ← htext]
    rfl

end Spells

/-- What `inet_pton` accepts spells the octets that it returns. -/
lemma spells_of_inetPtonLoop {octets rest r : List UInt8} {cur : Option Nat} (hcur : ∀ n ∈ cur, n ≤ 255)
    (h : inetPtonLoop octets cur rest = some r) : r.length = 4 ∧ Spells octets cur rest r := by
  induction rest generalizing octets cur with
  | nil =>
    cases cur with
    | none => cases h
    | some n =>
      rw [inetPtonLoop] at h
      split at h
      · rename_i hlen
        rw [← Option.some_inj.mp h, List.length_append, hlen]
        exact ⟨rfl, .last (hcur n rfl)⟩
      · cases h
  | cons c cs ih =>
    cases cur with
    | none =>
      rw [inetPtonLoop] at h
      split at h
      · rename_i hdigit
        obtain ⟨hlen, hspells⟩ := ih (by rintro n ⟨rfl⟩; omega) h
        exact ⟨hlen, hspells.first hdigit⟩
      · split at h
        · cases h
        · cases h
    | some n =>
      rw [inetPtonLoop] at h
      split at h
      · rename_i hdigit
        split at h
        · cases h
        · rename_i hn
          obtain ⟨hlen, hspells⟩ := ih (by rintro m ⟨rfl⟩; omega) h
          exact ⟨hlen, hspells.next hdigit (by omega)⟩
      · split at h
        · rename_i hdot
          split at h
          · cases h
          · obtain ⟨hlen, hspells⟩ := ih (by rintro m ⟨⟩) h
            obtain rfl : c = charByte '.' := UInt8.toNat.inj hdot
            exact ⟨hlen, hspells.dot (hcur n rfl)⟩
        · cases h

lemma exists_of_inetPton {t : CString} {octets : List UInt8} (h : inetPton t = some octets) :
    ∃ v, t = ipAddrText v ∧ octets = networkOctets v := by
  obtain ⟨hlen, a, os, hr, htext⟩ := spells_of_inetPtonLoop (by rintro n ⟨⟩) h
  rw [List.nil_append] at hr
  subst hr
  obtain ⟨b, c, d, rfl⟩ := List.length_eq_three.mp (Nat.succ.inj hlen)
  let v := join32 a b c d
  obtain ⟨h3, h2, h1, h0⟩ : octet v 3 = a ∧ octet v 2 = b ∧ octet v 1 = c ∧ octet v 0 = d := octet_join32 a b c d
  refine ⟨v, CString.ext ?_, ?_⟩
  · obtain ⟨e3, e2, e1, e0⟩ := octet_shift v
    simp only [ipAddrText, e3, e2, e1, e0, h3, h2, h1, h0]
    simpa [dottedTail] using htext
  · rw [networkOctets, h3, h2, h1, h0]

/-- `parse_ip_addr_to_str` prints the text again for the address that `parse_ip_addr` reads. -/
def Printed (t : CString) : Prop :=
  parseIpAddrToStr (calloc 16) (parseIpAddr t) = pure (t.bytes ++ 0 :: calloc (15 - t.length))

lemma printed_iff (t : CString) : Printed t ↔ ipAddrText (parseIpAddr t) = t := by
  rw [Printed, parseIpAddrToStr_eq, Mem.pure_inj]
  constructor
  · intro h
    have hprinted := cstringAt_addrBuf (parseIpAddr t)
    rw [h] at hprinted
    have hread := (cstringAt_append [] t (calloc (15 - t.length)) rfl).symm.trans hprinted
    rw [Mem.pure_inj] at hread
    exact hread.symm
  · intro h
    rw [h]
    rfl

/-- `inet_pton` accepts exactly the printed texts, and returns the address that `parse_ip_addr` reads. -/
theorem inetPton_eq_some_iff (t : CString) (octets : List UInt8) :
    inetPton t = some octets ↔ Printed t ∧ octets = networkOctets (parseIpAddr t) := by
  rw [printed_iff]
  constructor
  · intro h
    obtain ⟨v, rfl, rfl⟩ := exists_of_inetPton h
    rw [parseIpAddr_ipAddrText]
    exact ⟨rfl, rfl⟩
  · rintro ⟨hprinted, rfl⟩
    have h := inetPton_ipAddrText (parseIpAddr t)
    rw [hprinted] at h
    exact h

/-- Four octets without leading zeros, joined by dots. -/
def Canonical (t : CString) : Prop :=
  ∃ a b c d, t.bytes = quadBytes a b c d ∧ (IsOctet a ∧ NoLeadingZero a) ∧
    (IsOctet b ∧ NoLeadingZero b) ∧ (IsOctet c ∧ NoLeadingZero c) ∧ (IsOctet d ∧ NoLeadingZero d)

lemma isOctet_decimal {n : Nat} (h : n ≤ 255) : IsOctet (decimal n) :=
  ⟨isDecimal_decimal n, (digitsValue_decimal n).le.trans h⟩

lemma bytes_ipAddrText (v : UInt32) : (ipAddrText v).bytes =
    quadBytes (decimal (v.toNat / 16777216)) (decimal (v.toNat / 65536 % 256))
      (decimal (v.toNat / 256 % 256)) (decimal (v.toNat % 256)) := by
  have h3 : (v >>> 24).toNat = v.toNat / 16777216 := by
    simp [UInt32.toNat_shiftRight, Nat.shiftRight_eq_div_pow]
  have h2 : ((v >>> 16) % 256).toNat = v.toNat / 65536 % 256 := by
    simp [UInt32.toNat_mod, UInt32.toNat_shiftRight, Nat.shiftRight_eq_div_pow]
  have h1 : ((v >>> 8) % 256).toNat = v.toNat / 256 % 256 := by
    simp [UInt32.toNat_mod, UInt32.toNat_shiftRight, Nat.shiftRight_eq_div_pow]
  have h0 : (v % 256).toNat = v.toNat % 256 := by
    simp [UInt32.toNat_mod]
  simp only [ipAddrText, h3, h2, h1, h0, quadBytes, List.append_assoc, List.cons_append,
    List.nil_append]

lemma canonical_ipAddrText (v : UInt32) : Canonical (ipAddrText v) := by
  have hv := v.toNat_lt
  refine ⟨_, _, _, _, bytes_ipAddrText v, ⟨isOctet_decimal ?_, noLeadingZero_decimal _⟩,
    ⟨isOctet_decimal ?_, noLeadingZero_decimal _⟩, ⟨isOctet_decimal ?_, noLeadingZero_decimal _⟩,
    isOctet_decimal ?_, noLeadingZero_decimal _⟩
  all_goals omega

/-- The digits of a canonical text are printed again. -/
theorem ipAddrText_parseIpAddr {t : CString} (h : Canonical t) : ipAddrText (parseIpAddr t) = t := by
  obtain ⟨a, b, c, d, ht, ⟨ha, ha'⟩, ⟨hb, hb'⟩, ⟨hc, hc'⟩, hd, hd'⟩ := h
  have hvalue := toNat_parseIpAddr ht ha hb hc hd
  have hale := ha.le
  have hble := hb.le
  have hcle := hc.le
  have hdle := hd.le
  have h3 : (parseIpAddr t).toNat / 16777216 = digitsValue a := by omega
  have h2 : (parseIpAddr t).toNat / 65536 % 256 = digitsValue b := by omega
  have h1 : (parseIpAddr t).toNat / 256 % 256 = digitsValue c := by omega
  have h0 : (parseIpAddr t).toNat % 256 = digitsValue d := by omega
  apply CString.ext
  rw [bytes_ipAddrText, h3, h2, h1, h0, decimal_digitsValue ha.decimal ha',
    decimal_digitsValue hb.decimal hb', decimal_digitsValue hc.decimal hc',
    decimal_digitsValue hd.decimal hd', ht]

/-- A buffer of 16 bytes holds every address text with its NUL. -/
lemma parseIpAddrToStr_of_length {buf : Buf} (h : buf.length = 16) (v : UInt32) :
    parseIpAddrToStr buf v =
      pure ((ipAddrText v).bytes ++ 0 :: buf.drop ((ipAddrText v).length + 1)) := by
  have hlen := length_ipAddrText v
  have hsize : ((ipAddrText v).bytes ++ [0]).length = (ipAddrText v).length + 1 := by
    rw [List.length_append]
    rfl
  rw [parseIpAddrToStr, storeRange_of_le (by rw [hsize, CString.length]; omega), overwrite, hsize,
    List.take_zero, List.nil_append, Nat.zero_add, List.append_assoc]
  rfl

/-- Printing and parsing are inverse on canonical texts, the printed text fits the buffers of all
callers, and parsing reads the value of every dotted quad. -/
theorem address_text_inverse :
    (∀ (v : UInt32) (buf : Buf), buf.length = 16 → ∃ t : CString, Canonical t ∧ t.length ≤ 15 ∧
      parseIpAddrToStr buf v = pure (t.bytes ++ 0 :: buf.drop (t.length + 1)) ∧ parseIpAddr t = v) ∧
    (∀ (t : CString) (buf : Buf), Canonical t → buf.length = 16 →
      parseIpAddrToStr buf (parseIpAddr t) = pure (t.bytes ++ 0 :: buf.drop (t.length + 1))) ∧
    ∀ (t : CString) (a b c d : List UInt8), t.bytes = quadBytes a b c d →
      IsOctet a → IsOctet b → IsOctet c → IsOctet d →
      (parseIpAddr t).toNat = digitsValue a * 2 ^ 24 + digitsValue b * 2 ^ 16 +
        digitsValue c * 2 ^ 8 + digitsValue d := by
  refine ⟨?_, ?_, ?_⟩
  · intro v buf hbuf
    exact ⟨ipAddrText v, canonical_ipAddrText v, length_ipAddrText v,
      parseIpAddrToStr_of_length hbuf v, parseIpAddr_ipAddrText v⟩
  · intro t buf ht hbuf
    rw [parseIpAddrToStr_of_length hbuf, ipAddrText_parseIpAddr ht]
  · intro t a b c d ht ha hb hc hd
    rw [toNat_parseIpAddr ht ha hb hc hd]
    omega

lemma canonical_h1 : Canonical (.lit "10.0.0.1") :=
  ⟨octetText 0 10, octetText 0 0, octetText 0 0, octetText 0 1, by decide,
    ⟨isOctet_octetText 0 10, noLeadingZero_decimal 10⟩, ⟨isOctet_octetText 0 0, noLeadingZero_decimal 0⟩,
    ⟨isOctet_octetText 0 0, noLeadingZero_decimal 0⟩, isOctet_octetText 0 1, noLeadingZero_decimal 1⟩

/-- The address of `h1`, its text, and a text of it with leading zeros. -/
theorem address_text_inverse_h1 :
    (∃ t : CString, Canonical t ∧ t.length ≤ 15 ∧
      parseIpAddrToStr (calloc 16) 0x0A000001 = pure (t.bytes ++ 0 :: (calloc 16).drop (t.length + 1)) ∧
      parseIpAddr t = 0x0A000001) ∧
    parseIpAddrToStr (calloc 16) (parseIpAddr (.lit "10.0.0.1")) =
      pure ((CString.lit "10.0.0.1").bytes ++ 0 :: (calloc 16).drop ((CString.lit "10.0.0.1").length + 1)) ∧
    (parseIpAddr (.lit "010.0.00.1")).toNat = 10 * 2 ^ 24 + 0 * 2 ^ 16 + 0 * 2 ^ 8 + 1 := by
  refine ⟨address_text_inverse.1 0x0A000001 (calloc 16) rfl,
    address_text_inverse.2.1 (.lit "10.0.0.1") (calloc 16) canonical_h1 rfl, ?_⟩
  have h := address_text_inverse.2.2 (.lit "010.0.00.1") (octetText 1 10) (octetText 0 0) (octetText 1 0)
    (octetText 0 1) (by decide) (isOctet_octetText 1 10) (isOctet_octetText 0 0)
    (isOctet_octetText 1 0) (isOctet_octetText 0 1)
  simp only [digitsValue_octetText] at h
  exact h

end SimpleVpn
