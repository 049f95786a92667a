import SimpleVpn.Lib.Keystream
import SimpleVpn.Model.Encrypt

/-!
# The cipher as a function on byte strings

`xorFrom k i l` is the exclusive or of `l` with the repeating key, where the first byte of
`l` stands at packet index `i`. The loop of `xor_encrypt_decrypt` computes it.
-/

namespace SimpleVpn

open CLang

def xorFrom (k : Key) : Nat → List UInt8 → List UInt8
  | _, [] => []
  | i, b :: l => (b ^^^ k.at i) :: xorFrom k (i + 1) l

@[simp] lemma xorFrom_nil (k : Key) (i : Nat) : xorFrom k i [] = [] := rfl

@[simp] lemma xorFrom_cons (k : Key) (i : Nat) (b : UInt8) (l : List UInt8) :
    xorFrom k i (b :: l) = (b ^^^ k.at i) :: xorFrom k (i + 1) l := rfl

/-- The cipher combines the text with the key as a keystream. -/
lemma xorFrom_eq (k : Key) (i : Nat) (l : List UInt8) :
    xorFrom k i l = combine (· ^^^ ·) k.at i l := by
  induction l generalizing i with
  | nil => rfl
  | cons b l ih => rw [xorFrom_cons, ih, combine_cons]

@[simp] lemma length_xorFrom (k : Key) (i : Nat) (l : List UInt8) :
    (xorFrom k i l).length = l.length := by
  rw [xorFrom_eq, length_combine]

lemma xorFrom_append (k : Key) (i : Nat) (l l' : List UInt8) :
    xorFrom k i (l ++ l') = xorFrom k i l ++ xorFrom k (i + l.length) l' := by
  rw [xorFrom_eq, combine_append, ← xorFrom_eq, ← xorFrom_eq]

lemma xor_xor_key (b x : UInt8) : b ^^^ x ^^^ x = b := by
  rw [UInt8.xor_assoc, UInt8.xor_self, UInt8.xor_zero]

lemma xor_eq_zero (b x : UInt8) : b ^^^ x = 0 ↔ b = x := UInt8.xor_eq_zero_iff

lemma key_at_ne_zero (i : Nat) : key.at i ≠ 0 := by
  have h : ∀ j : Fin 4, key.get j ≠ 0 := by decide
  exact h (Fin.ofNat 4 i)

@[simp] lemma xorFrom_xorFrom (k : Key) (i : Nat) (l : List UInt8) :
    xorFrom k i (xorFrom k i l) = l := by
  rw [xorFrom_eq, xorFrom_eq, combine_combine _ _ xor_xor_key]

lemma getElem?_xorFrom (k : Key) (i : Nat) (l : List UInt8) (j : Nat) :
    (xorFrom k i l)[j]? = l[j]?.map (· ^^^ k.at (i + j)) := by
  rw [xorFrom_eq, getElem?_combine]

lemma xorFrom_take (k : Key) (i n : Nat) (l : List UInt8) :
    xorFrom k i (l.take n) = (xorFrom k i l).take n := by
  rw [xorFrom_eq, combine_take, ← xorFrom_eq]

/-- The loop writes the ciphertext over the part of the output that it visits. -/
lemma xorLoop_eq (k : Key) (input : Buf) (i n : Nat) (output : Buf)
    (hin : i + n ≤ input.length) (hout : i + n ≤ output.length) :
    xorLoop k input i n output =
      pure (overwrite output i (xorFrom k i ((input.drop i).take n))) := by
  induction n generalizing i output with
  | zero => simp [xorLoop, overwrite_nil]
  | succ n ih =>
    have hi : i < input.length := by omega
    have ho : i < output.length := by omega
    have hd : (input.drop i).take (n + 1) = input.getD i 0 :: (input.drop (i + 1)).take n := by
      rw [List.drop_eq_getElem_cons hi, List.take_succ_cons]
      simp [hi]
    rw [xorLoop, load_of_lt hi, pure_bind, store_of_lt ho, pure_bind,
      ih (i + 1) (output.set i _) (by omega) (by rw [List.length_set]; omega), hd, xorFrom_cons,
      overwrite_cons _ _ ho]

/-- The call on the first `n` bytes of the input gives the first `n` bytes of the ciphertext. -/
lemma xorEncryptDecrypt_take (k : Key) (x : Buf) {n : Nat} (h : n ≤ x.length) (output : Buf)
    (hout : output.length = n) :
    xorEncryptDecrypt k x output n = pure ((xorFrom k 0 x).take n) := by
  have hlen : (xorFrom k 0 (x.take n)).length = n := by
    rw [length_xorFrom, List.length_take_of_le h]
  rw [xorEncryptDecrypt, xorLoop_eq k x 0 n output (by omega) (by omega), List.drop_zero,
    overwrite, List.take_zero, List.nil_append, hlen, List.drop_of_length_le (by omega),
    List.append_nil, xorFrom_take]

theorem xorEncryptDecrypt_eq (k : Key) (input : Buf) (n : Nat) (h : n ≤ input.length) :
    xorEncryptDecrypt k input (calloc n) n = pure (xorFrom k 0 (input.take n)) := by
  rw [xorFrom_take]
  exact xorEncryptDecrypt_take k input h (calloc n) (length_calloc n)

/-- The number of bytes of a message before the first one that equals its key byte. -/
def cut (k : Key) : Nat → List UInt8 → Nat
  | _, [] => 0
  | i, b :: l => if b = k.at i then 0 else cut k (i + 1) l + 1

lemma cut_le (k : Key) (i : Nat) (l : List UInt8) : cut k i l ≤ l.length := by
  induction l generalizing i with
  | nil => exact Nat.le_refl 0
  | cons b l ih =>
    rw [cut, List.length_cons]
    split
    · exact Nat.zero_le _
    · exact Nat.succ_le_succ (ih (i + 1))

lemma getElem_of_lt_cut (k : Key) (i : Nat) (l : List UInt8) {j : Nat} (hj : j < cut k i l)
    (h : j < l.length) : l[j] ≠ k.at (i + j) := by
  induction l generalizing i j with
  | nil => exact absurd h (Nat.not_lt_zero j)
  | cons b l ih =>
    rw [cut] at hj
    split at hj
    · exact absurd hj (Nat.not_lt_zero j)
    · rename_i hb
      cases j with
      | zero => exact hb
      | succ j =>
        have := ih (i + 1) (Nat.lt_of_succ_lt_succ hj) (Nat.lt_of_succ_lt_succ h)
        rwa [Nat.add_assoc, Nat.add_comm 1] at this

lemma getElem_cut (k : Key) (i : Nat) (l : List UInt8) (h : cut k i l < l.length) :
    l[cut k i l] = k.at (i + cut k i l) := by
  induction l generalizing i with
  | nil => exact absurd h (Nat.not_lt_zero _)
  | cons b l ih =>
    by_cases hb : b = k.at i
    · have hcut : cut k i (b :: l) = 0 := by rw [cut, if_pos hb]
      simp only [hcut, List.getElem_cons_zero, Nat.add_zero]
      exact hb
    · have hcut : cut k i (b :: l) = cut k (i + 1) l + 1 := by rw [cut, if_neg hb]
      rw [hcut, List.length_cons] at h
      simp only [hcut, List.getElem_cons_succ]
      rw [ih (i + 1) (Nat.lt_of_succ_lt_succ h), Nat.add_assoc, Nat.add_comm 1]

lemma cut_eq_length_iff (k : Key) (i : Nat) (l : List UInt8) :
    cut k i l = l.length ↔ ∀ (j : Nat) (h : j < l.length), l[j] ≠ k.at (i + j) := by
  constructor
  · intro h j hj
    exact getElem_of_lt_cut k i l (h ▸ hj) hj
  · intro h
    by_contra hne
    have hlt := Nat.lt_of_le_of_ne (cut_le k i l) hne
    exact h _ hlt (getElem_cut k i l hlt)

/-- The first NUL of a ciphertext that zeros follow. -/
lemma takeWhile_xorFrom (k : Key) (i c : Nat) (l : List UInt8) :
    (xorFrom k i l ++ List.replicate (c + 1) 0).takeWhile (· != 0) =
      (xorFrom k i l).take (cut k i l) := by
  induction l generalizing i with
  | nil => simp [List.replicate_succ, cut]
  | cons b l ih =>
    rw [xorFrom_cons, cut, List.cons_append]
    split
    · rename_i hb
      simp [hb]
    · rename_i hb
      have hne : b ^^^ k.at i ≠ 0 := fun h => hb ((xor_eq_zero b _).mp h)
      rw [List.takeWhile_cons_of_pos (by simpa using hne), ih, List.take_succ_cons]

end SimpleVpn
