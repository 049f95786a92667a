import SimpleVpn.Proofs.Cipher

/-!
# The cipher on the parts of a text

`xor_encrypt_decrypt` counts the key from the first byte of its input. A prefix of a text is
encrypted to the prefix of the ciphertext; the rest of the text is encrypted to the rest of the
ciphertext when it starts at a period of the key.
-/

namespace SimpleVpn

open CLang Function

/-- `xor_encrypt_decrypt` writes `y` over every output buffer of the size of `x`. -/
def Encrypts (k : Key) (x y : Buf) : Prop :=
  ∀ output : Buf, output.length = x.length → xorEncryptDecrypt k x output x.length = pure y

/-- The two parts of `x` at `q`, each encrypted by a call of its own, are `x` encrypted. -/
def SplitsAt (k : Key) (x : Buf) (q : Nat) : Prop :=
  ∃ a b y, Encrypts k (x.take q) a ∧ Encrypts k (x.drop q) b ∧ Encrypts k x y ∧ a ++ b = y

variable (k : Key)

lemma encrypts_xorFrom (x : Buf) : Encrypts k x (xorFrom k 0 x) := by
  intro output hout
  rw [xorEncryptDecrypt_take k x (Nat.le_refl _) output hout,
    List.take_of_length_le (length_xorFrom k 0 x).le]

lemma encrypts_iff (x y : Buf) : Encrypts k x y ↔ y = xorFrom k 0 x := by
  constructor
  · intro h
    have hx := encrypts_xorFrom k x (calloc x.length) (length_calloc x.length)
    rw [h (calloc x.length) (length_calloc x.length), Mem.pure_inj] at hx
    exact hx
  · rintro rfl
    exact encrypts_xorFrom k x

lemma splitsAt_iff (x : Buf) (q : Nat) :
    SplitsAt k x q ↔ xorFrom k 0 (x.take q) ++ xorFrom k 0 (x.drop q) = xorFrom k 0 x := by
  simp only [SplitsAt, encrypts_iff]
  constructor
  · rintro ⟨a, b, y, rfl, rfl, rfl, h⟩
    exact h
  · intro h
    exact ⟨_, _, _, rfl, rfl, rfl, h⟩

lemma periodic_key_at {q : Nat} (hq : 4 ∣ q) : Periodic k.at q := by
  intro i
  have hi : Fin.ofNat 4 (i + q) = Fin.ofNat 4 i := by
    obtain ⟨m, rfl⟩ := hq
    exact Fin.ext (Nat.add_mul_mod_self_left i 4 m)
  rw [Key.at, Key.at, hi]

/-- The four bytes of the programs' key differ, so its keystream has no shorter period. -/
lemma periodic_key_iff (q : Nat) : Periodic key.at q ↔ 4 ∣ q := by
  constructor
  · intro h
    have hinj : ∀ j : Fin 4, key.get j = key.get 0 → j = 0 := by decide
    have hq : Fin.ofNat 4 q = 0 := hinj _ h.eq
    exact Nat.dvd_of_mod_eq_zero (congrArg Fin.val hq)
  · exact periodic_key_at key

lemma xor_injective (b : UInt8) : Injective (b ^^^ ·) := by
  have hinv : Involutive (b ^^^ ·) := by
    intro x
    change b ^^^ (b ^^^ x) = x
    rw [← UInt8.xor_assoc, UInt8.xor_self, UInt8.zero_xor]
  exact hinv.injective

/-- Every text may be split at `q` exactly when `q` is a period of the key. -/
lemma splitsAt_forall_iff (q : Nat) :
    (∀ x : Buf, q ≤ x.length → SplitsAt k x q) ↔ Periodic k.at q := by
  simp only [splitsAt_iff, xorFrom_eq]
  exact combine_split_forall_iff k.at xor_injective q

/-- For every key the cipher undoes itself, keeps prefixes and may be run on two parts of a text at a
multiple of the key's length. At any other offset the programs' key gives some text a different
ciphertext. -/
theorem cipher_on_parts :
    (∀ (k : Key) (x : Buf), ∃ y, Encrypts k x y ∧ Encrypts k y x ∧
      ∀ n ≤ x.length, Encrypts k (x.take n) (y.take n) ∧
        ∀ output : Buf, output.length = n → xorEncryptDecrypt k x output n = pure (y.take n)) ∧
    (∀ (k : Key) (x : Buf) (q : Nat), q ≤ x.length → 4 ∣ q → SplitsAt k x q) ∧
    ∀ q : Nat, ¬4 ∣ q → ∃ x : Buf, q ≤ x.length ∧ ¬SplitsAt key x q := by
  refine ⟨fun k x => ⟨xorFrom k 0 x, encrypts_xorFrom k x, ?_, fun n hn => ⟨?_, ?_⟩⟩, ?_, ?_⟩
  · rw [encrypts_iff, xorFrom_xorFrom]
  · rw [encrypts_iff, xorFrom_take]
  · exact xorEncryptDecrypt_take k x hn
  · intro k x q hq h4
    exact (splitsAt_forall_iff k q).mpr (periodic_key_at k h4) x hq
  · intro q hq
    by_contra hno
    push Not at hno
    exact hq ((periodic_key_iff q).mp ((splitsAt_forall_iff key q).mp hno))

theorem cipher_on_parts_abcdef :
    (∃ y, Encrypts key [0x61, 0x62, 0x63, 0x64, 0x65, 0x66] y ∧
      Encrypts key [0x61, 0x62, 0x63] (y.take 3)) ∧
    SplitsAt key [0x61, 0x62, 0x63, 0x64, 0x65, 0x66] 4 ∧
    ∃ x : Buf, 3 ≤ x.length ∧ ¬SplitsAt key x 3 := by
  obtain ⟨y, hy, -, hprefixes⟩ := cipher_on_parts.1 key [0x61, 0x62, 0x63, 0x64, 0x65, 0x66]
  exact ⟨⟨y, hy, (hprefixes 3 (by decide)).1⟩, cipher_on_parts.2.1 key _ 4 (by decide) (by decide),
    cipher_on_parts.2.2 3 (by decide)⟩

end SimpleVpn
