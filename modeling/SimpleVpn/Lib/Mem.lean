import Mathlib.Data.List.TakeWhile
import Mathlib.Tactic.Lemma

/-!
# Computations on C objects

A C function works on objects of fixed size. An access outside its object is undefined
behaviour, and the two kinds of access are treated differently: a load outside an object
has no value, so the computation stops there; a store outside an object is recorded and
changes no object of the model. A computation without faults is a pure value.
-/

namespace CLang

inductive Fault where
  | load (index : Int) (size : Nat)
  | store (index : Int) (size : Nat)
  | null
  deriving DecidableEq, Repr

/-- A program stops by itself, or a signal kills it. -/
inductive Stop where
  | fault (f : Fault)
  | exit (status : Int)
  | signal
  deriving DecidableEq, Repr

inductive Outcome (α : Type) where
  | value (a : α)
  | stop (s : Stop)
  deriving DecidableEq, Repr

/-- The recorded stores outside objects, in order, and how the computation ended. -/
structure Mem (α : Type) where
  stray : List Fault
  result : Outcome α
  deriving DecidableEq, Repr

namespace Mem

variable {α β γ : Type}

def fault (f : Fault) : Mem α := ⟨[], .stop (.fault f)⟩

protected def bind (m : Mem α) (f : α → Mem β) : Mem β :=
  match m.result with
  | .value a => ⟨m.stray ++ (f a).stray, (f a).result⟩
  | .stop s => ⟨m.stray, .stop s⟩

instance : Monad Mem where
  pure a := ⟨[], .value a⟩
  bind := Mem.bind

lemma pure_def (a : α) : (pure a : Mem α) = ⟨[], .value a⟩ := rfl

lemma bind_def (m : Mem α) (f : α → Mem β) : (m >>= f) = Mem.bind m f := rfl

lemma value_bind (xs : List Fault) (a : α) (f : α → Mem β) :
    ((⟨xs, .value a⟩ : Mem α) >>= f) = ⟨xs ++ (f a).stray, (f a).result⟩ := rfl

lemma bind_pure_eq (m : Mem α) : Mem.bind m pure = m := by
  rcases m with ⟨s, r⟩
  cases r with
  | stop e => rfl
  | value a => simp [Mem.bind, pure_def]

lemma bind_bind (m : Mem α) (f : α → Mem β) (g : β → Mem γ) :
    Mem.bind (Mem.bind m f) g = Mem.bind m (fun a => Mem.bind (f a) g) := by
  rcases m with ⟨s, r⟩
  cases r with
  | stop e => rfl
  | value a =>
    simp only [Mem.bind]
    cases (f a).result with
    | stop e => rfl
    | value b => simp

instance : LawfulMonad Mem :=
  LawfulMonad.mk' Mem (fun m => bind_pure_eq m) (fun _ _ => rfl) (fun m f g => bind_bind m f g)

@[simp] lemma fault_map (f : Fault) (g : α → β) : (g <$> fault f : Mem β) = fault f := rfl

lemma map_inj {g : α → β} (hg : Function.Injective g) {m m' : Mem α} :
    (g <$> m : Mem β) = g <$> m' ↔ m = m' := by
  constructor
  · intro h
    rcases m with ⟨s, r⟩
    rcases m' with ⟨s', r'⟩
    cases r <;> cases r' <;>
      simp_all [← bind_pure_comp, bind_def, Mem.bind, pure_def, hg.eq_iff]
  · intro h
    rw [h]

@[simp] lemma stray_pure (a : α) : (pure a : Mem α).stray = [] := rfl

@[simp] lemma result_pure (a : α) : (pure a : Mem α).result = .value a := rfl

@[simp] lemma pure_inj (a b : α) : (pure a : Mem α) = pure b ↔ a = b := by
  simp [pure_def]

@[simp] lemma fault_ne_pure (f : Fault) (a : α) : (fault f : Mem α) ≠ pure a := by
  simp [fault, pure_def]

/-- The computation returns `a`, whatever stores outside objects it makes. -/
def Returns (m : Mem α) (a : α) : Prop := m.result = .value a

instance [DecidableEq α] (m : Mem α) (a : α) : Decidable (m.Returns a) :=
  inferInstanceAs (Decidable (m.result = .value a))

def value? (m : Mem α) : Option α :=
  match m.result with
  | .value a => some a
  | .stop _ => none

@[simp] lemma value?_pure (a : α) : (pure a : Mem α).value? = some a := rfl

@[simp] lemma value?_fault (f : Fault) : (fault f : Mem α).value? = none := rfl

/-- The computation returns and makes every access inside its object. -/
def Safe (m : Mem α) : Prop := m.stray = [] ∧ ∃ a, m.Returns a

lemma returns_pure (a : α) : (pure a : Mem α).Returns a := rfl

@[simp] lemma returns_pure_iff (a b : α) : (pure a : Mem α).Returns b ↔ a = b := by
  simp [Returns]

@[simp] lemma not_returns_fault (f : Fault) (a : α) : ¬ (fault f : Mem α).Returns a := by
  simp [Returns, fault]

lemma returns_unique {m : Mem α} {a b : α} (ha : m.Returns a) (hb : m.Returns b) : a = b := by
  have h : Outcome.value a = .value b := ha.symm.trans hb
  exact Outcome.value.inj h

lemma returns_bind {m : Mem α} {f : α → Mem β} {b : β} :
    (m >>= f).Returns b ↔ ∃ a, m.Returns a ∧ (f a).Returns b := by
  rcases m with ⟨s, r⟩
  cases r with
  | stop e => simp [Returns, bind_def, Mem.bind]
  | value a => simp [Returns, bind_def, Mem.bind]

lemma safe_iff {m : Mem α} : m.Safe ↔ ∃ a, m = pure a := by
  rcases m with ⟨s, r⟩
  simp [Safe, Returns, pure_def]

@[simp] lemma safe_pure (a : α) : (pure a : Mem α).Safe := safe_iff.mpr ⟨a, rfl⟩

@[simp] lemma not_safe_fault (f : Fault) : ¬ (fault f : Mem α).Safe := by
  simp [Safe]

lemma bind_eq_pure {m : Mem α} {f : α → Mem β} {b : β} :
    (m >>= f) = pure b ↔ ∃ a, m = pure a ∧ f a = pure b := by
  rcases m with ⟨s, r⟩
  cases r with
  | stop e => simp [bind_def, Mem.bind, pure_def]
  | value a =>
    constructor
    · intro h
      simp only [bind_def, Mem.bind, pure_def, Mem.mk.injEq, List.append_eq_nil_iff] at h
      refine ⟨a, by simp [pure_def, h.1.1], ?_⟩
      rcases hf : f a with ⟨s', r'⟩
      simp_all [pure_def]
    · rintro ⟨a', ha, hf⟩
      rw [ha, pure_bind, hf]

lemma safe_bind {m : Mem α} {f : α → Mem β} :
    (m >>= f).Safe ↔ ∃ a, m = pure a ∧ (f a).Safe := by
  simp only [safe_iff, bind_eq_pure]
  constructor
  · rintro ⟨b, a, hm, hf⟩
    exact ⟨a, hm, b, hf⟩
  · rintro ⟨a, hm, b, hf⟩
    exact ⟨b, a, hm, hf⟩

end Mem

abbrev Buf := List UInt8

def calloc (n : Nat) : Buf := List.replicate n 0

@[simp] lemma length_calloc (n : Nat) : (calloc n).length = n := List.length_replicate

def load (b : Buf) (i : Int) : Mem UInt8 :=
  if 0 ≤ i ∧ i < b.length then pure (b.getD i.toNat 0) else .fault (.load i b.length)

def store (b : Buf) (i : Int) (v : UInt8) : Mem Buf :=
  if 0 ≤ i ∧ i < b.length then pure (b.set i.toNat v) else ⟨[.store i b.length], .value b⟩

def loadRange (b : Buf) (i n : Nat) : Mem (List UInt8) :=
  if i + n ≤ b.length then pure ((b.drop i).take n)
  else .fault (.load (max i b.length) b.length)

def storeRange (b : Buf) (i : Nat) : List UInt8 → Mem Buf
  | [] => pure b
  | v :: vs => do
    let b ← store b i v
    storeRange b (i + 1) vs

def overwrite (b : Buf) (i : Nat) (bytes : List UInt8) : Buf :=
  b.take i ++ bytes ++ b.drop (i + bytes.length)

lemma load_of_lt {b : Buf} {i : Nat} (h : i < b.length) : load b i = pure (b.getD i 0) := by
  simp [load, h]

lemma store_of_lt {b : Buf} {i : Nat} (h : i < b.length) (v : UInt8) :
    store b i v = pure (b.set i v) := by
  simp [store, h]

lemma store_of_not_mem {b : Buf} {i : Int} (h : ¬ (0 ≤ i ∧ i < b.length)) (v : UInt8) :
    store b i v = ⟨[.store i b.length], .value b⟩ := by
  simp [store, h]

lemma loadRange_of_le {b : Buf} {i n : Nat} (h : i + n ≤ b.length) :
    loadRange b i n = pure ((b.drop i).take n) := by
  simp [loadRange, h]

lemma length_overwrite {b : Buf} {i : Nat} {bytes : List UInt8} (h : i + bytes.length ≤ b.length) :
    (overwrite b i bytes).length = b.length := by
  simp only [overwrite, List.length_append, List.length_take, List.length_drop]
  omega

lemma overwrite_nil (b : Buf) (i : Nat) : overwrite b i [] = b := by
  simp [overwrite]

lemma overwrite_cons {b : Buf} {i : Nat} (v : UInt8) (vs : List UInt8) (h : i < b.length) :
    overwrite (b.set i v) (i + 1) vs = overwrite b i (v :: vs) := by
  simp only [overwrite, List.length_cons]
  rw [List.drop_set_of_lt (by omega), List.take_add_one,
    List.take_set_of_le (Nat.le_refl i)]
  simp [h, Nat.add_assoc, Nat.add_comm 1]

lemma storeRange_of_le {b : Buf} {i : Nat} {bytes : List UInt8} (h : i + bytes.length ≤ b.length) :
    storeRange b i bytes = pure (overwrite b i bytes) := by
  induction bytes generalizing b i with
  | nil => simp [storeRange, overwrite_nil]
  | cons v vs ih =>
    have hi : i < b.length := by simp only [List.length_cons] at h; omega
    rw [storeRange, store_of_lt hi, pure_bind,
      ih (by simp only [List.length_cons] at h; simp only [List.length_set]; omega),
      overwrite_cons v vs hi]

lemma not_safe_storeRange {b : Buf} {i : Nat} {bytes : List UInt8}
    (h : b.length < i + bytes.length) (hne : bytes ≠ []) : ¬ (storeRange b i bytes).Safe := by
  induction bytes generalizing b i with
  | nil => exact absurd rfl hne
  | cons v vs ih =>
    rw [storeRange, Mem.safe_bind]
    rintro ⟨b', hb', hs⟩
    by_cases hi : i < b.length
    · rw [store_of_lt hi, Mem.pure_inj] at hb'
      subst hb'
      simp only [List.length_cons] at h
      refine ih (by simp only [List.length_set]; omega) ?_ hs
      rintro rfl
      simp only [List.length_nil] at h
      omega
    · rw [store_of_not_mem (by omega)] at hb'
      simp [Mem.pure_def] at hb'

lemma loadRange_append (a b c : List UInt8) :
    loadRange (a ++ b ++ c) a.length b.length = pure b := by
  rw [loadRange_of_le (by simp)]
  simp

lemma overwrite_append (a c : List UInt8) {b bytes : List UInt8} (h : bytes.length = b.length) :
    overwrite (a ++ b ++ c) a.length bytes = a ++ bytes ++ c := by
  simp [overwrite, h]

lemma storeRange_append (a c : List UInt8) {b bytes : List UInt8} (h : bytes.length = b.length) :
    storeRange (a ++ b ++ c) a.length bytes = pure (a ++ bytes ++ c) := by
  rw [storeRange_of_le (by simp [h]), overwrite_append a c h]

lemma getElem?_append_of_outside (a c : List UInt8) {b b' : List UInt8} (h : b.length = b'.length)
    {i : Nat} (hi : i < a.length ∨ a.length + b.length ≤ i) :
    (a ++ b ++ c)[i]? = (a ++ b' ++ c)[i]? := by
  rcases hi with hi | hi
  · rw [List.append_assoc, List.append_assoc, List.getElem?_append_left hi,
      List.getElem?_append_left hi]
  · rw [List.getElem?_append_right (by rw [List.length_append]; exact hi),
      List.getElem?_append_right (by rw [List.length_append, ← h]; exact hi), List.length_append,
      List.length_append, h]

lemma getElem?_append_congr (a c : List UInt8) {b b' : List UInt8} (h : b.length = b'.length) {i : Nat}
    (hi : a.length ≤ i → b[i - a.length]? = b'[i - a.length]?) :
    (a ++ b ++ c)[i]? = (a ++ b' ++ c)[i]? := by
  by_cases hout : i < a.length ∨ a.length + b.length ≤ i
  · exact getElem?_append_of_outside a c h hout
  · have hle : a.length ≤ i := by omega
    have hlt : i < (a ++ b).length := by
      rw [List.length_append]
      omega
    have hlt' : i < (a ++ b').length := by
      rw [List.length_append, ← h]
      omega
    rw [List.getElem?_append_left hlt, List.getElem?_append_left hlt', List.getElem?_append_right hle,
      List.getElem?_append_right hle, hi hle]

lemma calloc_add (m n : Nat) : calloc (m + n) = calloc m ++ calloc n :=
  List.replicate_append_replicate.symm

/-! ### Strings -/

/-- A C string, without its terminating NUL. -/
structure CString where
  bytes : List UInt8
  nonzero : ∀ c ∈ bytes, c ≠ 0

namespace CString

instance : DecidableEq CString := fun s t =>
  decidable_of_iff (s.bytes = t.bytes) (by cases s; cases t; simp)

@[ext] lemma ext {s t : CString} (h : s.bytes = t.bytes) : s = t := by
  cases s
  cases t
  simpa using h

def length (s : CString) : Nat := s.bytes.length

/-- The bytes before the first NUL. -/
def textOf (l : List UInt8) : CString where
  bytes := l.takeWhile (· != 0)
  nonzero := by
    intro c hc
    simpa using List.mem_takeWhile_imp hc

lemma bytes_textOf (l : List UInt8) : (textOf l).bytes = l.takeWhile (· != 0) := rfl

lemma take_length_textOf (l : List UInt8) : l.take (textOf l).length = (textOf l).bytes :=
  (List.prefix_iff_eq_take.mp (List.takeWhile_prefix _)).symm

lemma textOf_append (s : CString) (l : List UInt8) : textOf (s.bytes ++ 0 :: l) = s := by
  apply CString.ext
  rw [bytes_textOf, List.takeWhile_append_of_pos (by simpa using s.nonzero)]
  simp

/-- The byte after the text is the NUL that ends it. -/
lemma getElem?_length_textOf {l : List UInt8} (h : 0 ∈ l) : l[(textOf l).length]? = some 0 := by
  induction l with
  | nil => simp at h
  | cons b l ih =>
    by_cases hb : b = 0
    · simp [length, bytes_textOf, hb]
    · have hl : 0 ∈ l := by simpa [Ne.symm hb] using h
      have hlen : (textOf (b :: l)).length = (textOf l).length + 1 := by
        simp [length, bytes_textOf, hb]
      rw [hlen, List.getElem?_cons_succ, ih hl]

lemma length_textOf_le {l : List UInt8} {n : Nat} (h : l[n]? = some 0) : (textOf l).length ≤ n := by
  by_contra hlt
  have hbytes : (textOf l).bytes[n]? = some 0 := by
    obtain ⟨rest, hrest⟩ := List.takeWhile_prefix (· != 0) (l := l)
    rw [← bytes_textOf] at hrest
    rw [← hrest, List.getElem?_append_left (Nat.lt_of_not_le hlt)] at h
    exact h
  exact (textOf l).nonzero 0 (List.mem_of_getElem? hbytes) rfl

lemma length_textOf_lt {l : List UInt8} (h : 0 ∈ l) : (textOf l).length < l.length := by
  apply Nat.lt_of_le_of_ne (List.takeWhile_prefix _).length_le
  intro heq
  have hself : l.takeWhile (· != 0) = l := (List.takeWhile_prefix _).eq_of_length heq
  exact absurd (List.takeWhile_eq_self_iff.mp hself 0 h) (by decide)

end CString

/-- The C string that starts at index `i`; the scan faults when no NUL ends it. -/
def cstringAt (b : Buf) (i : Nat) : Mem CString :=
  if 0 ∈ b.drop i then pure (.textOf (b.drop i)) else .fault (.load (max i b.length) b.length)

def strlen (b : Buf) (i : Nat) : Mem Nat := CString.length <$> cstringAt b i

lemma cstringAt_of_mem {b : Buf} {i : Nat} (h : 0 ∈ b.drop i) :
    cstringAt b i = pure (.textOf (b.drop i)) := by
  rw [cstringAt, if_pos h]

lemma cstringAt_of_not_mem {b : Buf} {i : Nat} (h : 0 ∉ b.drop i) :
    cstringAt b i = .fault (.load (max i b.length) b.length) := by
  rw [cstringAt, if_neg h]

lemma cstringAt_eq_pure {b : Buf} {i : Nat} {s : CString} :
    cstringAt b i = pure s ↔ 0 ∈ b.drop i ∧ .textOf (b.drop i) = s := by
  by_cases h : 0 ∈ b.drop i
  · simp [cstringAt_of_mem h, h]
  · simp [cstringAt_of_not_mem h, h]

lemma cstringAt_append (a : List UInt8) (s : CString) (c : List UInt8) {i : Nat}
    (hi : i = a.length) : cstringAt (a ++ s.bytes ++ 0 :: c) i = pure s := by
  have hdrop : (a ++ s.bytes ++ 0 :: c).drop i = s.bytes ++ 0 :: c := by
    rw [hi, List.append_assoc, List.drop_left]
  rw [cstringAt_of_mem (by rw [hdrop]; simp), hdrop, CString.textOf_append]

/-- The `n` bytes that `strncpy` writes: the string, cut or padded with NULs to `n` bytes. -/
def strncpyBytes (s : CString) (n : Nat) : List UInt8 :=
  s.bytes.take n ++ List.replicate (n - s.length) 0

def strncpy (dst : Buf) (i : Nat) (src : CString) (n : Nat) : Mem Buf :=
  storeRange dst i (strncpyBytes src n)

def memcpy (dst : Buf) (i : Nat) (src : Buf) (n : Nat) : Mem Buf := do
  storeRange dst i (← loadRange src 0 n)

@[simp] lemma length_strncpyBytes (s : CString) (n : Nat) : (strncpyBytes s n).length = n := by
  simp only [strncpyBytes, CString.length, List.length_append, List.length_take,
    List.length_replicate]
  omega

/-- A copy that stays inside the buffer finds room for all its bytes. -/
lemma strncpy_eq_pure {dst b : Buf} {i n : Nat} {src : CString} (hi : i ≤ dst.length)
    (h : strncpy dst i src n = pure b) :
    i + n ≤ dst.length ∧ b = overwrite dst i (strncpyBytes src n) := by
  have hlen := length_strncpyBytes src n
  have hfit : i + n ≤ dst.length := by
    by_contra hlong
    refine not_safe_storeRange (by rw [hlen]; omega) ?_ (Mem.safe_iff.mpr ⟨b, h⟩)
    intro hnil
    rw [hnil, List.length_nil] at hlen
    omega
  rw [strncpy, storeRange_of_le (by rw [hlen]; exact hfit), Mem.pure_inj] at h
  exact ⟨hfit, h.symm⟩

def newline : UInt8 := 10

/-- `fgets` of a line, cut to the size of the object. At the end of the input the object keeps what it holds. -/
def fgets (b : Buf) (stdin : List UInt8) : Buf :=
  let line := stdin.takeWhile (· != newline) ++ (stdin.dropWhile (· != newline)).take 1
  if stdin = [] then b else overwrite b 0 (line.take (b.length - 1) ++ [0])

/-- `strcspn` for one rejected byte; the scan faults when neither this byte nor a NUL ends it. -/
def strcspn (b : Buf) (reject : UInt8) : Mem Nat :=
  if reject ∈ b ∨ 0 ∈ b then pure (b.takeWhile fun c => c != reject && c != 0).length
  else .fault (.load b.length b.length)

lemma strcspn_of_mem {b : Buf} {reject : UInt8} (h : reject ∈ b ∨ 0 ∈ b) :
    ∃ n < b.length, strcspn b reject = pure n := by
  refine ⟨_, ?_, if_pos h⟩
  refine Nat.lt_of_le_of_ne (List.takeWhile_prefix _).length_le fun heq => ?_
  have hself := List.takeWhile_eq_self_iff.mp ((List.takeWhile_prefix _).eq_of_length heq)
  rcases h with h | h
  · simpa using hself reject h
  · simpa using hself 0 h

lemma strcspn_of_not_mem {b : Buf} {reject : UInt8} (h : ¬ (reject ∈ b ∨ 0 ∈ b)) :
    strcspn b reject = .fault (.load b.length b.length) :=
  if_neg h

lemma length_fgets {b : Buf} (stdin : List UInt8) (h : 0 < b.length) : (fgets b stdin).length = b.length := by
  unfold fgets
  split
  · rfl
  · refine length_overwrite ?_
    simp only [List.length_append, List.length_take, List.length_singleton]
    omega

lemma zero_mem_fgets (b : Buf) {stdin : List UInt8} (h : stdin ≠ []) : 0 ∈ fgets b stdin := by
  simp [fgets, h, overwrite]

def deref {α : Type} : Option α → Mem α
  | some a => pure a
  | none => .fault .null

/-- A `size_t` converted to a 32-bit `int`, modulo `2 ^ 32`. -/
def toInt (n : Nat) : Int := Int.bmod n 4294967296

/-- An `int` converted to a 64-bit `size_t`. -/
def toSize (i : Int) : Nat := (i % 18446744073709551616).toNat

lemma toSize_toInt_of_lt {n : Nat} (h : n % 4294967296 < 2147483648) :
    toSize (toInt n) = n % 4294967296 := by
  unfold toSize toInt
  rw [Int.bmod_def]
  split <;> omega

/-- A length whose low 32 bits look negative becomes a huge `size_t`. -/
lemma le_toSize_toInt {n : Nat} (h : 2147483648 ≤ n % 4294967296) :
    2147483648 ≤ toSize (toInt n) := by
  unfold toSize toInt
  rw [Int.bmod_def]
  split <;> omega

lemma toInt_of_mod_lt {n : Nat} (h : n % 4294967296 < 2147483648) :
    toInt n = (n % 4294967296 : Nat) := by
  unfold toInt
  rw [Int.bmod_def]
  split <;> omega

lemma toInt_of_lt {n : Nat} (h : n < 2147483648) : toInt n = n := by
  unfold toInt
  exact Int.bmod_eq_of_le (by omega) (by omega)

end CLang
