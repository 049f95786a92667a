import Mathlib.Algebra.Ring.Periodic
import Mathlib.Tactic.Lemma

/-!
# Combining a text with a keystream

A keystream gives one symbol for each position. `combine op s i l` combines the list `l` with the
keystream `s` symbol by symbol, where the head of `l` stands at position `i`. A list may be combined
in two parts that both start at position `0` exactly when the keystream repeats where the second
part starts.
-/

namespace CLang

open Function

section Combine

variable {α κ : Type*} (op : α → κ → α) (s : ℕ → κ)

def combine (i : ℕ) (l : List α) : List α := l.mapIdx fun j a => op a (s (i + j))

lemma combine_cons (i : ℕ) (a : α) (l : List α) :
    combine op s i (a :: l) = op a (s i) :: combine op s (i + 1) l := by
  rw [combine, List.mapIdx_cons, combine]
  simp only [Nat.add_zero, Nat.add_assoc, Nat.add_comm 1]

@[simp] lemma length_combine (i : ℕ) (l : List α) : (combine op s i l).length = l.length :=
  List.length_mapIdx

lemma getElem?_combine (i : ℕ) (l : List α) (j : ℕ) :
    (combine op s i l)[j]? = l[j]?.map fun a => op a (s (i + j)) := by
  rw [combine, List.getElem?_mapIdx]

/-- The second part of a text starts at the position where the first one ends. -/
lemma combine_append (i : ℕ) (l l' : List α) :
    combine op s i (l ++ l') = combine op s i l ++ combine op s (i + l.length) l' := by
  rw [combine, combine, combine, List.mapIdx_append]
  simp only [Nat.add_assoc, Nat.add_comm l.length]

lemma combine_take (i n : ℕ) (l : List α) :
    combine op s i (l.take n) = (combine op s i l).take n := by
  apply List.ext_getElem?
  intro j
  rw [getElem?_combine, List.getElem?_take, List.getElem?_take, getElem?_combine]
  split
  · rfl
  · rfl

/-- Combining twice gives the text back when the operation undoes itself. -/
lemma combine_combine (h : ∀ a c, op (op a c) c = a) (i : ℕ) (l : List α) :
    combine op s i (combine op s i l) = l := by
  apply List.ext_getElem?
  intro j
  rw [getElem?_combine, getElem?_combine, Option.map_map]
  have hid : (fun a => op a (s (i + j))) ∘ (fun a => op a (s (i + j))) = id := by
    funext a
    exact h a _
  rw [hid, Option.map_id, id]

variable {op}

/-- Two positions give the same result exactly when the keystream agrees along the text. -/
lemma combine_eq_combine_iff (hop : ∀ a, Injective (op a)) (i j : ℕ) (l : List α) :
    combine op s i l = combine op s j l ↔ ∀ n < l.length, s (i + n) = s (j + n) := by
  rw [combine, combine, List.mapIdx_eq_mapIdx_iff]
  constructor
  · intro h n hn
    exact hop _ (h n hn)
  · intro h n hn
    rw [h n hn]

/-- A text combined in two parts, both from position `0` on. -/
lemma combine_split_iff (hop : ∀ a, Injective (op a)) {q : ℕ} {l : List α} (hq : q ≤ l.length) :
    combine op s 0 (l.take q) ++ combine op s 0 (l.drop q) = combine op s 0 l ↔
      ∀ n < l.length - q, s n = s (n + q) := by
  conv_lhs =>
    rhs
    rw [← List.take_append_drop q l, combine_append, List.length_take_of_le hq]
  rw [List.append_cancel_left_eq, combine_eq_combine_iff s hop, List.length_drop]
  simp only [Nat.zero_add, Nat.add_comm q]

/-- Every text may be combined in two parts at `q` exactly when `q` is a period of the keystream. -/
theorem combine_split_forall_iff [Inhabited α] (hop : ∀ a, Injective (op a)) (q : ℕ) :
    (∀ l : List α, q ≤ l.length →
      combine op s 0 (l.take q) ++ combine op s 0 (l.drop q) = combine op s 0 l) ↔
      Periodic s q := by
  constructor
  · intro h n
    have hl : q ≤ (List.replicate (q + n + 1) (default : α)).length := by
      rw [List.length_replicate]
      omega
    have hn : n < (List.replicate (q + n + 1) (default : α)).length - q := by
      rw [List.length_replicate]
      omega
    exact ((combine_split_iff s hop hl).mp (h _ hl) n hn).symm
  · intro h l hl
    exact (combine_split_iff s hop hl).mpr fun n _ => (h n).symm

end Combine

end CLang
