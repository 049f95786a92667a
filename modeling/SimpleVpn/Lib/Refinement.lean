import Mathlib.Data.List.Forall2
import Mathlib.Data.List.Infix
import Mathlib.Logic.Relation

/-!
# Refinement

A system refines an abstract one when each of its steps is a step of the abstract system or cannot be seen
there. The simplest abstract system goes along a list, and has been through a prefix of it.
-/

namespace CLang

open Relation

variable {σ α ε : Type} {Step : σ → σ → Prop} {Next : α → α → Prop} {view : σ → α} {start t : σ}

/-- In every run from `start`, each step leaves the view of the state alone or is a step of the abstract
system. -/
def Refines (Step : σ → σ → Prop) (Next : α → α → Prop) (view : σ → α) (start : σ) : Prop :=
  ∀ s t, ReflTransGen Step start s → Step s t → view t = view s ∨ Next (view s) (view t)

/-- The views of a run are a run of the abstract system. -/
theorem Refines.reaches (h : Refines Step Next view start) (ht : ReflTransGen Step start t) :
    ReflTransGen Next (view start) (view t) := by
  induction ht with
  | refl => exact .refl
  | @tail s t hs hstep ih =>
    rcases h s t hs hstep with heq | hnext
    · rw [heq]
      exact ih
    · exact ih.tail hnext

/-- The next element of the list is appended to the part that is done. -/
def Along (journey : List ε) (p q : List ε) : Prop := ∃ e, q = p ++ [e] ∧ q <+: journey

section Along

variable {journey p q : List ε}

lemma Along.prefix_of_reaches (h : ReflTransGen (Along journey) [] p) : p <+: journey := by
  cases h with
  | refl => exact List.nil_prefix
  | tail _ hstep =>
    obtain ⟨e, -, hprefix⟩ := hstep
    exact hprefix

/-- Of two prefixes with at most one element between them, the longer one comes next. -/
lemma eq_or_along (hp : p <+: journey) (hq : q <+: journey) (hle : p.length ≤ q.length)
    (hlt : q.length ≤ p.length + 1) : q = p ∨ Along journey p q := by
  obtain ⟨rest, rfl⟩ := List.prefix_of_prefix_length_le hp hq hle
  rw [List.length_append] at hlt
  cases rest with
  | nil => exact .inl (List.append_nil p)
  | cons e rest =>
    rw [List.length_cons] at hlt
    obtain rfl := List.eq_nil_of_length_eq_zero (show rest.length = 0 by omega)
    exact .inr ⟨e, rfl, hq⟩

variable {view : σ → List ε} (h : Refines Step (Along journey) view start) (hstart : view start = [])
include h hstart

lemma Refines.view_prefix_journey (ht : ReflTransGen Step start t) : view t <+: journey := by
  have hreach := h.reaches ht
  rw [hstart] at hreach
  exact Along.prefix_of_reaches hreach

/-- A run that has come to a part of the list has been through all smaller parts. -/
theorem Refines.exists_view (ht : ReflTransGen Step start t) (hp : p <+: view t) :
    ∃ u, ReflTransGen Step start u ∧ view u = p := by
  induction ht with
  | refl =>
    rw [hstart, List.prefix_nil] at hp
    exact ⟨start, .refl, hstart.trans hp.symm⟩
  | @tail s t hs hstep ih =>
    rcases h s t hs hstep with heq | ⟨e, he, -⟩
    · rw [heq] at hp
      exact ih hp
    · rw [he, List.prefix_concat_iff] at hp
      rcases hp with rfl | hp
      · exact ⟨t, hs.tail hstep, he⟩
      · exact ih hp

end Along

/-- Parts of a list, one for each element, of which none is begun before the one in front of it is done. -/
lemma flatten_prefix_of_forall₂ {parts : List (List ε)} {journey : List ε}
    (h : List.Forall₂ (· <+: ·) parts (journey.map fun e => [e]))
    (hlen : parts.Pairwise fun p q => q.length ≤ p.length) : parts.flatten <+: journey := by
  induction journey generalizing parts with
  | nil =>
    rw [List.map_nil, List.forall₂_nil_right_iff] at h
    rw [h]
    exact List.nil_prefix
  | cons e journey ih =>
    rw [List.map_cons] at h
    cases h with
    | @cons p _ parts _ hp hparts =>
      obtain ⟨hhead, htail⟩ := List.pairwise_cons.mp hlen
      rw [List.flatten_cons]
      cases p with
      | nil =>
        have hnil : parts.flatten = [] := by
          rw [List.flatten_eq_nil_iff]
          intro q hq
          exact List.eq_nil_of_length_eq_zero (Nat.le_zero.mp (hhead q hq))
        rw [hnil]
        exact List.nil_prefix
      | cons x p =>
        obtain ⟨rfl, hrest⟩ := List.cons_prefix_cons.mp hp
        rw [List.prefix_nil.mp hrest, List.cons_append, List.nil_append, List.cons_prefix_cons]
        exact ⟨rfl, ih hparts htail⟩

end CLang
