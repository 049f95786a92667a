import SimpleVpn.Lib.Prog

/-!
# Assertions at the calls of a program

An assertion at a call speaks of the call, of the rest of the program as a function of the reply, and
of a state that the calls before it have built up. A program meets an assertion when it holds at every
call that some replies lead to. The rules follow the construction of the program.
-/

namespace CLang

namespace Prog

variable {Call : Type} {Reply : Call → Type} {σ α β : Type}

/-- Assertions at the calls of a program that returns a value of type `α`. -/
abbrev Assertion (Reply : Call → Type) (σ α : Type) :=
  σ → (c : Call) → (Reply c → Prog Reply α) → Prop

section Meets

variable (next : σ → (c : Call) → Reply c → σ)

/-- From a state on, every call of the program meets `P` and every return `Q`. -/
def Meets (P : Assertion Reply σ α) (Q : σ → α → Prop) : σ → Prog Reply α → Prop
  | s, ret a => Q s a
  | _, stop _ => True
  | s, stray _ p => Meets P Q s p
  | s, call c k => P s c k ∧ ∀ r, Meets P Q (next s c r) (k r)

/-- The state after the calls of a trace. -/
def stateAfter : σ → List (Event Reply) → σ
  | s, [] => s
  | s, .stray _ :: es => stateAfter s es
  | s, .call c r :: es => stateAfter (next s c r) es

lemma stateAfter_append (s : σ) (es es' : List (Event Reply)) :
    stateAfter next s (es ++ es') = stateAfter next (stateAfter next s es) es' := by
  induction es generalizing s with
  | nil => rfl
  | cons e es ih =>
    cases e with
    | stray x => exact ih s
    | call c r => exact ih (next s c r)

variable {next} {P : Assertion Reply σ α} {Q : σ → α → Prop} {s : σ}

lemma Meets.ret {a : α} (h : Q s a) : Meets next P Q s (pure a) := h

lemma Meets.call {c : Call} {k : Reply c → Prog Reply α} (h : P s c k)
    (hk : ∀ r, Meets next P Q (next s c r) (k r)) : Meets next P Q s (.call c k) :=
  ⟨h, hk⟩

lemma Meets.stop (e : Stop) : Meets next P Q s (.stop e) := trivial

lemma Meets.stray (x : Fault) {p : Prog Reply α} (h : Meets next P Q s p) : Meets next P Q s (.stray x p) := h

lemma Meets.step (c : Call) {f : Reply c → Prog Reply α} (h : P s c f)
    (hf : ∀ r, Meets next P Q (next s c r) (f r)) :
    Meets next P Q s ((.call c .ret : Prog Reply (Reply c)) >>= f) :=
  ⟨h, hf⟩

/-- States from which all assertions hold, whatever is called. -/
theorem Meets.of_invariant {I : σ → Prop} (hnext : ∀ s c r, I s → I (next s c r))
    (hcall : ∀ s c k, I s → P s c k) (hret : ∀ s a, I s → Q s a) (hs : I s) (p : Prog Reply α) :
    Meets next P Q s p := by
  induction p generalizing s with
  | ret a => exact hret s a hs
  | stop e => trivial
  | stray x p ih => exact ih hs
  | call c k ih => exact ⟨hcall s c k hs, fun r => ih r (hnext s c r hs)⟩

lemma Meets.mono {P' : Assertion Reply σ α} {Q' : σ → α → Prop} {p : Prog Reply α}
    (h : Meets next P Q s p) (hP : ∀ s c k, P s c k → P' s c k) (hQ : ∀ s a, Q s a → Q' s a) :
    Meets next P' Q' s p := by
  induction p generalizing s with
  | ret a => exact hQ s a h
  | stop e => trivial
  | stray x p ih => exact ih h
  | call c k ih => exact ⟨hP s c k h.1, fun r => ih r (h.2 r)⟩

/-- The assertion at the first call. -/
lemma Meets.first {c : Call} {k : Reply c → Prog Reply α} (h : Meets next P Q s (.call c k)) :
    P s c k :=
  h.1

/-- The rest of the program after the first call. -/
lemma Meets.rest {c : Call} {k : Reply c → Prog Reply α} (h : Meets next P Q s (.call c k))
    (r : Reply c) : Meets next P Q (next s c r) (k r) :=
  h.2 r

lemma Meets.of_ret {a : α} (h : Meets next P Q s (.ret a)) : Q s a := h

lemma Meets.of_stray {f : Fault} {p : Prog Reply α} (h : Meets next P Q s (.stray f p)) :
    Meets next P Q s p :=
  h

/-- In a sequence, the calls of the first part are followed by the second part. -/
theorem Meets.bind {p : Prog Reply β} {f : β → Prog Reply α}
    (h : Meets next (fun s c k => P s c fun r => k r >>= f) (fun s b => Meets next P Q s (f b)) s p) :
    Meets next P Q s (p >>= f) := by
  induction p generalizing s with
  | ret b => exact h
  | stop e => trivial
  | stray x p ih => exact ih h
  | call c k ih => exact ⟨h.1, fun r => ih r (h.2 r)⟩

/-- What is left of a program after a trace still meets the assertions. -/
theorem Meets.of_trace {p q : Prog Reply α} {es : List (Event Reply)} (h : Meets next P Q s p)
    (ht : Trace p es q) : Meets next P Q (stateAfter next s es) q := by
  induction ht generalizing s with
  | done p => exact h
  | stray f _ ih => exact ih h
  | call c r _ ih => exact ih (h.2 r)

end Meets

section Only

variable (C : Call → Prop)

/-- Every call of the program belongs to `C`. -/
def Only : Prog Reply α → Prop
  | ret _ => True
  | stop _ => True
  | stray _ p => Only p
  | call c k => C c ∧ ∀ r, Only (k r)

variable {C}

lemma Only.bind {p : Prog Reply β} {f : β → Prog Reply α} (hp : Only C p) (hf : ∀ b, Only C (f b)) :
    Only C (p >>= f) := by
  induction p with
  | ret b => exact hf b
  | stop e => trivial
  | stray x p ih => exact ih hp
  | call c k ih => exact ⟨hp.1, fun r => ih r (hp.2 r)⟩

lemma only_pure (a : α) : Only C (pure a : Prog Reply α) := trivial

lemma only_exit (status : Int) : Only C (exit status : Prog Reply α) := trivial

lemma only_call (c : Call) (hc : C c) {k : Reply c → Prog Reply α} (hk : ∀ r, Only C (k r)) :
    Only C (call c k) :=
  ⟨hc, hk⟩

lemma only_step (c : Call) (hc : C c) {f : Reply c → Prog Reply α} (hf : ∀ r, Only C (f r)) :
    Only C ((call c .ret : Prog Reply (Reply c)) >>= f) :=
  ⟨hc, hf⟩

lemma only_ofMem (m : Mem α) : Only C (ofMem m : Prog Reply α) := by
  rcases m with ⟨xs, r⟩
  unfold ofMem
  induction xs with
  | nil => cases r <;> trivial
  | cons x xs ih => exact ih

/-- Calls that leave the state alone and need no assertion can be passed over. -/
theorem Meets.of_only {next : σ → (c : Call) → Reply c → σ} {P : Assertion Reply σ α}
    {Q : σ → α → Prop} {s : σ} {p : Prog Reply α} (h : Only C p)
    (hnext : ∀ c r, C c → next s c r = s) (hcall : ∀ c k, C c → P s c k) (hret : ∀ a, Q s a) :
    Meets next P Q s p := by
  induction p with
  | ret a => exact hret a
  | stop e => trivial
  | stray x p ih => exact ih h
  | call c k ih =>
    refine ⟨hcall c k h.1, fun r => ?_⟩
    rw [hnext c r h.1]
    exact ih r (h.2 r)

end Only

-- the programs are not unfolded below: only the rules look into them
attribute [irreducible] Meets Only

end Prog

end CLang
