import SimpleVpn.Lib.Prog

/-!
# Errors of programs

Which errors a program may make, in states that the events of its run build up: where it may store outside
an object, where it may stop, and where it goes on.
-/

namespace CLang

namespace Prog

variable {Call : Type} {Reply : Call → Type} {σ α β : Type}

/-- The states in which a program goes on with a call or returns, stores outside an object and stops. -/
structure ErrorSpec (σ : Type) where
  continues : σ → Prop
  strays : σ → Fault → Prop
  stops : σ → Stop → Prop

variable (next : σ → Event Reply → σ) (E : ErrorSpec σ)

/-- From a state on, the program makes no other errors, and it makes these errors. -/
def Behaves : σ → Prog Reply α → Prop
  | s, ret _ => E.continues s
  | s, stop e => E.stops s e
  | s, stray x p => E.strays s x ∧ Behaves (next s (.stray x)) p
  | s, call c k => E.continues s ∧ ∀ r, Behaves (next s (.call c r)) (k r)

variable {next E} {s : σ}

namespace Behaves

lemma ret (a : α) (h : E.continues s) : Behaves next E s (pure a : Prog Reply α) := h

lemma stop {e : Stop} (h : E.stops s e) : Behaves next E s (.stop e : Prog Reply α) := h

lemma stray {x : Fault} {p : Prog Reply α} (h : E.strays s x) (hp : Behaves next E (next s (.stray x)) p) :
    Behaves next E s (.stray x p) :=
  ⟨h, hp⟩

lemma call {c : Call} {k : Reply c → Prog Reply α} (h : E.continues s)
    (hk : ∀ r, Behaves next E (next s (.call c r)) (k r)) : Behaves next E s (.call c k) :=
  ⟨h, hk⟩

lemma step (c : Call) {f : Reply c → Prog Reply α} (h : E.continues s)
    (hf : ∀ r, Behaves next E (next s (.call c r)) (f r)) :
    Behaves next E s ((.call c .ret : Prog Reply (Reply c)) >>= f) :=
  ⟨h, hf⟩

/-- A computation that faults. -/
lemma fault {x : Fault} (h : E.stops s (.fault x)) (f : β → Prog Reply α) :
    Behaves next E s (Prog.ofMem (.fault x : Mem β) >>= f) :=
  h

/-- What is left of the program after a trace still behaves. -/
theorem of_trace {p q : Prog Reply α} {es : List (Event Reply)} (h : Behaves next E s p)
    (ht : Trace p es q) : Behaves next E (es.foldl next s) q := by
  induction ht generalizing s with
  | done p => exact h
  | stray x _ ih => exact ih h.2
  | call c r _ ih => exact ih (h.2 r)

end Behaves

/-- In every run the program goes on, stores outside an object and stops in the states of the specification
only. -/
structure ErrorsOf (next : σ → Event Reply → σ) (E : ErrorSpec σ) (s : σ) (p : Prog Reply α) : Prop where
  continues : ∀ es c k, Trace p es (.call c k) → E.continues (es.foldl next s)
  returns : ∀ es a, Trace p es (.ret a) → E.continues (es.foldl next s)
  strays : ∀ es x q, Trace p es (.stray x q) → E.strays (es.foldl next s) x
  stops : ∀ es e, Trace p es (.stop e) → E.stops (es.foldl next s) e

/-- What the rules prove holds in every run. -/
theorem Behaves.errorsOf {p : Prog Reply α} (h : Behaves next E s p) : ErrorsOf next E s p where
  continues _ _ _ ht := (h.of_trace ht).1
  returns _ _ ht := h.of_trace ht
  strays _ _ _ ht := (h.of_trace ht).1
  stops _ _ ht := h.of_trace ht

-- the programs are not unfolded below: only the rules look into them
attribute [irreducible] Behaves

end Prog

end CLang
