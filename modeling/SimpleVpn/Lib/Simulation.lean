import SimpleVpn.Lib.Calls

/-!
# Programs that simulate each other

Two programs simulate each other when they make the same calls and the same stores outside objects and
stop in the same way. The values that they return are related, in the state that the calls have built
up.
-/

namespace CLang

namespace Prog

variable {Call : Type} {Reply : Call → Type} {σ α β γ δ : Type}

/-- The programs make the same calls, and their values are related by `R` where they return. -/
inductive Simulates (next : σ → (c : Call) → Reply c → σ) (R : σ → α → β → Prop) :
    σ → Prog Reply α → Prog Reply β → Prop where
  | ret {s : σ} {a : α} {b : β} : R s a b → Simulates next R s (.ret a) (.ret b)
  | stop {s : σ} (e : Stop) : Simulates next R s (.stop e) (.stop e)
  | stray {s : σ} (f : Fault) {p : Prog Reply α} {q : Prog Reply β} :
      Simulates next R s p q → Simulates next R s (.stray f p) (.stray f q)
  | call {s : σ} (c : Call) {k : Reply c → Prog Reply α} {l : Reply c → Prog Reply β} :
      (∀ r, Simulates next R (next s c r) (k r) (l r)) → Simulates next R s (.call c k) (.call c l)

namespace Simulates

variable {next : σ → (c : Call) → Reply c → σ} {R : σ → α → β → Prop} {S : σ → γ → δ → Prop} {s : σ}
  {p : Prog Reply α} {q : Prog Reply β}

lemma mono {R' : σ → α → β → Prop} (h : Simulates next R s p q) (hR : ∀ s a b, R s a b → R' s a b) :
    Simulates next R' s p q := by
  induction h with
  | ret h => exact .ret (hR _ _ _ h)
  | stop e => exact .stop e
  | stray f _ ih => exact .stray f ih
  | call c _ ih => exact .call c ih

theorem bind {f : α → Prog Reply γ} {g : β → Prog Reply δ} (h : Simulates next R s p q)
    (hf : ∀ s a b, R s a b → Simulates next S s (f a) (g b)) :
    Simulates next S s (p >>= f) (q >>= g) := by
  induction h with
  | ret h => exact hf _ _ _ h
  | stop e => exact .stop e
  | stray x _ ih => exact .stray x ih
  | call c _ ih => exact .call c ih

/-- A part that both programs have in common, with what is known of its calls. -/
theorem of_meets {f : α → Prog Reply γ} {g : α → Prog Reply δ}
    (h : Meets next (fun _ _ _ => True) (fun s a => Simulates next S s (f a) (g a)) s p) :
    Simulates next S s (p >>= f) (p >>= g) := by
  induction p generalizing s with
  | ret a => exact h.of_ret
  | stop e => exact .stop e
  | stray x p ih => exact .stray x (ih h.of_stray)
  | call c k ih => exact .call c fun r => ih r (h.rest r)

/-- A common part whose calls leave the state alone. -/
lemma of_only {C : Call → Prop} {r : Prog Reply α} {f : α → Prog Reply γ} {g : α → Prog Reply δ}
    (hr : Only C r) (hnext : ∀ c x, C c → next s c x = s)
    (h : ∀ a, Simulates next S s (f a) (g a)) : Simulates next S s (r >>= f) (r >>= g) :=
  of_meets (.of_only hr hnext (fun _ _ _ => trivial) h)

lemma step (c : Call) {f : Reply c → Prog Reply γ} {g : Reply c → Prog Reply δ}
    (h : ∀ r, Simulates next S (next s c r) (f r) (g r)) :
    Simulates next S s ((Prog.call c .ret : Prog Reply (Reply c)) >>= f)
      ((Prog.call c .ret : Prog Reply (Reply c)) >>= g) :=
  .call c h

lemma ofMem {m : Mem α} {f : α → Prog Reply γ} {g : α → Prog Reply δ}
    (h : ∀ a, Simulates next S s (f a) (g a)) :
    Simulates next S s (Prog.ofMem m >>= f) (Prog.ofMem m >>= g) := by
  rcases m with ⟨xs, r⟩
  rw [Prog.ofMem, strays_bind, strays_bind]
  induction xs with
  | nil =>
    cases r with
    | value a => exact h a
    | stop e => exact .stop e
  | cons x xs ih => exact .stray x ih

/-- Whatever the second program does in a run, the first one does. -/
theorem of_trace {q' : Prog Reply β} {es : List (Event Reply)} (h : Simulates next R s p q)
    (ht : Trace q es q') : ∃ p', Trace p es p' ∧ Simulates next R (stateAfter next s es) p' q' := by
  induction ht generalizing s p with
  | done q => exact ⟨p, .done p, h⟩
  | stray f _ ih =>
    cases h with
    | stray _ h =>
      obtain ⟨p', hp, hs⟩ := ih h
      exact ⟨p', .stray f hp, hs⟩
  | call c r _ ih =>
    cases h with
    | call _ h =>
      obtain ⟨p', hp, hs⟩ := ih (h r)
      exact ⟨p', .call c r hp, hs⟩

/-- The values at the end of a run are related. -/
lemma of_ret {b : β} (h : Simulates next R s p (.ret b)) : ∃ a, p = .ret a ∧ R s a b := by
  cases h with
  | ret h => exact ⟨_, rfl, h⟩

/-- When `f` and `g` make the values equal, they make the programs equal. -/
theorem map_eq {f : α → γ} {g : β → γ} (h : Simulates next (fun _ a b => f a = g b) s p q) :
    f <$> p = g <$> q := by
  induction h with
  | @ret _ a b h => exact congrArg Prog.ret h
  | stop e => rfl
  | stray x _ ih => exact congrArg (Prog.stray x) ih
  | call c _ ih => exact congrArg (Prog.call c) (funext ih)

end Simulates

end Prog

end CLang
