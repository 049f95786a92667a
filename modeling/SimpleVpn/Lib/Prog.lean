import SimpleVpn.Lib.Mem

/-!
# Programs that call the operating system

A program computes on memory and calls the operating system; what it does after a call
depends on the reply. A program is a tree: a run follows one reply at every call. An
operating system that answers every call turns a program into a computation on memory.
-/

namespace CLang

/-- A program over the calls `Call`, where a call `c` is answered in `Reply c`. -/
inductive Prog {Call : Type} (Reply : Call → Type) (α : Type) where
  | ret (a : α)
  | stop (s : Stop)
  | stray (f : Fault) (next : Prog Reply α)
  | call (c : Call) (next : Reply c → Prog Reply α)

namespace Prog

variable {Call : Type} {Reply : Call → Type} {α β γ σ : Type}

protected def bind : Prog Reply α → (α → Prog Reply β) → Prog Reply β
  | ret a, f => f a
  | stop s, _ => stop s
  | stray x p, f => stray x (p.bind f)
  | call c k, f => call c (fun r => (k r).bind f)

instance : Monad (Prog Reply) where
  pure := ret
  bind := Prog.bind

lemma bind_def (p : Prog Reply α) (f : α → Prog Reply β) : (p >>= f) = p.bind f := rfl

lemma bind_ret (p : Prog Reply α) : p.bind ret = p := by
  induction p with
  | ret a => rfl
  | stop s => rfl
  | stray x p ih => simp [Prog.bind, ih]
  | call c k ih => simp [Prog.bind, ih]

lemma bind_bind (p : Prog Reply α) (f : α → Prog Reply β) (g : β → Prog Reply γ) :
    (p.bind f).bind g = p.bind (fun a => (f a).bind g) := by
  induction p with
  | ret a => rfl
  | stop s => rfl
  | stray x p ih => simp [Prog.bind, ih]
  | call c k ih => simp [Prog.bind, ih]

instance : LawfulMonad (Prog Reply) :=
  LawfulMonad.mk' (Prog Reply) (fun p => bind_ret p) (fun _ _ => rfl) (fun p f g => bind_bind p f g)

/-- A stretch of stores outside objects before the rest of the program. -/
def strays : List Fault → Prog Reply α → Prog Reply α
  | [], p => p
  | x :: xs, p => stray x (strays xs p)

/-- A computation on memory, as a program without calls. -/
def ofMem (m : Mem α) : Prog Reply α :=
  strays m.stray (match m.result with
    | .value a => ret a
    | .stop s => stop s)

instance : MonadLift Mem (Prog Reply) where
  monadLift := ofMem

def exit (status : Int) : Prog Reply α := stop (.exit status)

@[simp] lemma liftM_eq_ofMem (m : Mem α) : (liftM m : Prog Reply α) = ofMem m := rfl

@[simp] lemma monadLift_eq_ofMem (m : Mem α) : (monadLift m : Prog Reply α) = ofMem m := rfl

@[simp] lemma ofMem_pure (a : α) : (ofMem (pure a) : Prog Reply α) = pure a := rfl

lemma strays_append (xs ys : List Fault) (p : Prog Reply α) :
    strays (xs ++ ys) p = strays xs (strays ys p) := by
  induction xs with
  | nil => rfl
  | cons x xs ih => rw [List.cons_append, strays, ih, strays]

lemma strays_bind (xs : List Fault) (p : Prog Reply α) (f : α → Prog Reply β) :
    (strays xs p >>= f) = strays xs (p >>= f) := by
  induction xs with
  | nil => rfl
  | cons x xs ih =>
    rw [strays, strays, ← ih]
    rfl

lemma ofMem_bind (m : Mem α) (f : α → Mem β) :
    (ofMem (m >>= f) : Prog Reply β) = ofMem m >>= fun a => ofMem (f a) := by
  rcases m with ⟨xs, r⟩
  unfold ofMem
  rw [strays_bind]
  cases r with
  | stop e => rfl
  | value a => exact strays_append xs (f a).stray _

@[simp] lemma call_bind (c : Call) (k : Reply c → Prog Reply α) (f : α → Prog Reply β) :
    ((call c k : Prog Reply α) >>= f) = call c (fun r => k r >>= f) := rfl

@[simp] lemma ret_bind (a : α) (f : α → Prog Reply β) : ((ret a : Prog Reply α) >>= f) = f a := rfl

/-- An operating system with states `σ`: its reply to a call and its next state. -/
abbrev Os (Reply : Call → Type) (σ : Type) := (c : Call) → σ → Reply c × σ

/-- The run of a program that the operating system answers. -/
def run (os : Os Reply σ) : Prog Reply α → σ → Mem (α × σ)
  | ret a, s => pure (a, s)
  | stop e, _ => ⟨[], .stop e⟩
  | stray x p, s =>
    let m := p.run os s
    ⟨x :: m.stray, m.result⟩
  | call c k, s => (k (os c s).1).run os (os c s).2

variable (os : Os Reply σ)

@[simp] lemma run_call (c : Call) (k : Reply c → Prog Reply α) (s : σ) :
    (call c k).run os s = (k (os c s).1).run os (os c s).2 := rfl

lemma run_bind (p : Prog Reply α) (f : α → Prog Reply β) (s : σ) :
    (p >>= f).run os s = p.run os s >>= fun r => (f r.1).run os r.2 := by
  induction p generalizing s with
  | ret a => exact (pure_bind (a, s) (fun r => (f r.1).run os r.2)).symm
  | stop e => rfl
  | stray x p ih =>
    have h := ih s
    simp only [bind_def, Mem.bind_def] at h
    simp only [bind_def, Prog.bind, run, h, Mem.bind_def, Mem.bind]
    cases (p.run os s).result <;> rfl
  | call c k ih => exact ih (os c s).1 (os c s).2

lemma run_strays (xs : List Fault) (p : Prog Reply α) (s : σ) :
    (strays xs p).run os s = ⟨xs ++ (p.run os s).stray, (p.run os s).result⟩ := by
  induction xs with
  | nil => rfl
  | cons x xs ih => simp [strays, run, ih]

lemma run_ofMem (m : Mem α) (s : σ) :
    (ofMem m : Prog Reply α).run os s = m >>= fun a => pure (a, s) := by
  rcases m with ⟨xs, r⟩
  rw [ofMem, run_strays]
  cases r with
  | value a => rfl
  | stop e => simp [run, Mem.bind_def, Mem.bind]

lemma run_ofMem_bind (m : Mem α) (f : α → Prog Reply β) (s : σ) :
    (ofMem m >>= f).run os s = m >>= fun a => (f a).run os s := by
  rw [run_bind, run_ofMem, bind_assoc]
  simp

/-- What a program does in a run: a call with its reply, or a store outside an object. -/
inductive Event (Reply : Call → Type) where
  | stray (f : Fault)
  | call (c : Call) (r : Reply c)

/-- With the replies of `es`, the program `p` does `es` and becomes `p'`. -/
inductive Trace : Prog Reply α → List (Event Reply) → Prog Reply α → Prop where
  | done (p : Prog Reply α) : Trace p [] p
  | stray (f : Fault) {p p' : Prog Reply α} {es : List (Event Reply)} :
      Trace p es p' → Trace (.stray f p) (.stray f :: es) p'
  | call (c : Call) (r : Reply c) {k : Reply c → Prog Reply α} {p' : Prog Reply α}
      {es : List (Event Reply)} : Trace (k r) es p' → Trace (.call c k) (.call c r :: es) p'

namespace Trace

variable {p p' p'' : Prog Reply α} {es es' : List (Event Reply)}

lemma append (h : Trace p es p') (h' : Trace p' es' p'') : Trace p (es ++ es') p'' := by
  induction h with
  | done p => exact h'
  | stray f _ ih => exact .stray f (ih h')
  | call c r _ ih => exact .call c r (ih h')

lemma eq_of_nil (h : Trace p [] p') : p = p' := by
  cases h
  rfl

lemma split (h : Trace p (es ++ es') p'') : ∃ p', Trace p es p' ∧ Trace p' es' p'' := by
  induction es generalizing p with
  | nil => exact ⟨p, .done p, h⟩
  | cons e es ih =>
    cases h with
    | stray f h =>
      obtain ⟨p', hes, hes'⟩ := ih h
      exact ⟨p', .stray f hes, hes'⟩
    | call c r h =>
      obtain ⟨p', hes, hes'⟩ := ih h
      exact ⟨p', .call c r hes, hes'⟩

lemma bind (h : Trace p es p') (f : α → Prog Reply β) : Trace (p >>= f) es (p' >>= f) := by
  induction h with
  | done p => exact .done _
  | stray x _ ih => exact .stray x ih
  | call c r _ ih => exact .call c r ih

lemma step (c : Call) (r : Reply c) {f : Reply c → Prog Reply α}
    (h : Trace (f r) es p') : Trace ((Prog.call c .ret : Prog Reply (Reply c)) >>= f)
      (.call c r :: es) p' :=
  .call c r h

/-- A stretch of the program that returns, and what follows it. -/
lemma seq {q : Prog Reply β} {b : β} {f : β → Prog Reply α} (h : Trace q es (pure b))
    (h' : Trace (f b) es' p') : Trace (q >>= f) (es ++ es') p' :=
  (h.bind f).append h'

lemma ofMem {m : Mem β} {b : β} (h : m.Returns b) {f : β → Prog Reply α} (h' : Trace (f b) es p') :
    Trace (Prog.ofMem m >>= f) (m.stray.map .stray ++ es) p' := by
  rcases m with ⟨xs, r⟩
  have hr : r = .value b := h
  subst hr
  rw [Prog.ofMem, strays_bind]
  induction xs with
  | nil => exact h'
  | cons x xs ih => exact .stray x (ih rfl)

end Trace

/-- The operating system gives the replies of a trace. -/
def Answers (os : Os Reply σ) : σ → List (Event Reply) → σ → Prop
  | s, [], s' => s = s'
  | s, .stray _ :: es, s' => Answers os s es s'
  | s, .call c r :: es, s' => (os c s).1 = r ∧ Answers os (os c s).2 es s'

def strayFaults : List (Event Reply) → List Fault
  | [] => []
  | .stray f :: es => f :: strayFaults es
  | .call _ _ :: es => strayFaults es

lemma strayFaults_append (es es' : List (Event Reply)) :
    strayFaults (es ++ es') = strayFaults es ++ strayFaults es' := by
  induction es with
  | nil => rfl
  | cons e es ih =>
    cases e with
    | stray f => exact congrArg (f :: ·) ih
    | call c r => exact ih

/-- The first store outside an object. -/
lemma exists_first_stray {es : List (Event Reply)} (h : strayFaults es ≠ []) :
    ∃ before x after, es = before ++ .stray x :: after ∧ strayFaults before = [] := by
  induction es with
  | nil => exact absurd rfl h
  | cons e es ih =>
    cases e with
    | stray x => exact ⟨[], x, es, rfl, rfl⟩
    | call c r =>
      obtain ⟨before, x, after, rfl, hbefore⟩ := ih h
      exact ⟨.call c r :: before, x, after, rfl, hbefore⟩

lemma Trace.of_stray {p q : Prog Reply α} {before after : List (Event Reply)} {x : Fault}
    (h : Trace p (before ++ .stray x :: after) q) : ∃ p', Trace p before (.stray x p') := by
  obtain ⟨p', hbefore, hrest⟩ := h.split
  cases hrest with
  | stray x _ => exact ⟨_, hbefore⟩

/-- A trace that the operating system answers is the beginning of the run. -/
theorem run_of_trace {p p' : Prog Reply α} {es : List (Event Reply)} (h : Trace p es p') {s s' : σ}
    (ha : Answers os s es s') :
    p.run os s = ⟨strayFaults es ++ (p'.run os s').stray, (p'.run os s').result⟩ := by
  induction h generalizing s with
  | done p =>
    have hs : s = s' := ha
    rw [hs]
    rfl
  | stray f _ ih => simp only [run, ih ha, strayFaults, List.cons_append]
  | call c r _ ih =>
    obtain ⟨hr, hes⟩ := ha
    subst hr
    exact ih hes

end Prog

end CLang
