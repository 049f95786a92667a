import SimpleVpn.Lib.Calls
import Mathlib.Data.List.Induction

/-!
# Roles

A role says which calls a party may make next, in states that its calls and their replies build up. A
program plays a role when every call of every run is allowed, whatever the replies are.
-/

namespace CLang

structure Role {Call : Type} (Reply : Call → Type) (σ : Type) where
  start : σ
  next : σ → (c : Call) → Reply c → σ
  Allows : σ → Call → Prop

namespace Role

variable {Call : Type} {Reply : Call → Type} {σ α β : Type} {R : Role Reply σ} {s : σ}

/-- In every run of the program each call is allowed. -/
def PlayedBy (R : Role Reply σ) (p : Prog Reply α) : Prop :=
  ∀ es c k, Prog.Trace p es (.call c k) → R.Allows (Prog.stateAfter R.next R.start es) c

/-- From a state on, the program makes allowed calls only. -/
def Conforms (R : Role Reply σ) (s : σ) (p : Prog Reply α) : Prop :=
  Prog.Meets R.next (fun s c _ => R.Allows s c) (fun _ _ => True) s p

/-- In the state `s` the calls in `C` are allowed and do not change the state. -/
def Ignores (R : Role Reply σ) (s : σ) (C : Call → Prop) : Prop :=
  ∀ c, C c → R.Allows s c ∧ ∀ r, R.next s c r = s

namespace Conforms

lemma ret (a : α) : R.Conforms s (pure a : Prog Reply α) := Prog.Meets.ret trivial

lemma stop (e : Stop) : R.Conforms s (.stop e : Prog Reply α) := Prog.Meets.stop e

lemma step (c : Call) {f : Reply c → Prog Reply α} (h : R.Allows s c)
    (hf : ∀ r, R.Conforms (R.next s c r) (f r)) :
    R.Conforms s ((.call c .ret : Prog Reply (Reply c)) >>= f) :=
  Prog.Meets.step c h hf

/-- A part whose calls the role ignores. -/
lemma of_only {C : Call → Prop} {p : Prog Reply β} {f : β → Prog Reply α} (hp : Prog.Only C p)
    (hC : R.Ignores s C) (hf : ∀ b, R.Conforms s (f b)) : R.Conforms s (p >>= f) :=
  Prog.Meets.bind (.of_only hp (fun c r hc => (hC c hc).2 r) (fun c _ hc => (hC c hc).1) hf)

lemma stray (x : Fault) {p : Prog Reply α} (h : R.Conforms s p) : R.Conforms s (.stray x p) :=
  Prog.Meets.stray x h

/-- What the rules prove holds in every run. -/
theorem playedBy {p : Prog Reply α} (h : R.Conforms R.start p) : R.PlayedBy p :=
  fun _ _ _ ht => (Prog.Meets.of_trace h ht).first

end Conforms

/-- What holds at the start and is kept by the events that the role allows holds in every run of a program that
plays it. -/
theorem PlayedBy.invariant {p q : Prog Reply α} {es : List (Prog.Event Reply)} (h : R.PlayedBy p)
    {I : σ → List (Prog.Event Reply) → Prop} (hstart : I R.start [])
    (hstray : ∀ s es x, I s es → I s (es ++ [.stray x]))
    (hcall : ∀ s es c r, I s es → R.Allows s c → I (R.next s c r) (es ++ [.call c r]))
    (ht : Prog.Trace p es q) : I (Prog.stateAfter R.next R.start es) es := by
  induction es using List.reverseRecOn generalizing q with
  | nil => exact hstart
  | append_singleton es e ih =>
    obtain ⟨p', hes, he⟩ := ht.split
    rw [Prog.stateAfter_append]
    cases he with
    | stray x _ => exact hstray _ es x (ih hes)
    | call c r _ => exact hcall _ es c r (ih hes) (h es c _ hes)

end Role

end CLang
