import SimpleVpn.Lib.Calls
import SimpleVpn.Lib.Sockets
import Mathlib.Logic.Function.Basic

/-!
# The states of socket descriptors

A descriptor goes from one state to another with the calls that succeed on it, and each call is allowed in
certain states only. A connection that was accepted and one that was dialed are told apart. The discipline is
checked as long as the operating system never returns a descriptor that is open.
-/

namespace CLang

inductive FdState where
  | unbound
  | bound
  | listening
  | shutDown
  | accepted
  | dialed
  deriving DecidableEq, Repr

def FdState.Connected (state : FdState) : Prop := state = .accepted ∨ state = .dialed

/-- The state of each open descriptor. -/
abbrev FdTable := Fd → Option FdState

namespace FdTable

def empty : FdTable := fun _ => none

lemma update_empty (fd : Fd) : Function.update empty fd none = empty := Function.update_eq_self fd empty

variable {Out : Type}

/-- The calls that are allowed when the descriptors have these states. -/
def Allows (t : FdTable) : SysCall Out → Prop
  | .socket => True
  | .setsockopt fd => t fd = some .unbound
  | .bind fd _ => t fd = some .unbound
  | .listen fd => t fd = some .bound
  | .accept fd => t fd = some .listening
  | .inetPton _ => True
  | .connect fd _ _ => t fd = some .unbound
  | .send fd _ => ∃ state ∈ t fd, state.Connected
  | .recv fd _ => ∃ state ∈ t fd, state.Connected
  | .close fd => t fd ≠ none
  | .shutdown fd => t fd = some .listening
  | .print _ => True

/-- A new descriptor; the table is lost if it was open already. -/
def opened (t : FdTable) (fd : Fd) (state : FdState) : Option FdTable :=
  if t fd = none then some (Function.update t fd (some state)) else none

def next (t : FdTable) : (c : SysCall Out) → SysReply c → Option FdTable
  | .socket, some fd => t.opened fd .unbound
  | .accept _, some fd => t.opened fd .accepted
  | .bind fd _, true => some (Function.update t fd (some .bound))
  | .listen fd, true => some (Function.update t fd (some .listening))
  | .connect fd _ _, true => some (Function.update t fd (some .dialed))
  | .close fd, _ => some (Function.update t fd none)
  | .shutdown fd, _ => some (Function.update t fd (some .shutDown))
  | _, _ => some t

/-- The table after the calls of a trace that starts with `t`, unless an open descriptor was returned. -/
def after : Option FdTable → (c : SysCall Out) → SysReply c → Option FdTable
  | none, _, _ => none
  | some t, c, r => t.next c r

end FdTable

section Discipline

variable {Out α β : Type} {Q : FdTable → α → Prop} {t : FdTable}

/-- From the table `t` on, every call is allowed and every value is returned with a table in `Q`. -/
def Disciplined (Q : FdTable → α → Prop) (t : Option FdTable) (p : SockProg Out α) : Prop :=
  Prog.Meets FdTable.after (fun t c _ => ∀ t' ∈ t, t'.Allows c) (fun t a => ∀ t' ∈ t, Q t' a) t p

/-- In every run, as long as no open descriptor is returned, each call is allowed, and a value is returned
with a table in `Q`. -/
def KeepsDiscipline (Q : FdTable → α → Prop) (p : SockProg Out α) : Prop :=
  ∀ es t, Prog.stateAfter FdTable.after (some FdTable.empty) es = some t →
    (∀ c k, Prog.Trace p es (.call c k) → t.Allows c) ∧ ∀ a, Prog.Trace p es (.ret a) → Q t a

namespace Disciplined

lemma ret {a : α} (h : Q t a) : Disciplined Q (some t) (pure a : SockProg Out α) := by
  refine Prog.Meets.ret ?_
  rintro t' ⟨⟩
  exact h

lemma exit (status : Int) : Disciplined Q (some t) (Prog.exit status : SockProg Out α) :=
  Prog.Meets.stop _

/-- When an open descriptor has been returned, nothing is checked any more. -/
lemma lost (p : SockProg Out α) : Disciplined Q none p := by
  refine Prog.Meets.of_invariant (I := (· = none)) ?_ ?_ ?_ rfl p
  · rintro s c r rfl
    rfl
  · rintro s c k rfl t' ⟨⟩
  · rintro s a rfl t' ⟨⟩

lemma step (c : SysCall Out) {f : SysReply c → SockProg Out α} (h : t.Allows c)
    (hf : ∀ r, Disciplined Q (t.next c r) (f r)) :
    Disciplined Q (some t) ((.call c .ret : SockProg Out (SysReply c)) >>= f) := by
  refine Prog.Meets.step c ?_ hf
  rintro t' ⟨⟩
  exact h

/-- A part whose calls concern no descriptor. -/
lemma of_only {C : SysCall Out → Prop} {p : SockProg Out β} {f : β → SockProg Out α} (hp : Prog.Only C p)
    (hnext : ∀ c r, C c → t.next c r = some t) (hallow : ∀ c, C c → t.Allows c)
    (hf : ∀ b, Disciplined Q (some t) (f b)) : Disciplined Q (some t) (p >>= f) := by
  refine Prog.Meets.bind (.of_only hp (fun c r hc => hnext c r hc) ?_ hf)
  rintro c k hc t' ⟨⟩
  exact hallow c hc

/-- A call that opens a descriptor. -/
lemma opened {fd : Fd} {state : FdState} {p : SockProg Out α}
    (h : t fd = none → Disciplined Q (some (Function.update t fd (some state))) p) :
    Disciplined Q (t.opened fd state) p := by
  rw [FdTable.opened]
  by_cases hfd : t fd = none
  · rw [if_pos hfd]
    exact h hfd
  · rw [if_neg hfd]
    exact lost p

lemma mono {Q' : FdTable → α → Prop} {p : SockProg Out α} {t : Option FdTable} (h : Disciplined Q t p)
    (hQ : ∀ t a, Q t a → Q' t a) : Disciplined Q' t p :=
  Prog.Meets.mono h (fun _ _ _ hallow => hallow) fun _ a hret t' ht' => hQ t' a (hret t' ht')

/-- What the rules prove holds in every run. -/
theorem keeps {p : SockProg Out α} (h : Disciplined Q (some .empty) p) : KeepsDiscipline Q p := by
  intro es t ht
  exact ⟨fun c k hcall => (Prog.Meets.of_trace h hcall).first t ht,
    fun a hret => (Prog.Meets.of_trace h hret).of_ret t ht⟩

end Disciplined

end Discipline

end CLang
