import SimpleVpn.Lib.Runs

/-!
# Processes in an environment

The environment answers the calls of the processes. It may have several answers to a call, or none for the time
being, and it may kill a process at a call. What a process has done by some time is a run of its program, and
programs of bounded length bound the runs of all processes.
-/

namespace CLang

open Prog Relation

variable {Party Call : Type} {Reply : Call → Type} {α : Type}

/-- The replies that a process may get to its next call, and whether it may be killed there. -/
structure Environment (Party : Type) {Call : Type} (Reply : Call → Type) (α : Type) where
  replies : Network Party Reply α → Party → (c : Call) → Reply c → Prop
  kills : Network Party Reply α → Party → Call → Prop

/-- What the process has done is a run of the program `p`, at the end of which it may have been killed. -/
def Process.RunOf (x : Process Reply α) (p : Prog Reply α) : Prop :=
  Trace p x.log x.prog ∨ x.prog = .stop .signal ∧ ∃ c k, Trace p x.log (.call c k)

lemma Process.RunOf.exists_trace {x : Process Reply α} {p : Prog Reply α} (h : x.RunOf p) :
    ∃ q, Trace p x.log q := by
  rcases h with h | ⟨-, c, k, h⟩
  · exact ⟨_, h⟩
  · exact ⟨_, h⟩

lemma Process.RunOf.trace_call {x : Process Reply α} {p : Prog Reply α} (h : x.RunOf p) {c : Call}
    {k : Reply c → Prog Reply α} (hx : x.prog = .call c k) : Trace p x.log (.call c k) := by
  rcases h with h | ⟨hsignal, -⟩
  · rwa [hx] at h
  · rw [hx] at hsignal
    cases hsignal

namespace Prog

/-- Every run of the program has at most `n` events. -/
def Within : Nat → Prog Reply α → Prop
  | _, ret _ => True
  | _, stop _ => True
  | 0, stray _ _ => False
  | 0, call _ _ => False
  | n + 1, stray _ p => Within n p
  | n + 1, call _ k => ∀ r, Within n (k r)

namespace Within

variable {β : Type} {n m : Nat}

lemma ret (a : α) : Within n (pure a : Prog Reply α) := by
  cases n <;> trivial

lemma stop (e : Stop) : Within n (.stop e : Prog Reply α) := by
  cases n <;> trivial

lemma stray (x : Fault) {p : Prog Reply α} (h : Within n p) : Within (n + 1) (.stray x p) := h

lemma call (c : Call) {k : Reply c → Prog Reply α} (h : ∀ r, Within n (k r)) : Within (n + 1) (.call c k) := h

lemma step (c : Call) {f : Reply c → Prog Reply α} (h : ∀ r, Within n (f r)) :
    Within (n + 1) ((.call c .ret : Prog Reply (Reply c)) >>= f) := h

lemma mono {p : Prog Reply α} (h : Within n p) (hle : n ≤ m) : Within m p := by
  induction p generalizing n m with
  | ret a => exact .ret a
  | stop e => exact .stop e
  | stray x p ih =>
    obtain ⟨n, rfl⟩ : ∃ n', n = n' + 1 := by
      cases n with
      | zero => exact h.elim
      | succ n => exact ⟨n, rfl⟩
    obtain ⟨m, rfl⟩ := Nat.exists_eq_add_of_le hle
    rw [Nat.add_right_comm]
    exact ih h (Nat.le_add_right n m)
  | call c k ih =>
    obtain ⟨n, rfl⟩ : ∃ n', n = n' + 1 := by
      cases n with
      | zero => exact h.elim
      | succ n => exact ⟨n, rfl⟩
    obtain ⟨m, rfl⟩ := Nat.exists_eq_add_of_le hle
    rw [Nat.add_right_comm]
    exact fun r => ih r (h r) (Nat.le_add_right n m)

end Within

end Prog

namespace Environment

variable (E : Environment Party Reply α)

/-- What becomes of a process in one step. -/
inductive Acts (s : Network Party Reply α) (i : Party) : Process Reply α → Prop where
  | stray {f : Fault} {p : Prog Reply α} :
      (s i).prog = .stray f p → Acts s i ⟨p, (s i).log ++ [.stray f]⟩
  | call {c : Call} {k : Reply c → Prog Reply α} {r : Reply c} :
      (s i).prog = .call c k → E.replies s i c r → Acts s i ⟨k r, (s i).log ++ [.call c r]⟩
  | killed {c : Call} {k : Reply c → Prog Reply α} :
      (s i).prog = .call c k → E.kills s i c → Acts s i ⟨.stop .signal, (s i).log⟩

variable {E} {s t : Network Party Reply α} {i : Party}

lemma Acts.runOf {x : Process Reply α} (h : E.Acts s i x) {p : Prog Reply α} (hs : (s i).RunOf p) :
    x.RunOf p := by
  cases h with
  | @stray f q hprog =>
    rcases hs with hs | ⟨hsignal, -⟩
    · rw [hprog] at hs
      exact .inl (hs.append (.stray f (.done q)))
    · rw [hprog] at hsignal
      cases hsignal
  | @call c k r hprog hr => exact .inl ((hs.trace_call hprog).append (.call c r (.done _)))
  | @killed c k hprog hkill => exact .inr ⟨rfl, c, k, hs.trace_call hprog⟩

lemma not_acts_of_ended (h : (s i).Ended) (x : Process Reply α) : ¬ E.Acts s i x := by
  intro hx
  rcases h with ⟨a, hend⟩ | ⟨e, hend⟩
  all_goals
    cases hx with
    | stray hprog => cases hend.symm.trans hprog
    | call hprog hr => cases hend.symm.trans hprog
    | killed hprog hkill => cases hend.symm.trans hprog

lemma Acts.within {x : Process Reply α} (h : E.Acts s i x) {n : Nat} (hn : (s i).prog.Within n) :
    ∃ m, n = m + 1 ∧ x.prog.Within m := by
  cases n with
  | zero =>
    cases h with
    | stray hprog =>
      rw [hprog] at hn
      exact hn.elim
    | call hprog hr =>
      rw [hprog] at hn
      exact hn.elim
    | killed hprog hkill =>
      rw [hprog] at hn
      exact hn.elim
  | succ n =>
    refine ⟨n, rfl, ?_⟩
    cases h with
    | stray hprog =>
      rw [hprog] at hn
      exact hn
    | @call c k r hprog hr =>
      rw [hprog] at hn
      exact hn r
    | killed hprog hkill => exact .stop _

variable [DecidableEq Party]

variable (E) in
def Moves (s t : Network Party Reply α) : Prop := ∃ i x, E.Acts s i x ∧ t = Function.update s i x

/-- A step adds an event to one log, or kills a process. -/
lemma Moves.event (h : E.Moves s t) : t.logs = s.logs ∨
    ∃ i e, t.logs = Function.update s.logs i (s.logs i ++ [e]) ∧
      ∀ c r, e = .call c r → E.replies s i c r := by
  obtain ⟨i, x, hx, rfl⟩ := h
  rw [Network.logs_update]
  cases hx with
  | @stray f p hprog => exact .inr ⟨i, .stray f, rfl, fun c r he => by cases he⟩
  | @call c k r hprog hr =>
    refine .inr ⟨i, .call c r, rfl, fun c' r' he => ?_⟩
    cases he
    exact hr
  | killed hprog hkill => exact .inl (Function.update_eq_self i _)

lemma Moves.log_prefix (h : E.Moves s t) (j : Party) : (s j).log <+: (t j).log := by
  change s.logs j <+: t.logs j
  rcases h.event with hlogs | ⟨i, e, hlogs, -⟩
  · rw [hlogs]
  · rw [hlogs]
    by_cases hj : j = i
    · rw [hj, Function.update_self]
      exact List.prefix_append _ _
    · rw [Function.update_of_ne hj]

/-- What a process has done is never undone. -/
theorem log_prefix (h : ReflTransGen E.Moves s t) (j : Party) : (s j).log <+: (t j).log := by
  induction h with
  | refl => exact List.prefix_rfl
  | tail _ hstep ih => exact ih.trans (hstep.log_prefix j)

/-- What each process has done is a run of its program. -/
theorem runOf (hs : ∀ i, (s i).log = []) (h : ReflTransGen E.Moves s t) (i : Party) :
    (t i).RunOf (s i).prog := by
  induction h with
  | refl =>
    refine .inl ?_
    rw [hs]
    exact .done _
  | @tail t u _ hstep ih =>
    obtain ⟨j, x, hx, rfl⟩ := hstep
    by_cases hj : i = j
    · subst hj
      rw [Function.update_self]
      exact hx.runOf ih
    · rw [Function.update_of_ne hj]
      exact ih

/-- Programs of bounded length bound the runs, in whatever order the processes take their steps and whatever the
environment does. -/
theorem length_le_of_within [Fintype Party] {n : Party → Nat} {m : Nat} (hn : ∀ i, (s i).prog.Within (n i))
    (h : RunsIn E.Moves s m t) : m ≤ ∑ i, n i := by
  obtain ⟨n', -, hsum⟩ : ∃ n' : Party → Nat, (∀ i, (t i).prog.Within (n' i)) ∧ m + ∑ i, n' i = ∑ i, n i := by
    induction h with
    | refl => exact ⟨n, hn, Nat.zero_add _⟩
    | @tail m t u _ hstep ih =>
      obtain ⟨n', hn', hsum⟩ := ih
      obtain ⟨i, x, hx, rfl⟩ := hstep
      obtain ⟨l, hl, hwithin⟩ := hx.within (hn' i)
      refine ⟨Function.update n' i l, fun j => ?_, ?_⟩
      · by_cases hj : j = i
        · subst hj
          rw [Function.update_self, Function.update_self]
          exact hwithin
        · rw [Function.update_of_ne hj, Function.update_of_ne hj]
          exact hn' j
      · rw [← hsum, ← Finset.add_sum_erase _ _ (Finset.mem_univ i),
          ← Finset.add_sum_erase _ n' (Finset.mem_univ i), Function.update_self, hl]
        have hrest : ∑ j ∈ Finset.univ.erase i, Function.update n' i l j =
            ∑ j ∈ Finset.univ.erase i, n' j :=
          Finset.sum_congr rfl fun j hj => Function.update_of_ne (Finset.ne_of_mem_erase hj) _ _
        omega
  omega

end Environment

-- the programs are not unfolded below: only the rules look into them
attribute [irreducible] Prog.Within

end CLang
