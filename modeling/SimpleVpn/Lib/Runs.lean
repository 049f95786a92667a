import SimpleVpn.Lib.Processes
import Mathlib.Algebra.BigOperators.Fin
import Mathlib.Data.Fintype.Basic

/-!
# Runs of a network

Every step adds one event to one log, so the logs count the steps. When some run ends, all runs are
bounded by its length and none of them gets stuck on the way. What is in a log was put there by a
step, at a time when the log ended just before it.
-/

namespace CLang

open Prog Relation

/-- A run of `n` steps. -/
inductive RunsIn {σ : Type} (step : σ → σ → Prop) (s : σ) : Nat → σ → Prop where
  | refl : RunsIn step s 0 s
  | tail {n : Nat} {t u : σ} : RunsIn step s n t → step t u → RunsIn step s (n + 1) u

section RunsIn

variable {σ : Type} {step step' : σ → σ → Prop} {s t : σ} {n : Nat}

lemma RunsIn.reaches (h : RunsIn step s n t) : ReflTransGen step s t := by
  induction h with
  | refl => exact .refl
  | tail _ hstep ih => exact ih.tail hstep

lemma RunsIn.mono (h : RunsIn step s n t) (hle : ∀ s t, step s t → step' s t) : RunsIn step' s n t := by
  induction h with
  | refl => exact .refl
  | tail _ hstep ih => exact ih.tail (hle _ _ hstep)

lemma exists_runsIn (h : ReflTransGen step s t) : ∃ n, RunsIn step s n t := by
  induction h with
  | refl => exact ⟨0, .refl⟩
  | tail _ hstep ih =>
    obtain ⟨n, hn⟩ := ih
    exact ⟨n + 1, hn.tail hstep⟩

end RunsIn

namespace Network

variable {Party Call : Type} {Reply : Call → Type} {α : Type} {service : Service Party Reply}
  {s t u f : Network Party Reply α} {i : Party}

/-- The event that a process adds next, with the answer of the service if it is a call. -/
lemma next_event {p : Process Reply α} (h : s.next service i = some p) :
    ∃ e, p.log = (s i).log ++ [e] ∧ ∀ c r, e = .call c r → service.answer i s.logs c = some r := by
  unfold next at h
  split at h
  · cases h
  · cases h
  · obtain rfl := Option.some.inj h
    exact ⟨_, rfl, fun c r he => by cases he⟩
  · obtain ⟨r, hr, rfl⟩ := Option.map_eq_some_iff.mp h
    refine ⟨_, rfl, fun c' r' he => ?_⟩
    cases he
    exact hr

variable [DecidableEq Party]

/-- A step adds an event to the log of one process. -/
lemma Step.event (h : Step service s t) :
    ∃ i e, t.logs = Function.update s.logs i (s.logs i ++ [e]) ∧
      ∀ c r, e = .call c r → service.answer i s.logs c = some r := by
  obtain ⟨i, p, hp, rfl⟩ := h
  obtain ⟨e, he, hanswer⟩ := next_event hp
  exact ⟨i, e, by rw [logs_update, he]; rfl, hanswer⟩

/-- An event of a log was added by a step, and a call was answered in this step. -/
theorem Reaches.added {l es : List (Event Reply)} {e : Event Reply} (h : Reaches service s t)
    (hs : (s i).log <+: l) (ht : (t i).log = l ++ e :: es) :
    ∃ u, Reaches service s u ∧ Reaches service u t ∧ (u i).log = l ∧
      ∀ c r, e = .call c r → service.answer i u.logs c = some r := by
  induction h generalizing es with
  | refl =>
    rw [ht] at hs
    have hlen := hs.length_le
    rw [List.length_append, List.length_cons] at hlen
    omega
  | @tail t v hst hstep ih =>
    obtain ⟨j, x, hlogs, hanswer⟩ := hstep.event
    by_cases hj : j = i
    · subst hj
      have hlog : (v j).log = (t j).log ++ [x] := by
        have hself := congrFun hlogs j
        rwa [Function.update_self] at hself
      rw [hlog] at ht
      rcases List.eq_nil_or_concat es with rfl | ⟨es', y, rfl⟩
      · obtain ⟨hl, hx⟩ := List.append_inj' ht rfl
        refine ⟨t, hst, .single hstep, hl, ?_⟩
        rw [← List.singleton_inj.mp hx]
        exact hanswer
      · rw [List.concat_eq_append, ← List.cons_append, ← List.append_assoc] at ht
        obtain ⟨u, hu, hut, hlog, hanswer⟩ := ih (List.append_inj' ht rfl).1
        exact ⟨u, hu, hut.tail hstep, hlog, hanswer⟩
    · have hlog : (v i).log = (t i).log := by
        have hother := congrFun hlogs i
        rwa [Function.update_of_ne (Ne.symm hj)] at hother
      rw [hlog] at ht
      obtain ⟨u, hu, hut, hlog, hanswer⟩ := ih ht
      exact ⟨u, hu, hut.tail hstep, hlog, hanswer⟩

/-- A process has done every part of what it has done at some time. -/
theorem Reaches.of_prefix {l : List (Event Reply)} (h : Reaches service s t) (hs : (s i).log <+: l)
    (ht : l <+: (t i).log) : ∃ u, Reaches service s u ∧ Reaches service u t ∧ (u i).log = l := by
  obtain ⟨es, hes⟩ := ht
  cases es with
  | nil =>
    rw [List.append_nil] at hes
    exact ⟨t, h, .refl, hes.symm⟩
  | cons e es =>
    obtain ⟨u, hu, hut, hlog, -⟩ := h.added hs hes.symm
    exact ⟨u, hu, hut, hlog⟩

/-- A process that has ended stays as it is. -/
lemma Reaches.of_processEnded (h : Reaches service s t) (hs : (s i).Ended) : t i = s i := by
  induction h with
  | refl => rfl
  | @tail t v _ hstep ih =>
    obtain ⟨j, p, hp, rfl⟩ := hstep
    by_cases hj : j = i
    · subst hj
      unfold next at hp
      rw [ih] at hp
      rcases hs with ⟨a, ha⟩ | ⟨e, he⟩
      · rw [ha] at hp
        cases hp
      · rw [he] at hp
        cases hp
    · rw [Function.update_of_ne (Ne.symm hj)]
      exact ih

/-- When some run ends, no program stops in any run. -/
lemma Reaches.not_stopped (hf : Reaches service s f) (hend : f.Ended) (h : Reaches service s t) (e : Stop) :
    (t i).prog ≠ .stop e := by
  intro hstop
  obtain ⟨a, ha⟩ := hend i
  rw [(hf.of_ended hend h).of_processEnded (.inr ⟨e, hstop⟩), hstop] at ha
  cases ha

/-- The service answers as if the processes had not done these events before. -/
def Forgets (service : Service Party Reply) (earlier : Logs Party Reply) : Prop :=
  ∀ i l c, service.answer i (fun j => earlier j ++ l j) c = service.answer i l c

lemma append_update (earlier l : Logs Party Reply) (i : Party) (es : List (Event Reply)) :
    (fun j => earlier j ++ Function.update l i (l i ++ es) j) =
      Function.update (fun j => earlier j ++ l j) i (earlier i ++ l i ++ es) := by
  funext j
  by_cases hj : j = i
  · rw [hj, Function.update_self, Function.update_self, List.append_assoc]
  · rw [Function.update_of_ne hj, Function.update_of_ne hj]

lemma Forgets.answered {earlier l : Logs Party Reply} (h : Forgets service earlier) {es : List (Event Reply)}
    (ha : Answered service i l es) : Answered service i (fun j => earlier j ++ l j) es := by
  induction es generalizing l with
  | nil => trivial
  | cons e es ih =>
    cases e with
    | stray x =>
      have hes := ih ha
      rw [append_update] at hes
      exact hes
    | call c r =>
      obtain ⟨hr, hes⟩ := ha
      have hes := ih hes
      rw [append_update] at hes
      exact ⟨(h i l c).trans hr, hes⟩

/-- A schedule can also be followed after events that the service forgets. -/
theorem Forgets.follows {earlier l : Logs Party Reply} (h : Forgets service earlier)
    {schedule : Schedule Party Reply} (hf : Follows service l schedule) :
    Follows service (fun j => earlier j ++ l j) schedule := by
  induction schedule generalizing l with
  | nil => trivial
  | cons turn rest ih =>
    obtain ⟨hanswered, hrest⟩ := hf
    have hrest := ih hrest
    rw [append_update] at hrest
    exact ⟨h.answered hanswered, hrest⟩

section Length

variable [Fintype Party]

/-- The number of events of all processes. -/
def size (s : Network Party Reply α) : Nat := ∑ i, (s.logs i).length

lemma Step.size (h : Step service s t) : t.size = s.size + 1 := by
  obtain ⟨i, e, hlogs, -⟩ := h.event
  unfold Network.size
  rw [hlogs, ← Finset.add_sum_erase _ _ (Finset.mem_univ i),
    ← Finset.add_sum_erase _ (fun j => (s.logs j).length) (Finset.mem_univ i), Function.update_self,
    List.length_append, List.length_singleton, Nat.add_right_comm]
  congr 2
  refine Finset.sum_congr rfl fun j hj => ?_
  rw [Function.update_of_ne (Finset.ne_of_mem_erase hj)]

lemma size_of_runsIn {n : Nat} (h : RunsIn (Step service) s n t) : t.size = s.size + n := by
  induction h with
  | refl => rfl
  | tail _ hstep ih => rw [hstep.size, ih, Nat.add_assoc]

/-- When one run ends, every run can be continued to this end with the steps that are missing. -/
theorem exists_rest {n : Nat} (hf : Reaches service s f) (hend : f.Ended)
    (h : RunsIn (Step service) s n t) : ∃ m, RunsIn (Step service) t m f ∧ s.size + n + m = f.size := by
  obtain ⟨m, hm⟩ := exists_runsIn (hf.of_ended hend h.reaches)
  refine ⟨m, hm, ?_⟩
  rw [size_of_runsIn hm, size_of_runsIn h]

/-- When one run ends, the runs that cannot go on are those that have come to this end, and they are
all equally long. -/
theorem stuck_iff {n : Nat} (hf : Reaches service s f) (hend : f.Ended)
    (h : RunsIn (Step service) s n t) :
    ((∀ u, ¬ Step service t u) ↔ t = f) ∧ (t = f ↔ s.size + n = f.size) ∧ s.size + n ≤ f.size := by
  obtain ⟨m, hm, hsize⟩ := exists_rest hf hend h
  have hzero : t = f ↔ m = 0 := by
    constructor
    · rintro rfl
      have := size_of_runsIn hm
      omega
    · rintro rfl
      cases hm
      rfl
  refine ⟨⟨fun hstuck => ?_, ?_⟩, ?_, ?_⟩
  · rcases ReflTransGen.cases_head hm.reaches with heq | ⟨u, hstep, -⟩
    · exact heq
    · exact absurd hstep (hstuck u)
  · rintro rfl u ⟨i, p, hp, -⟩
    rw [hend.next_eq_none] at hp
    cases hp
  · rw [hzero]
    omega
  · omega

end Length

end Network

end CLang
