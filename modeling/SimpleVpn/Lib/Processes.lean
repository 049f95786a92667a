import SimpleVpn.Lib.Prog
import Mathlib.Data.List.Infix
import Mathlib.Logic.Function.Basic
import Mathlib.Logic.Relation

/-!
# Communicating processes

Each process runs a program, and its calls are answered from what all the processes have done. A
call may wait for another process. An answer stays the same when the other processes go on, so
the order of the steps does not matter: if one run ends with every program returned, then every run
can be continued to the same end.
-/

namespace CLang

open Prog Relation

variable {Party Call : Type} {Reply : Call → Type} {α : Type}

/-- The rest of a program and what it has done so far. -/
structure Process (Reply : Call → Type) (α : Type) where
  prog : Prog Reply α
  log : List (Event Reply)

/-- The program has returned or stopped, or has been killed. -/
def Process.Ended (x : Process Reply α) : Prop := (∃ a, x.prog = .ret a) ∨ ∃ e, x.prog = .stop e

abbrev Logs (Party : Type) (Reply : Call → Type) := Party → List (Event Reply)

/-- The answer to the next call of a process, where `none` makes it wait. -/
structure Service (Party : Type) (Reply : Call → Type) where
  answer : Party → Logs Party Reply → (c : Call) → Option (Reply c)
  stable : ∀ {i : Party} {l l' : Logs Party Reply} {c : Call} {r : Reply c}, l i = l' i →
    (∀ j, l j <+: l' j) → answer i l c = some r → answer i l' c = some r

abbrev Network (Party : Type) (Reply : Call → Type) (α : Type) := Party → Process Reply α

namespace Network

def logs (s : Network Party Reply α) : Logs Party Reply := fun i => (s i).log

variable (service : Service Party Reply)

/-- A process after its next event, unless it has ended or waits. -/
def next (s : Network Party Reply α) (i : Party) : Option (Process Reply α) :=
  match (s i).prog with
  | .ret _ => none
  | .stop _ => none
  | .stray f p => some ⟨p, (s i).log ++ [.stray f]⟩
  | .call c k => (service.answer i s.logs c).map fun r => ⟨k r, (s i).log ++ [.call c r]⟩

variable {service}

lemma next_log {s : Network Party Reply α} {i : Party} {p : Process Reply α}
    (h : s.next service i = some p) : (s i).log <+: p.log := by
  unfold next at h
  split at h
  · cases h
  · cases h
  · obtain rfl := Option.some.inj h
    exact List.prefix_append _ _
  · obtain ⟨r, -, rfl⟩ := Option.map_eq_some_iff.mp h
    exact List.prefix_append _ _

/-- The next event of a process stays the same when the other processes go on. -/
lemma next_stable {s t : Network Party Reply α} {i : Party} {p : Process Reply α} (hi : s i = t i)
    (hlogs : ∀ j, (s j).log <+: (t j).log) (h : s.next service i = some p) :
    t.next service i = some p := by
  unfold next at h ⊢
  rw [← hi]
  split at h
  · cases h
  · cases h
  · exact h
  · rename_i c k _
    obtain ⟨r, hr, rfl⟩ := Option.map_eq_some_iff.mp h
    have hr' := service.stable (congrArg Process.log hi) hlogs hr
    exact Option.map_eq_some_iff.mpr ⟨r, hr', rfl⟩

def Ended (s : Network Party Reply α) : Prop := ∀ i, ∃ a, (s i).prog = .ret a

lemma Ended.next_eq_none {s : Network Party Reply α} (h : s.Ended) (i : Party) :
    s.next service i = none := by
  obtain ⟨a, ha⟩ := h i
  unfold next
  rw [ha]

variable [DecidableEq Party]

variable (service) in
def Step (s t : Network Party Reply α) : Prop :=
  ∃ i p, s.next service i = some p ∧ t = Function.update s i p

variable (service) in
def Reaches : Network Party Reply α → Network Party Reply α → Prop := ReflTransGen (Step service)

variable {s t u : Network Party Reply α}

lemma update_log {i : Party} {p : Process Reply α} (h : (s i).log <+: p.log) (j : Party) :
    (s j).log <+: (Function.update s i p j).log := by
  by_cases hj : j = i
  · rw [hj, Function.update_self]
    exact h
  · rw [Function.update_of_ne hj]

lemma Step.log (h : Step service s t) (j : Party) : (s j).log <+: (t j).log := by
  obtain ⟨i, p, hp, rfl⟩ := h
  exact update_log (next_log hp) j

/-- What a process has done is never undone. -/
theorem Reaches.log (h : Reaches service s t) (j : Party) : (s j).log <+: (t j).log := by
  induction h with
  | refl => exact List.prefix_rfl
  | tail _ hstep ih => exact ih.trans (hstep.log j)

/-- Steps of two processes can be taken in either order. -/
lemma Step.diamond (ht : Step service s t) (hu : Step service s u) :
    t = u ∨ ∃ v, Step service t v ∧ Step service u v := by
  obtain ⟨i, p, hp, rfl⟩ := ht
  obtain ⟨j, q, hq, rfl⟩ := hu
  by_cases hij : i = j
  · subst hij
    rw [hp] at hq
    rw [Option.some.inj hq]
    exact .inl rfl
  · refine .inr ⟨Function.update (Function.update s i p) j q, ⟨j, q, ?_, rfl⟩, ⟨i, p, ?_, ?_⟩⟩
    · exact next_stable (Function.update_of_ne (Ne.symm hij) p s).symm
        (update_log (next_log hp)) hq
    · exact next_stable (Function.update_of_ne hij q s).symm (update_log (next_log hq)) hp
    · exact Function.update_comm hij p q s

lemma Reaches.confluent (ht : Reaches service s t) (hu : Reaches service s u) :
    Join (Reaches service) t u := by
  refine church_rosser ?_ ht hu
  intro a b c hb hc
  rcases hb.diamond hc with rfl | ⟨d, hbd, hcd⟩
  · exact ⟨b, .refl, .refl⟩
  · exact ⟨d, .single hbd, .single hcd⟩

lemma Ended.eq_of_reaches (h : s.Ended) (ht : Reaches service s t) : t = s := by
  rcases ReflTransGen.cases_head ht with heq | ⟨d, ⟨i, p, hp, -⟩, -⟩
  · exact heq.symm
  · rw [h.next_eq_none] at hp
    cases hp

/-- When one run comes to an end, every run can be continued to this end. -/
theorem Reaches.of_ended (hu : Reaches service s u) (hend : u.Ended) (ht : Reaches service s t) :
    Reaches service t u := by
  obtain ⟨v, htv, huv⟩ := ht.confluent hu
  rw [hend.eq_of_reaches huv] at htv
  exact htv

/-- The service gives the replies of `es` when the process makes no other event in between and the
others wait. -/
def Answered (service : Service Party Reply) (i : Party) :
    Logs Party Reply → List (Event Reply) → Prop
  | _, [] => True
  | l, .stray f :: es => Answered service i (Function.update l i (l i ++ [.stray f])) es
  | l, .call c r :: es =>
    service.answer i l c = some r ∧
      Answered service i (Function.update l i (l i ++ [.call c r])) es

lemma logs_update (s : Network Party Reply α) (i : Party) (p : Process Reply α) :
    logs (Function.update s i p) = Function.update s.logs i p.log := by
  funext j
  by_cases hj : j = i
  · rw [hj, logs, Function.update_self, Function.update_self]
  · rw [logs, Function.update_of_ne hj, Function.update_of_ne hj, logs]

theorem reaches_of_trace {p p' : Prog Reply α} {es : List (Event Reply)} (h : Trace p es p')
    {s : Network Party Reply α} {i : Party} {log : List (Event Reply)} (hs : s i = ⟨p, log⟩)
    (ha : Answered service i s.logs es) :
    Reaches service s (Function.update s i ⟨p', log ++ es⟩) := by
  have hlog : s.logs i = log := congrArg Process.log hs
  induction h generalizing s log with
  | done p =>
    rw [List.append_nil, ← hs, Function.update_eq_self]
    exact .refl
  | @stray f p p' es _ ih =>
    let t := Function.update s i ⟨p, log ++ [.stray f]⟩
    have hstep : Step service s t := by
      refine ⟨i, ⟨p, log ++ [.stray f]⟩, ?_, rfl⟩
      unfold next
      rw [hs]
    have ht := ih (s := t) (Function.update_self _ _ _) (by rw [logs_update, ← hlog]; exact ha)
      (by rw [logs_update, Function.update_self])
    rw [Function.update_idem, List.append_assoc] at ht
    exact .head hstep ht
  | @call c r k p' es _ ih =>
    let t := Function.update s i ⟨k r, log ++ [.call c r]⟩
    obtain ⟨hr, hes⟩ := ha
    have hstep : Step service s t := by
      refine ⟨i, ⟨k r, log ++ [.call c r]⟩, ?_, rfl⟩
      unfold next
      rw [hs]
      exact Option.map_eq_some_iff.mpr ⟨r, hr, rfl⟩
    have ht := ih (s := t) (Function.update_self _ _ _) (by rw [logs_update, ← hlog]; exact hes)
      (by rw [logs_update, Function.update_self])
    rw [Function.update_idem, List.append_assoc] at ht
    exact .head hstep ht

/-- Processes take turns: who runs, and the events until the next turn. -/
abbrev Schedule (Party : Type) (Reply : Call → Type) := List (Party × List (Event Reply))

def eventsOf (i : Party) (schedule : Schedule Party Reply) : List (Event Reply) :=
  schedule.flatMap fun turn => if turn.1 = i then turn.2 else []

def Follows (service : Service Party Reply) : Logs Party Reply → Schedule Party Reply → Prop
  | _, [] => True
  | l, (i, es) :: rest =>
    Answered service i l es ∧ Follows service (Function.update l i (l i ++ es)) rest

/-- Programs that do the events of a schedule do them in this order. -/
theorem reaches_of_schedule {schedule : Schedule Party Reply} {s : Network Party Reply α}
    {p' : Party → Prog Reply α} (h : ∀ i, Trace (s i).prog (eventsOf i schedule) (p' i))
    (ha : Follows service s.logs schedule) :
    Reaches service s fun i => ⟨p' i, (s i).log ++ eventsOf i schedule⟩ := by
  induction schedule generalizing s with
  | nil =>
    have hs : (fun i => ⟨p' i, (s i).log ++ eventsOf i []⟩) = s := by
      funext i
      rw [← (h i).eq_of_nil, eventsOf, List.flatMap_nil, List.append_nil]
    rw [hs]
    exact .refl
  | cons turn rest ih =>
    obtain ⟨i, es⟩ := turn
    obtain ⟨hanswered, hfollows⟩ := ha
    have hi := h i
    rw [eventsOf, List.flatMap_cons, if_pos rfl] at hi
    obtain ⟨p, hes, hrest⟩ := hi.split
    let t := Function.update s i ⟨p, (s i).log ++ es⟩
    have hturn : Reaches service s t := reaches_of_trace hes rfl hanswered
    have hself : t i = ⟨p, (s i).log ++ es⟩ := Function.update_self _ _ _
    have hother : ∀ j, j ≠ i → t j = s j := fun j hj => Function.update_of_ne hj _ _
    have hprog : ∀ j, Trace (t j).prog (eventsOf j rest) (p' j) := by
      intro j
      by_cases hj : j = i
      · rw [hj, hself]
        exact hrest
      · have htrace := h j
        rw [eventsOf, List.flatMap_cons, if_neg (Ne.symm hj)] at htrace
        rw [hother j hj]
        exact htrace
    have hend := ih hprog (by rw [logs_update]; exact hfollows)
    have hlogs : (fun j => ⟨p' j, (t j).log ++ eventsOf j rest⟩) =
        fun j => (⟨p' j, (s j).log ++ eventsOf j ((i, es) :: rest)⟩ : Process Reply α) := by
      funext j
      rw [eventsOf, eventsOf, List.flatMap_cons]
      by_cases hj : j = i
      · rw [hj, hself, if_pos rfl, List.append_assoc]
      · rw [hother j hj, if_neg (Ne.symm hj), List.nil_append]
    rw [hlogs] at hend
    exact hturn.trans hend

end Network

end CLang
