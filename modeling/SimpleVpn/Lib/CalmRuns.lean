import SimpleVpn.Lib.StreamNetwork

/-!
# Runs in which nothing fails

Calm steps are steps of the service in which every call waits until it can succeed. When this service has a run to
an end at which every call has succeeded, then all its steps on the way are calm.
-/

namespace CLang

open Prog Relation

variable {Out Party α : Type} [DecidableEq Party]

namespace Topology

open SockLog

variable {topology : Topology Party} {s t f : Network Party (@SysReply Out) α} {i : Party}

/-- A calm answer is the answer of the service in which every call waits until it can succeed. -/
lemma answer_of_calm {c : SysCall Out} {r : SysReply c} (hr : topology.Replies s i c r)
    (hcalm : topology.Undisturbed s.logs i c r) : topology.answer i s.logs c = some r := by
  obtain ⟨hsucceeds, hwhole⟩ := hcalm
  cases c with
  | socket =>
    obtain ⟨fd, rfl⟩ := Option.isSome_iff_exists.mp hsucceeds
    rw [hr fd rfl]
    rfl
  | setsockopt fd =>
    obtain rfl : r = true := hsucceeds
    rfl
  | bind fd port =>
    obtain rfl : r = true := hsucceeds
    rfl
  | listen fd =>
    obtain rfl : r = true := hsucceeds
    rfl
  | accept fd =>
    obtain ⟨hcalled, hfd⟩ := hr
    obtain ⟨fd', rfl⟩ := Option.isSome_iff_exists.mp hsucceeds
    rw [hfd fd' rfl]
    exact if_pos hcalled
  | inetPton text =>
    rw [show r = CLang.inetPton text from hr]
    rfl
  | connect fd address port =>
    obtain rfl : r = true := hsucceeds
    obtain ⟨-, -, -, j, hroute, -, fd', hlisten, hbound, -⟩ := hr rfl
    exact answer_connect hroute ⟨fd', hlisten, hbound⟩
  | send fd bytes =>
    obtain rfl : r = true := hsucceeds
    rfl
  | recv fd n =>
    obtain ⟨bytes, rfl⟩ := Option.isSome_iff_exists.mp hsucceeds
    rw [answer, show topology.incoming s.logs i fd = some bytes.val from hwhole, Option.bind_some,
      dif_pos bytes.property]
  | close fd => rfl
  | shutdown fd => rfl
  | print out => rfl

/-- Calm steps are steps of the service. -/
theorem step_of_calm (h : topology.calm.Moves s t) : Network.Step topology.service s t := by
  obtain ⟨i, x, hx, rfl⟩ := h
  refine ⟨i, x, ?_, rfl⟩
  unfold Network.next
  cases hx with
  | stray hprog => rw [hprog]
  | @call c k r hprog hr =>
    have hanswer : topology.service.answer i s.logs c = some r := answer_of_calm hr.1 hr.2
    rw [hprog]
    dsimp only
    rw [hanswer, Option.map_some]
  | killed hprog hkill => exact hkill.elim

lemma reaches_of_calm (h : ReflTransGen topology.calm.Moves s t) : Network.Reaches topology.service s t :=
  ReflTransGen.mono (fun _ _ => step_of_calm) _ _ h

/-- The connection can be made, or the first receive on a connection takes something. -/
def Ready (topology : Topology Party) (s : Network Party (@SysReply Out) α) (i : Party) : SysCall Out → Prop
  | .connect fd address port => fd ∈ opened (s i).log ∧ fd ∉ accepted (s i).log ∧
      fd ∉ (connected (s i).log).map Prod.fst ∧ ∀ j, topology.route i address port = some j → (s j).Accepts port
  | .recv fd _ => receivedOn fd (s i).log = [] ∧ topology.incoming s.logs i fd ≠ some []
  | _ => True

/-- When a call can be made, a successful answer of the service is calm. -/
lemma calm_of_answer {c : SysCall Out} {r : SysReply c} (hanswer : topology.answer i s.logs c = some r)
    (hsucceeds : succeeds c r = true) (hready : topology.Ready s i c) : topology.calm.replies s i c r := by
  cases c with
  | socket =>
    obtain rfl := Option.some.inj hanswer
    exact ⟨fun fd hfd => (Option.some.inj hfd).symm, rfl, trivial⟩
  | setsockopt fd => exact ⟨trivial, hsucceeds, trivial⟩
  | bind fd port => exact ⟨trivial, hsucceeds, trivial⟩
  | listen fd => exact ⟨trivial, hsucceeds, trivial⟩
  | accept fd =>
    rw [answer] at hanswer
    by_cases hcalled : (accepted (s.logs i)).length <
        (topology.dialed (topology.caller i) i (s.logs (topology.caller i))).length
    · rw [if_pos hcalled] at hanswer
      obtain rfl := Option.some.inj hanswer
      exact ⟨⟨hcalled, fun fd hfd => (Option.some.inj hfd).symm⟩, rfl, trivial⟩
    · rw [if_neg hcalled] at hanswer
      cases hanswer
  | inetPton text => exact ⟨(Option.some.inj hanswer).symm, hsucceeds, trivial⟩
  | connect fd address port =>
    obtain ⟨hopened, haccepted, hconnected, haccepts⟩ := hready
    refine ⟨fun _ => ⟨hopened, haccepted, hconnected, ?_⟩, hsucceeds, trivial⟩
    rw [answer] at hanswer
    cases hroute : topology.route i address port with
    | none =>
      rw [hroute] at hanswer
      obtain rfl := Option.some.inj hanswer
      cases hsucceeds
    | some j => exact ⟨j, rfl, haccepts j hroute⟩
  | send fd bytes => exact ⟨trivial, hsucceeds, trivial⟩
  | recv fd n =>
    obtain ⟨hfirst, hsome⟩ := hready
    obtain ⟨bytes, hbytes, h⟩ := Option.bind_eq_some_iff.mp hanswer
    by_cases hlen : bytes.length ≤ n
    · rw [dif_pos hlen] at h
      obtain rfl := Option.some.inj h
      refine ⟨?_, rfl, hbytes⟩
      have hne : bytes ≠ [] := fun hempty => hsome (hempty ▸ hbytes)
      change if bytes = [] then _ else bytes <+: topology.unread s.logs i fd
      rw [if_neg hne]
      obtain ⟨remote, hremote, hsent⟩ := Option.bind_eq_some_iff.mp hbytes
      rw [show receivedOn fd (s.logs i) = [] from hfirst, List.length_nil, ← List.head?_eq_getElem?] at hsent
      obtain ⟨rest, hrest⟩ := List.head?_eq_some_iff.mp hsent
      rw [unread, hremote, received, show receivedOn fd (s.logs i) = [] from hfirst]
      dsimp only [List.flatten_nil, List.length_nil, List.drop_zero]
      rw [sent, hrest, List.flatten_cons]
      exact List.prefix_append _ _
    · rw [dif_neg hlen] at h
      cases h
  | close fd => exact ⟨trivial, rfl, trivial⟩
  | shutdown fd => exact ⟨trivial, rfl, trivial⟩
  | print out => exact ⟨trivial, rfl, trivial⟩

/-- A step of the service is calm when its call can be made and succeeds. -/
theorem calm_of_step {p : Process (@SysReply Out) α} (hp : s.next topology.service i = some p)
    (hsucceeds : ∀ c r, p.log = (s i).log ++ [.call c r] → succeeds c r = true ∧ topology.Ready s i c) :
    topology.calm.Moves s (Function.update s i p) := by
  refine ⟨i, p, ?_, rfl⟩
  unfold Network.next at hp
  split at hp
  · cases hp
  · cases hp
  · rename_i f q hprog
    obtain rfl := Option.some.inj hp
    exact .stray hprog
  · rename_i c k hprog
    obtain ⟨r, hr, rfl⟩ := Option.map_eq_some_iff.mp hp
    obtain ⟨hsuccess, hready⟩ := hsucceeds c r rfl
    exact .call hprog (calm_of_answer hr hsuccess hready)

/-- The calls of a log succeed: the host connects once, and receives something once on a descriptor. -/
def Smooth : SockLog Out → SockLog Out → Prop
  | _, [] => True
  | before, .stray x :: es => Smooth (before ++ [.stray x]) es
  | before, .call c r :: es => succeeds c r = true ∧ (match c, r with
      | .connect fd _ _, _ => fd ∈ opened before ∧ fd ∉ accepted before ∧ connected before = []
      | .recv fd _, some bytes => receivedOn fd before = [] ∧ bytes.val ≠ []
      | _, _ => True) ∧ Smooth (before ++ [.call c r]) es

lemma Smooth.append {before es es' : SockLog Out} (h : Smooth before (es ++ es')) : Smooth (before ++ es) es' := by
  induction es generalizing before with
  | nil =>
    rw [List.append_nil]
    exact h
  | cons e es ih =>
    rw [← List.singleton_append, ← List.append_assoc]
    cases e with
    | stray x => exact ih h
    | call c r => exact ih h.2.2

lemma Smooth.unrelated {earlier before es : SockLog Out} (h : Smooth before es) (he : ∀ e ∈ earlier, Unrelated e) :
    Smooth (earlier ++ before) es := by
  induction es generalizing before with
  | nil => trivial
  | cons e es ih =>
    cases e with
    | stray x =>
      have hes := ih (show Smooth (before ++ [.stray x]) es from h)
      rw [← List.append_assoc] at hes
      exact hes
    | call c r =>
      obtain ⟨hsucceeds, hcall, hes⟩ := h
      have hes := ih hes
      rw [← List.append_assoc] at hes
      refine ⟨hsucceeds, ?_, hes⟩
      cases c with
      | connect fd address port =>
        rw [opened_unrelated he, accepted_unrelated he, connected_unrelated he]
        exact hcall
      | recv fd n =>
        cases r with
        | none => trivial
        | some bytes => exact ⟨(receivedOn_unrelated he before fd).trans hcall.1, hcall.2⟩
      | _ => trivial

/-- The next call of a host can be made, and succeeds. -/
lemma ready_of_smooth {c : SysCall Out} {r : SysReply c} {es : SockLog Out}
    (h : Smooth (s i).log (.call c r :: es)) (hanswer : topology.answer i s.logs c = some r)
    (haccepts : connected (s i).log = [] → ∀ address port j, topology.route i address port = some j →
      Listens (s j).log port → (s j).Accepts port) : succeeds c r = true ∧ topology.Ready s i c := by
  obtain ⟨hsucceeds, hcall, -⟩ := h
  refine ⟨hsucceeds, ?_⟩
  cases c with
  | connect fd address port =>
    obtain ⟨hopened, haccepted, hconnected⟩ := hcall
    refine ⟨hopened, haccepted, ?_, fun j hroute => ?_⟩
    · rw [hconnected]
      exact List.not_mem_nil
    · rw [answer, hroute] at hanswer
      dsimp only at hanswer
      by_cases hlistens : Listens (s.logs j) port
      · exact haccepts hconnected address port j hroute hlistens
      · rw [if_neg hlistens] at hanswer
        cases hanswer
  | recv fd n =>
    obtain ⟨bytes, rfl⟩ := Option.isSome_iff_exists.mp hsucceeds
    obtain ⟨hreceived, hne⟩ := hcall
    obtain ⟨bytes', hbytes, h⟩ := Option.bind_eq_some_iff.mp hanswer
    refine ⟨hreceived, fun hempty => ?_⟩
    rw [hempty] at hbytes
    obtain rfl := Option.some.inj hbytes
    rw [dif_pos (show ([] : List UInt8).length ≤ n from Nat.zero_le n)] at h
    exact hne (congrArg Subtype.val (Option.some.inj (Option.some.inj h))).symm
  | _ => trivial

/-- The service has a run from `s` to its end `f` in which every call succeeds, and a host that is called accepts a
connection before it closes a socket. -/
structure EndsCalmly (topology : Topology Party) (s f : Network Party (@SysReply Out) α) : Prop where
  start : ∀ i, (s i).log = []
  reaches : Network.Reaches topology.service s f
  ended : f.Ended
  smooth : ∀ i, Smooth [] (f.logs i)
  called : ∀ i address port j, topology.route i address port = some j →
    topology.caller j = i ∧ ∃ es, es <+: f.logs j ∧ accepted es ≠ [] ∧ closed es = []

namespace EndsCalmly

variable (h : EndsCalmly topology s f)
include h

/-- Every step of the service is calm. -/
theorem calm_of_step (ht : ReflTransGen topology.calm.Moves s t) {u : Network Party (@SysReply Out) α}
    (hstep : Network.Step topology.service t u) : topology.calm.Moves t u := by
  have hconsistent := consistent_of_reaches h.start (network_of_calm ht)
  have hreach := reaches_of_calm ht
  obtain ⟨i, p, hp, rfl⟩ := hstep
  refine Topology.calm_of_step hp fun c r hlog => ?_
  obtain ⟨e, he, hanswer⟩ := Network.next_event hp
  have hlast : (Function.update t i p i).log <+: (f i).log :=
    (h.reaches.of_ended h.ended (hreach.tail ⟨i, p, hp, rfl⟩)).log i
  rw [Function.update_self, hlog] at hlast
  obtain ⟨es, hes⟩ := hlast
  rw [List.append_assoc, List.singleton_append] at hes
  have hrest : Smooth [] (f i).log := h.smooth i
  rw [← hes] at hrest
  rw [hlog] at he
  have he' : e = .call c r := (List.singleton_inj.mp (List.append_inj' he rfl).2).symm
  have hrest := hrest.append
  rw [List.nil_append] at hrest
  refine ready_of_smooth hrest (hanswer c r he') ?_
  intro hconnected address port j hroute hlistens
  obtain ⟨hcaller, es', hprefix, haccepted, hclosed⟩ := h.called i address port j hroute
  have hnone : accepted (t j).log = [] := by
    have hle := hconsistent.called j
    rw [hcaller, dialed, show connected (t.logs i) = [] from hconnected] at hle
    exact List.length_eq_zero_iff.mp (Nat.le_zero.mp hle)
  have hreachf := h.reaches.of_ended h.ended hreach
  refine ⟨fun hended => ?_, ?_⟩
  · have hsame := hreachf.of_processEnded hended
    have hle := accepted_mono hprefix
    rw [Network.logs, hsame, hnone] at hle
    exact haccepted (List.prefix_nil.mp hle)
  · obtain ⟨fd, hfd, hbound⟩ := hlistens
    refine ⟨fd, hfd, hbound, ?_⟩
    rcases List.prefix_or_prefix_of_prefix hprefix (hreachf.log j) with hle | hle
    · have hle := accepted_mono hle
      rw [hnone] at hle
      exact absurd (List.prefix_nil.mp hle) haccepted
    · have hle : closed (t j).log <+: closed es' := hle.filterMap _
      rw [hclosed] at hle
      rw [List.prefix_nil.mp hle]
      exact List.not_mem_nil

/-- The calm states are those that the service reaches. -/
theorem calm_iff_reaches : ReflTransGen topology.calm.Moves s t ↔ Network.Reaches topology.service s t := by
  refine ⟨reaches_of_calm, fun ht => ?_⟩
  induction ht with
  | refl => exact .refl
  | tail _ hstep ih => exact ih.tail (h.calm_of_step ih hstep)

/-- All calm runs can be continued to this end, and none of them gets stuck on the way. -/
theorem stuck_iff [Fintype Party] {n : Nat} (ht : RunsIn topology.calm.Moves s n t) :
    n ≤ f.size ∧ ((∀ u, ¬ topology.calm.Moves t u) ↔ n = f.size) ∧ (n = f.size ↔ t = f) := by
  have hrun : RunsIn (Network.Step topology.service) s n t := ht.mono fun _ _ => step_of_calm
  have hstart : s.size = 0 := Finset.sum_eq_zero fun i _ => by rw [Network.logs, h.start]; rfl
  obtain ⟨hstuck, hlast, hle⟩ := Network.stuck_iff h.reaches h.ended hrun
  rw [hstart, Nat.zero_add] at hlast hle
  refine ⟨hle, ?_, hlast.symm⟩
  rw [← hlast, ← hstuck]
  exact forall_congr' fun u => not_congr ⟨step_of_calm, h.calm_of_step ht.reaches⟩

lemma runsIn_size [Fintype Party] : RunsIn topology.calm.Moves s f.size f := by
  obtain ⟨n, hn⟩ := exists_runsIn (h.calm_iff_reaches.mpr h.reaches)
  rwa [← (h.stuck_iff hn).2.2.mpr rfl]

end EndsCalmly

end Topology

end CLang
