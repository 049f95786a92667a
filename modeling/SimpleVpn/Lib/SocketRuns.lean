import SimpleVpn.Lib.Runs
import SimpleVpn.Lib.SocketNetwork

/-!
# What hosts have received

A host that has received a byte string did so when the other end of the connection had sent it.
-/

namespace CLang

open Prog

variable {Out Party : Type} [DecidableEq Party] {topology : Topology Party}

namespace Topology

open SockLog

variable {l l' : Party → SockLog Out} {i j : Party} {fd fd' : Fd} {n : Nat} {bytes : Received n}

/-- What is received was sent on the connection, also as it is seen later on. -/
lemma sent_of_answer_recv (h : topology.answer i l (.recv fd n) = some (some bytes))
    (hi : l i = l' i) (hle : ∀ j, l j <+: l' j) (hremote : topology.remote l' i fd = some (j, fd')) :
    (sentOn fd' (l j))[(receivedOn fd (l i)).length]? = some bytes.val := by
  rw [answer] at h
  obtain ⟨b, hb, h⟩ := Option.bind_eq_some_iff.mp h
  obtain ⟨r, hr, hsent⟩ := Option.bind_eq_some_iff.mp hb
  rw [remote_stable hi hle hr] at hremote
  obtain rfl := Option.some.inj hremote
  by_cases hlen : b.length ≤ n
  · rw [dif_pos hlen] at h
    obtain rfl := Option.some.inj (Option.some.inj h)
    exact hsent
  · rw [dif_neg hlen] at h
    cases h

end Topology

namespace SockLog

lemma receivedOn_mono {log log' : SockLog Out} (fd : Fd) (h : log <+: log') :
    receivedOn fd log <+: receivedOn fd log' := h.filterMap _

/-- When the first send comes after the first receive, there are no more sends than receives. -/
lemma sent_le_received {es l a : SockLog Out} {fd fd' : Fd} (h : es <+: l) (ha : a <+: l)
    (hfirst : sentOn fd a = []) (honce : (sentOn fd l).length ≤ 1)
    (hreceived : (receivedOn fd' a).length = 1) :
    (sentOn fd es).length ≤ (receivedOn fd' es).length := by
  rcases List.prefix_or_prefix_of_prefix h ha with hle | hle
  · have hsent := sentOn_mono fd hle
    rw [hfirst, List.prefix_nil] at hsent
    rw [hsent]
    exact Nat.zero_le _
  · have hsent := (sentOn_mono fd h).length_le
    have hmore := (receivedOn_mono fd' hle).length_le
    omega

/-- How many byte strings have passed a descriptor. -/
def passed (fd : Fd) (log : SockLog Out) : Nat := (sentOn fd log).length + (receivedOn fd log).length

lemma passed_append (fd : Fd) (log log' : SockLog Out) :
    passed fd (log ++ log') = passed fd log + passed fd log' := by
  rw [passed, sentOn, receivedOn, List.filterMap_append, List.filterMap_append, List.length_append,
    List.length_append]
  change _ = (sentOn fd log).length + (receivedOn fd log).length +
    ((sentOn fd log').length + (receivedOn fd log').length)
  rw [sentOn, sentOn, receivedOn, receivedOn]
  omega

/-- An event concerns one descriptor at most. -/
lemma passed_event_le (e : SockEvent Out) {fd fd' : Fd} (h : fd ≠ fd') : passed fd [e] + passed fd' [e] ≤ 1 := by
  have hone {fd'' : Fd} (hpassed : ∀ fd, passed fd [e] = if fd'' = fd then 1 else 0) :
      passed fd [e] + passed fd' [e] ≤ 1 := by
    rw [hpassed, hpassed]
    by_cases hfd : fd'' = fd
    · rw [if_pos hfd, if_neg (hfd ▸ h)]
    · rw [if_neg hfd, Nat.zero_add]
      split
      · exact Nat.le_refl 1
      · exact Nat.zero_le 1
  cases e with
  | stray x => exact Nat.zero_le 1
  | call c r =>
    cases c with
    | send fd'' bytes =>
      cases r with
      | false => exact Nat.zero_le 1
      | true =>
        refine @hone fd'' ?_
        intro fd
        by_cases hfd : fd'' = fd <;> simp [passed, sentOn, receivedOn, hfd]
    | recv fd'' n =>
      cases r with
      | none => exact Nat.zero_le 1
      | some bytes =>
        refine @hone fd'' ?_
        intro fd
        by_cases hfd : fd'' = fd <;> simp [passed, sentOn, receivedOn, hfd]
    | _ => exact Nat.zero_le 1

/-- The messages of a host and its stores outside objects do not concern its sockets. -/
def Unrelated (e : SockEvent Out) : Prop := (∃ out r, e = .call (.print out) r) ∨ ∃ x, e = .stray x

section Unrelated

variable {earlier : SockLog Out} (h : ∀ e ∈ earlier, Unrelated e) (log : SockLog Out)
include h

lemma filterMap_unrelated {β : Type} {f : SockEvent Out → Option β} (hf : ∀ e, Unrelated e → f e = none) :
    (earlier ++ log).filterMap f = log.filterMap f := by
  have hnone : earlier.filterMap f = [] := List.filterMap_eq_nil_iff.mpr fun e he => hf e (h e he)
  rw [List.filterMap_append, hnone, List.nil_append]

lemma opened_unrelated : opened (earlier ++ log) = opened log := by
  refine filterMap_unrelated h log fun e he => ?_
  rcases he with ⟨out, r, rfl⟩ | ⟨x, rfl⟩ <;> rfl

lemma accepted_unrelated : accepted (earlier ++ log) = accepted log := by
  refine filterMap_unrelated h log fun e he => ?_
  rcases he with ⟨out, r, rfl⟩ | ⟨x, rfl⟩ <;> rfl

lemma connected_unrelated : connected (earlier ++ log) = connected log := by
  refine filterMap_unrelated h log fun e he => ?_
  rcases he with ⟨out, r, rfl⟩ | ⟨x, rfl⟩ <;> rfl

lemma listening_unrelated : listening (earlier ++ log) = listening log := by
  refine filterMap_unrelated h log fun e he => ?_
  rcases he with ⟨out, r, rfl⟩ | ⟨x, rfl⟩ <;> rfl

lemma bound_unrelated : bound (earlier ++ log) = bound log := by
  refine filterMap_unrelated h log fun e he => ?_
  rcases he with ⟨out, r, rfl⟩ | ⟨x, rfl⟩ <;> rfl

lemma sentOn_unrelated (fd : Fd) : sentOn fd (earlier ++ log) = sentOn fd log := by
  refine filterMap_unrelated h log fun e he => ?_
  rcases he with ⟨out, r, rfl⟩ | ⟨x, rfl⟩ <;> rfl

lemma receivedOn_unrelated (fd : Fd) : receivedOn fd (earlier ++ log) = receivedOn fd log := by
  refine filterMap_unrelated h log fun e he => ?_
  rcases he with ⟨out, r, rfl⟩ | ⟨x, rfl⟩ <;> rfl

lemma listens_unrelated (port : UInt16) : Listens (earlier ++ log) port ↔ Listens log port := by
  rw [Listens, Listens, listening_unrelated h, bound_unrelated h]

end Unrelated

end SockLog

namespace Topology

open SockLog

section Unrelated

variable {earlier : Party → SockLog Out} (h : ∀ j, ∀ e ∈ earlier j, Unrelated e) (l : Party → SockLog Out)
include h

lemma dialed_unrelated (i j : Party) : topology.dialed i j (earlier i ++ l i) = topology.dialed i j (l i) := by
  rw [dialed, dialed, connected_unrelated (h i)]

lemma remote_unrelated (i : Party) (fd : Fd) :
    topology.remote (fun j => earlier j ++ l j) i fd = topology.remote l i fd := by
  simp only [remote, callee, dialed_unrelated h, accepted_unrelated (h _), connected_unrelated (h _)]

lemma incoming_unrelated (i : Party) (fd : Fd) :
    topology.incoming (fun j => earlier j ++ l j) i fd = topology.incoming l i fd := by
  simp only [incoming, remote_unrelated h, sentOn_unrelated (h _), receivedOn_unrelated (h _)]

/-- What hosts have printed does not change how their calls are answered. -/
theorem forgets_unrelated : Network.Forgets topology.service earlier := by
  intro i l c
  change topology.answer i (fun j => earlier j ++ l j) c = topology.answer i l c
  cases c with
  | accept fd =>
    rw [answer, answer, dialed_unrelated h, accepted_unrelated (h i), opened_unrelated (h i)]
  | connect fd address port => simp only [answer, listens_unrelated (h _)]
  | recv fd n => rw [answer, answer, incoming_unrelated h]
  | socket => rw [answer, answer, opened_unrelated (h i)]
  | setsockopt fd => rfl
  | bind fd port => rfl
  | listen fd => rfl
  | inetPton text => rfl
  | send fd bytes => rfl
  | close fd => rfl
  | shutdown fd => rfl
  | print out => rfl

end Unrelated

end Topology

namespace Network

open SockLog

variable {α : Type} {s t : Network Party (@SysReply Out) α} {l : Party → SockLog Out} {i j : Party}
  {fd fd' : Fd} {n : Nat} {pre : SockLog Out} {bytes : Received n}

/-- A byte string that a host has received by the end was sent before it was received: in every state on
the way it is not received yet, or the other end has sent it. -/
theorem Reaches.received_prefix_sent (ht : Reaches topology.service s t) (hs : (s i).log = [])
    (hle : ∀ j, (t j).log <+: l j) (hi : pre ++ [.call (.recv fd n) (some bytes)] <+: l i)
    (hpre : receivedOn fd pre = []) (honce : receivedOn fd (l i) = [bytes.val])
    (hremote : topology.remote (Function.update l i pre) i fd = some (j, fd')) :
    receivedOn fd (t i).log <+: sentOn fd' (t j).log := by
  have hpre' : pre <+: l i := (List.prefix_append _ _).trans hi
  rcases List.prefix_or_prefix_of_prefix (hle i) hpre' with hbefore | ⟨rest, hrest⟩
  · have hnone := receivedOn_mono fd hbefore
    rw [hpre, List.prefix_nil] at hnone
    rw [hnone]
    exact List.nil_prefix
  cases rest with
  | nil =>
    rw [List.append_nil] at hrest
    rw [← hrest, hpre]
    exact List.nil_prefix
  | cons e rest =>
    have he : e = .call (.recv fd n) (some bytes) := by
      obtain ⟨post, hpost⟩ := hi
      have hlog := hle i
      rw [← hrest, ← hpost, List.append_assoc, List.prefix_append_right_inj] at hlog
      exact (List.cons_prefix_cons.mp hlog).1
    subst he
    obtain ⟨u, -, hut, hlog, hanswer⟩ := ht.added (by rw [hs]; exact List.nil_prefix) hrest.symm
    have hself : u.logs i = Function.update l i pre i := by
      rw [Function.update_self]
      exact hlog
    have hothers : ∀ j, u.logs j <+: Function.update l i pre j := by
      intro j
      by_cases hj : j = i
      · rw [hj, hself]
      · rw [Function.update_of_ne hj]
        exact (hut.log j).trans (hle j)
    have hsent := Topology.sent_of_answer_recv (hanswer _ _ rfl) hself hothers hremote
    have hreceived : receivedOn fd (u.logs i) = [] := by
      rw [hself, Function.update_self, hpre]
    rw [hreceived, List.length_nil] at hsent
    have hfirst := Topology.getElem?_mono (sentOn_mono fd' (hut.log j)) hsent
    have hmost := receivedOn_mono fd (hle i)
    rw [honce] at hmost
    refine hmost.trans ?_
    cases hsends : sentOn fd' (t j).log with
    | nil =>
      rw [hsends] at hfirst
      cases hfirst
    | cons b rest =>
      rw [hsends, List.getElem?_cons_zero] at hfirst
      rw [Option.some.inj hfirst]
      exact List.prefix_append [bytes.val] rest

end Network

end CLang
