import SimpleVpn.Lib.Environments
import SimpleVpn.Lib.SocketRuns

/-!
# Hosts connected by byte streams

The network with its failures. A connection is refused unless somebody listens, and may fail in any case. An `accept`
waits for a connection. A `send` may fail, and kills its process by a signal when the other end is gone. A `recv` takes
any part of the bytes that have been sent and not received, waits when there are none, and ends or fails when the
other end is gone. The calm steps are those in which no call fails and every `recv` takes one send whole.

Left out: a `send` that takes a part of its bytes, an `accept` that fails without a connection, a `recv` that fails
although the other end is there, and connections that lead elsewhere than the topology says.
-/

namespace CLang

open Prog Relation

variable {Out Party α : Type}

namespace SockLog

/-- The descriptors that a host has closed or shut down. -/
def closed (log : SockLog Out) : List Fd :=
  log.filterMap fun e => match e with
    | .call (.close fd) _ => some fd
    | .call (.shutdown fd) _ => some fd
    | _ => none

/-- The bytes that a host has sent on a descriptor. -/
def sent (fd : Fd) (log : SockLog Out) : List UInt8 := (sentOn fd log).flatten

def received (fd : Fd) (log : SockLog Out) : List UInt8 := (receivedOn fd log).flatten

variable {log log' : SockLog Out}

lemma sent_mono (fd : Fd) (h : log <+: log') : sent fd log <+: sent fd log' := (sentOn_mono fd h).flatten

lemma received_append (fd : Fd) (log log' : SockLog Out) :
    received fd (log ++ log') = received fd log ++ received fd log' := by
  rw [received, received, received, receivedOn, List.filterMap_append, List.flatten_append]
  rfl

lemma accepted_append (log log' : SockLog Out) : accepted (log ++ log') = accepted log ++ accepted log' :=
  List.filterMap_append

lemma opened_append (log log' : SockLog Out) : opened (log ++ log') = opened log ++ opened log' :=
  List.filterMap_append

lemma connected_append (log log' : SockLog Out) : connected (log ++ log') = connected log ++ connected log' :=
  List.filterMap_append

end SockLog

open SockLog

/-- The process runs and accepts connections to a port. -/
def Process.Accepts (x : Process (@SysReply Out) α) (port : UInt16) : Prop :=
  ¬ x.Ended ∧ ∃ fd ∈ listening x.log, (fd, port) ∈ bound x.log ∧ fd ∉ closed x.log

namespace Topology

variable [DecidableEq Party] (topology : Topology Party)

/-- The host at the other end of a connection. -/
def peer (l : Party → SockLog Out) (i : Party) (fd : Fd) : Option Party :=
  if fd ∈ accepted (l i) then some (topology.caller i) else topology.callee i (l i) fd

/-- The process at the other end of a connection has ended or has closed it. -/
def HungUp (s : Network Party (@SysReply Out) α) (i : Party) (fd : Fd) : Prop :=
  ∃ j ∈ topology.peer s.logs i fd,
    (s j).Ended ∨ ∃ fd', topology.remote s.logs i fd = some (j, fd') ∧ fd' ∈ closed (s j).log

/-- What has been sent to a descriptor and not received yet. -/
def unread (l : Party → SockLog Out) (i : Party) (fd : Fd) : List UInt8 :=
  match topology.remote l i fd with
  | none => []
  | some r => (sent r.2 (l r.1)).drop (received fd (l i)).length

/-- Somebody has connected to the host and has not been accepted yet. -/
def Called (l : Party → SockLog Out) (i : Party) : Prop :=
  (accepted (l i)).length < (topology.dialed (topology.caller i) i (l (topology.caller i))).length

/-- The replies to a call of host `i`. -/
def Replies (s : Network Party (@SysReply Out) α) (i : Party) : (c : SysCall Out) → SysReply c → Prop
  | .socket, r => ∀ fd ∈ r, fd = 3 + (opened (s i).log).length
  | .setsockopt _, _ => True
  | .bind _ _, _ => True
  | .listen _, _ => True
  | .accept _, r => topology.Called s.logs i ∧ ∀ fd ∈ r, fd = 3 + (opened (s i).log).length
  | .inetPton text, r => r = CLang.inetPton text
  | .connect fd address port, r => r = true → fd ∈ opened (s i).log ∧ fd ∉ accepted (s i).log ∧
      fd ∉ (connected (s i).log).map Prod.fst ∧
      ∃ j, topology.route i address port = some j ∧ (s j).Accepts port
  | .send _ _, _ => True
  | .recv fd _, none => topology.peer s.logs i fd = none ∨ topology.HungUp s i fd
  | .recv fd _, some bytes =>
      if bytes.val = [] then topology.unread s.logs i fd = [] ∧ topology.HungUp s i fd
      else bytes.val <+: topology.unread s.logs i fd
  | .close _, _ => True
  | .shutdown _, _ => True
  | .print _, _ => True

def network : Environment Party (@SysReply Out) α where
  replies := topology.Replies
  kills s i c := match c with
    | .send fd _ => topology.HungUp s i fd
    | _ => False

/-- The call succeeds, and a `recv` takes the next send whole. -/
def Undisturbed (l : Party → SockLog Out) (i : Party) (c : SysCall Out) (r : SysReply c) : Prop :=
  succeeds c r = true ∧ match c, r with
    | .recv fd _, some bytes => topology.incoming l i fd = some bytes.val
    | _, _ => True

/-- The network as long as nothing fails. -/
def calm : Environment Party (@SysReply Out) α where
  replies s i c r := topology.Replies s i c r ∧ topology.Undisturbed s.logs i c r
  kills _ _ _ := False

variable {topology} {s t : Network Party (@SysReply Out) α} {i : Party}

lemma acts_of_calm {x : Process (@SysReply Out) α} (h : topology.calm.Acts s i x) : topology.network.Acts s i x := by
  cases h with
  | stray hprog => exact .stray hprog
  | call hprog hr => exact .call hprog hr.1
  | killed hprog hkill => exact hkill.elim

lemma moves_of_calm (h : topology.calm.Moves s t) : topology.network.Moves s t := by
  obtain ⟨i, x, hx, rfl⟩ := h
  exact ⟨i, x, acts_of_calm hx, rfl⟩

lemma network_of_calm (h : ReflTransGen topology.calm.Moves s t) : ReflTransGen topology.network.Moves s t :=
  ReflTransGen.mono (fun _ _ => moves_of_calm) _ _ h

/-- Descriptors are numbered in the order in which they are opened, a host accepts the connections that were made, and
what it has received on a connection was sent at the other end. -/
structure Consistent (topology : Topology Party) (l : Party → SockLog Out) : Prop where
  numbered : ∀ i, opened (l i) = List.range' 3 (opened (l i)).length
  separate : ∀ i, ∀ c ∈ connected (l i), c.1 ∈ opened (l i) ∧ c.1 ∉ accepted (l i)
  called : ∀ i, (accepted (l i)).length ≤
    (topology.dialed (topology.caller i) i (l (topology.caller i))).length
  delivered : ∀ i fd, received fd (l i) ≠ [] →
    ∃ r, topology.remote l i fd = some r ∧ received fd (l i) <+: sent r.2 (l r.1)

variable {l l' : Party → SockLog Out} {fd : Fd}

lemma mem_connected_of_dialed {j : Party} {log : SockLog Out} (h : fd ∈ topology.dialed i j log) :
    fd ∈ (connected log).map Prod.fst := by
  obtain ⟨c, hc, hfd⟩ := List.mem_filterMap.mp h
  obtain ⟨-, hfd⟩ := Option.ite_none_right_eq_some.mp hfd
  exact List.mem_map.mpr ⟨c, hc, Option.some.inj hfd⟩

lemma callee_eq_some {j : Party} {log : SockLog Out} (h : topology.callee i log fd = some j) :
    topology.caller j = i ∧ fd ∈ topology.dialed i j log := by
  unfold callee at h
  split at h
  · cases h
  · rename_i c hfind
    obtain ⟨hroute, hcaller⟩ := Option.filter_eq_some_iff.mp h
    have hfd : c.1 = fd := by simpa using List.find?_some hfind
    refine ⟨of_decide_eq_true hcaller, List.mem_filterMap.mpr ⟨c, List.mem_of_find?_eq_some hfind, ?_⟩⟩
    rw [if_pos hroute, hfd]

lemma callee_mono {j : Party} {log log' : SockLog Out} (h : log <+: log') (hj : topology.callee i log fd = some j) :
    topology.callee i log' fd = some j := by
  obtain ⟨rest, hrest⟩ : connected log <+: connected log' := h.filterMap _
  unfold callee at hj ⊢
  cases hfind : (connected log).find? fun c => c.1 = fd with
  | none =>
    rw [hfind] at hj
    cases hj
  | some c =>
    rw [hfind] at hj
    rw [← hrest, List.find?_append, hfind, Option.some_or]
    exact hj

/-- A connection keeps its ends. -/
lemma remote_mono {r : Party × Fd} (hseparate : ∀ c ∈ connected (l' i), c.1 ∉ accepted (l' i))
    (hle : ∀ j, l j <+: l' j) (h : topology.remote l i fd = some r) : topology.remote l' i fd = some r := by
  unfold remote at h ⊢
  by_cases hmem : fd ∈ accepted (l i)
  · obtain ⟨rest, hrest⟩ := accepted_mono (hle i)
    rw [if_pos hmem] at h
    rw [if_pos ((accepted_mono (hle i)).subset hmem), ← hrest, List.idxOf_append_of_mem hmem]
    obtain ⟨fd', hfd, rfl⟩ := Option.map_eq_some_iff.mp h
    rw [getElem?_mono (dialed_mono topology _ i hle) hfd]
    rfl
  · rw [if_neg hmem] at h
    obtain ⟨j, hj, h⟩ := Option.bind_eq_some_iff.mp h
    obtain ⟨fd', hfd, rfl⟩ := Option.map_eq_some_iff.mp h
    have hj' := callee_mono (hle i) hj
    have hdialed := (callee_eq_some hj).2
    obtain ⟨c, hc, rfl⟩ := List.mem_map.mp (mem_connected_of_dialed hdialed)
    have hc' : c ∈ connected (l' i) := ((hle i).filterMap _).subset hc
    obtain ⟨rest, hrest⟩ := dialed_mono topology i j hle
    rw [if_neg (hseparate c hc'), hj', Option.bind_some, ← hrest, List.idxOf_append_of_mem hdialed,
      getElem?_mono (accepted_mono (hle j)) hfd]
    rfl

variable {e : SockEvent Out}

omit [DecidableEq Party] in
lemma fresh_of_numbered (h : opened (l i) = List.range' 3 (opened (l i)).length) :
    3 + (opened (l i)).length ∉ opened (l i) := by
  rw [h, List.mem_range'_1, List.length_range']
  omega

lemma opened_event (he : ∀ c r, e = .call c r → topology.Replies s i c r) :
    opened [e] = [] ∨ opened [e] = [3 + (opened (s i).log).length] := by
  cases e with
  | stray x => exact .inl rfl
  | call c r =>
    have hr := he c r rfl
    cases c with
    | socket =>
      cases r with
      | none => exact .inl rfl
      | some fd => exact .inr (congrArg (fun fd => [fd]) (hr fd rfl))
    | accept listener =>
      cases r with
      | none => exact .inl rfl
      | some fd => exact .inr (congrArg (fun fd => [fd]) (hr.2 fd rfl))
    | _ => exact .inl rfl

lemma accepted_event (he : ∀ c r, e = .call c r → topology.Replies s i c r) :
    accepted [e] = [] ∨ accepted [e] = [3 + (opened (s i).log).length] ∧ topology.Called s.logs i := by
  cases e with
  | stray x => exact .inl rfl
  | call c r =>
    have hr := he c r rfl
    cases c with
    | accept listener =>
      cases r with
      | none => exact .inl rfl
      | some fd => exact .inr ⟨congrArg (fun fd => [fd]) (hr.2 fd rfl), hr.1⟩
    | _ => exact .inl rfl

lemma connected_event (he : ∀ c r, e = .call c r → topology.Replies s i c r) :
    ∀ c ∈ connected [e], c.1 ∈ opened (s i).log ∧ c.1 ∉ accepted (s i).log ∧ accepted [e] = [] := by
  cases e with
  | stray x => exact fun c hc => absurd hc List.not_mem_nil
  | call c r =>
    have hr := he c r rfl
    cases c with
    | connect fd address port =>
      cases r with
      | false => exact fun c hc => absurd hc List.not_mem_nil
      | true =>
        intro c hc
        rw [show connected [.call (.connect fd address port) true] = [(fd, address, port)] from rfl,
          List.mem_singleton] at hc
        rw [hc]
        exact ⟨(hr rfl).1, (hr rfl).2.1, rfl⟩
    | _ => exact fun c hc => absurd hc List.not_mem_nil

lemma received_recv (fd fd' : Fd) {n : Nat} (bytes : Received n) :
    received fd ([.call (.recv fd' n) (some bytes)] : SockLog Out) = if fd' = fd then bytes.val else [] := by
  by_cases hfd : fd' = fd <;> simp [received, receivedOn, hfd]

lemma received_event (he : ∀ c r, e = .call c r → topology.Replies s i c r) (fd : Fd) :
    received fd [e] <+: topology.unread s.logs i fd := by
  cases e with
  | stray x => exact List.nil_prefix
  | call c r =>
    have hr := he c r rfl
    cases c with
    | recv fd' n =>
      cases r with
      | none => exact List.nil_prefix
      | some bytes =>
        rw [received_recv]
        by_cases hfd : fd' = fd
        · subst hfd
          rw [if_pos rfl]
          by_cases hempty : bytes.val = []
          · rw [hempty]
            exact List.nil_prefix
          · rw [Replies, if_neg hempty] at hr
            exact hr
        · rw [if_neg hfd]
          exact List.nil_prefix
    | _ => exact List.nil_prefix

/-- What is received next follows what has been received before. -/
lemma received_prefix_of_unread {x : List UInt8} (h : Consistent topology l) (hne : received fd (l i) ++ x ≠ [])
    (hx : x <+: topology.unread l i fd) :
    ∃ r, topology.remote l i fd = some r ∧ received fd (l i) ++ x <+: sent r.2 (l r.1) := by
  by_cases hempty : x = []
  · rw [hempty, List.append_nil] at hne ⊢
    exact h.delivered i fd hne
  unfold unread at hx
  cases hremote : topology.remote l i fd with
  | none =>
    rw [hremote] at hx
    exact absurd (List.prefix_nil.mp hx) hempty
  | some r =>
    rw [hremote] at hx
    refine ⟨r, rfl, ?_⟩
    have hbefore : received fd (l i) <+: sent r.2 (l r.1) := by
      by_cases hnone : received fd (l i) = []
      · rw [hnone]
        exact List.nil_prefix
      · obtain ⟨r', hr', hprefix⟩ := h.delivered i fd hnone
        rw [hremote] at hr'
        rw [Option.some.inj hr']
        exact hprefix
    obtain ⟨rest, hrest⟩ := hbefore
    dsimp only at hx
    rw [← hrest, List.drop_left] at hx
    rw [← hrest, List.prefix_append_right_inj]
    exact hx

/-- A step of the network keeps the logs consistent. -/
lemma Consistent.update (h : Consistent topology s.logs)
    (he : ∀ c r, e = .call c r → topology.Replies s i c r) :
    Consistent topology (Function.update s.logs i (s.logs i ++ [e])) := by
  let l' := Function.update s.logs i (s.logs i ++ [e])
  have hself : l' i = s.logs i ++ [e] := Function.update_self ..
  have hother : ∀ j, j ≠ i → l' j = s.logs j := fun j hj => Function.update_of_ne hj _ _
  have hle : ∀ j, s.logs j <+: l' j := by
    intro j
    by_cases hj : j = i
    · rw [hj, hself]
      exact List.prefix_append _ _
    · rw [hother j hj]
  have hseparate : ∀ j, ∀ c ∈ connected (l' j), c.1 ∈ opened (l' j) ∧ c.1 ∉ accepted (l' j) := by
    intro j c hc
    by_cases hj : j = i
    · subst hj
      rw [hself] at hc ⊢
      rw [connected_append, List.mem_append] at hc
      rw [opened_append, accepted_append, List.mem_append, List.mem_append, not_or]
      rcases hc with hc | hc
      · obtain ⟨hopened, haccepted⟩ := h.separate j c hc
        refine ⟨.inl hopened, haccepted, ?_⟩
        rcases accepted_event he with hnone | ⟨hfresh, -⟩
        · rw [hnone]
          exact List.not_mem_nil
        · rw [hfresh, List.mem_singleton]
          intro hc
          have hnew := fresh_of_numbered (h.numbered j)
          rw [show s.logs j = (s j).log from rfl, ← hc] at hnew
          exact hnew hopened
      · obtain ⟨hopened, haccepted, hnone⟩ := connected_event he c hc
        rw [hnone]
        exact ⟨.inl hopened, haccepted, List.not_mem_nil⟩
    · rw [hother j hj] at hc ⊢
      exact h.separate j c hc
  refine ⟨fun j => ?_, hseparate, fun j => ?_, fun j fd hne => ?_⟩
  · by_cases hj : j = i
    · subst hj
      change opened (l' j) = List.range' 3 (opened (l' j)).length
      rw [hself, opened_append]
      rcases opened_event he with hnone | hnext
      · rw [hnone, List.append_nil]
        exact h.numbered j
      · rw [hnext, List.length_append, List.length_singleton, List.range'_1_concat, ← h.numbered j]
        rfl
    · change opened (l' j) = List.range' 3 (opened (l' j)).length
      rw [hother j hj]
      exact h.numbered j
  · have hmore := (dialed_mono topology (topology.caller j) j hle).length_le
    change (accepted (l' j)).length ≤ _
    by_cases hj : j = i
    · subst hj
      rw [hself, accepted_append, List.length_append]
      rcases accepted_event he with hnone | ⟨hfresh, hcalled⟩
      · rw [hnone, List.length_nil]
        exact (h.called j).trans hmore
      · rw [hfresh, List.length_singleton]
        exact Nat.lt_of_lt_of_le hcalled hmore
    · rw [hother j hj]
      exact (h.called j).trans hmore
  · obtain ⟨x, hx, hreceived⟩ : ∃ x, x <+: topology.unread s.logs j fd ∧
        received fd (l' j) = received fd (s.logs j) ++ x := by
      by_cases hj : j = i
      · subst hj
        exact ⟨_, received_event he fd, by rw [hself, received_append]⟩
      · exact ⟨[], List.nil_prefix, by rw [hother j hj, List.append_nil]⟩
    change received fd (l' j) ≠ [] at hne
    change ∃ r, topology.remote l' j fd = some r ∧ received fd (l' j) <+: sent r.2 (l' r.1)
    rw [hreceived] at hne ⊢
    obtain ⟨r, hremote, hprefix⟩ := received_prefix_of_unread h hne hx
    exact ⟨r, remote_mono (fun c hc => (hseparate j c hc).2) hle hremote, hprefix.trans (sent_mono r.2 (hle r.1))⟩

lemma consistent_start (hs : ∀ i, (s i).log = []) : Consistent topology s.logs := by
  have hlogs : s.logs = fun _ => [] := funext hs
  rw [hlogs]
  exact ⟨fun _ => rfl, fun _ c hc => absurd hc List.not_mem_nil, fun _ => Nat.zero_le _, fun _ _ h => absurd rfl h⟩

/-- In every state that the network reaches the logs are consistent. -/
theorem consistent_of_reaches (hs : ∀ i, (s i).log = []) (h : ReflTransGen topology.network.Moves s t) :
    Consistent topology t.logs := by
  induction h with
  | refl => exact consistent_start hs
  | tail _ hstep ih =>
    rcases hstep.event with hlogs | ⟨i, e, hlogs, he⟩
    · rw [hlogs]
      exact ih
    · rw [hlogs]
      exact ih.update he

/-- What a host has received it has received from its caller on a connection that it has accepted, or from the host
that it has called. -/
theorem Consistent.received_cases (h : Consistent topology l) (hne : received fd (l i) ≠ []) :
    (fd ∈ accepted (l i) ∧ ∃ fd' ∈ topology.dialed (topology.caller i) i (l (topology.caller i)),
      received fd (l i) <+: sent fd' (l (topology.caller i))) ∨
    fd ∈ (connected (l i)).map Prod.fst ∧ ∃ j, topology.caller j = i ∧ ∃ fd' ∈ accepted (l j),
      received fd (l i) <+: sent fd' (l j) := by
  obtain ⟨r, hremote, hprefix⟩ := h.delivered i fd hne
  unfold remote at hremote
  by_cases hmem : fd ∈ accepted (l i)
  · rw [if_pos hmem] at hremote
    obtain ⟨fd', hfd, rfl⟩ := Option.map_eq_some_iff.mp hremote
    exact .inl ⟨hmem, fd', List.mem_of_getElem? hfd, hprefix⟩
  · rw [if_neg hmem] at hremote
    obtain ⟨j, hj, hremote⟩ := Option.bind_eq_some_iff.mp hremote
    obtain ⟨fd', hfd, rfl⟩ := Option.map_eq_some_iff.mp hremote
    obtain ⟨hcaller, hdialed⟩ := callee_eq_some hj
    exact .inr ⟨mem_connected_of_dialed hdialed, j, hcaller, fd', List.mem_of_getElem? hfd, hprefix⟩

/-- A host that has received nothing on a connection that it has accepted can still receive all that was sent. -/
lemma Consistent.unread_of_accepted (h : Consistent topology l) (hfd : fd ∈ accepted (l i))
    (hnone : received fd (l i) = []) : ∃ fd' ∈ topology.dialed (topology.caller i) i (l (topology.caller i)),
      topology.unread l i fd = sent fd' (l (topology.caller i)) := by
  have hlt : (accepted (l i)).idxOf fd < (topology.dialed (topology.caller i) i (l (topology.caller i))).length :=
    Nat.lt_of_lt_of_le (List.idxOf_lt_length_of_mem hfd) (h.called i)
  refine ⟨_, List.getElem_mem hlt, ?_⟩
  rw [unread, remote, if_pos hfd, List.getElem?_eq_getElem hlt, Option.map_some]
  dsimp only
  rw [hnone, List.length_nil, List.drop_zero]

/-- A host that has accepted nothing has been called when another one is connected to it. -/
lemma called_of_peer {j : Party} (hpeer : topology.peer l i fd = some j) (hfd : fd ∉ accepted (l i))
    (hnone : accepted (l j) = []) : topology.Called l j := by
  rw [peer, if_neg hfd] at hpeer
  obtain ⟨hcaller, hdialed⟩ := callee_eq_some hpeer
  rw [Called, hnone, hcaller]
  exact List.length_pos_of_mem hdialed

/-- The host waits in `accept` and nobody has called it. -/
def WaitsForCall (topology : Topology Party) (s : Network Party (@SysReply Out) α) (i : Party) : Prop :=
  ∃ fd k, (s i).prog = .call (.accept fd) k ∧ ¬ topology.Called s.logs i

/-- The host waits in `recv`: it has received all that was sent, and the other end is there. -/
def WaitsForBytes (topology : Topology Party) (s : Network Party (@SysReply Out) α) (i : Party) (fd : Fd) (n : Nat) :
    Prop :=
  (∃ k, (s i).prog = .call (.recv fd n) k) ∧ (0 < n → topology.unread s.logs i fd = []) ∧
    (∃ j, topology.peer s.logs i fd = some j) ∧ ¬ topology.HungUp s i fd

lemma WaitsForCall.not_acts (h : topology.WaitsForCall s i) (x : Process (@SysReply Out) α) :
    ¬ topology.network.Acts s i x := by
  obtain ⟨fd, k, hprog, huncalled⟩ := h
  rintro (hstray | ⟨hcall, hr⟩ | ⟨hcall, hkill⟩)
  · cases hprog.symm.trans hstray
  · cases hprog.symm.trans hcall
    exact huncalled hr.1
  · cases hprog.symm.trans hcall
    exact hkill

lemma WaitsForBytes.not_acts {n : Nat} (h : topology.WaitsForBytes s i fd n) (x : Process (@SysReply Out) α) :
    ¬ topology.network.Acts s i x := by
  obtain ⟨⟨k, hprog⟩, hnothing, ⟨j, hpeer⟩, hhere⟩ := h
  rintro (hstray | @⟨c, k', r, hcall, hr⟩ | ⟨hcall, hkill⟩)
  · cases hprog.symm.trans hstray
  · cases hprog.symm.trans hcall
    cases r with
    | none =>
      rcases hr with hnone | hhung
      · cases hpeer.symm.trans hnone
      · exact hhere hhung
    | some bytes =>
      change if bytes.val = [] then _ else _ at hr
      by_cases hempty : bytes.val = []
      · rw [if_pos hempty] at hr
        exact hhere hr.2
      · rw [if_neg hempty] at hr
        have hpos : 0 < n := Nat.lt_of_lt_of_le (List.length_pos_of_ne_nil hempty) bytes.property
        rw [hnothing hpos] at hr
        exact hempty (List.prefix_nil.mp hr)
  · cases hprog.symm.trans hcall
    exact hkill

/-- When the network cannot go on, every process has ended or waits for another one. -/
theorem waits_of_stuck (h : ∀ t, ¬ topology.network.Moves s t) (i : Party) :
    (s i).Ended ∨ topology.WaitsForCall s i ∨ ∃ fd n, topology.WaitsForBytes s i fd n := by
  have hstuck (x : Process (@SysReply Out) α) (hx : topology.network.Acts s i x) : False := h _ ⟨i, x, hx, rfl⟩
  cases hprog : (s i).prog with
  | ret a => exact .inl (.inl ⟨a, hprog⟩)
  | stop e => exact .inl (.inr ⟨e, hprog⟩)
  | stray f p => exact (hstuck _ (.stray hprog)).elim
  | call c k =>
    have hanswer (r : SysReply c) (hr : topology.Replies s i c r) : False := hstuck _ (.call hprog hr)
    cases c with
    | socket => exact (hanswer none fun fd hfd => nomatch hfd).elim
    | setsockopt fd => exact (hanswer false trivial).elim
    | bind fd port => exact (hanswer false trivial).elim
    | listen fd => exact (hanswer false trivial).elim
    | accept fd =>
      exact .inr (.inl ⟨fd, k, hprog, fun hcalled => hanswer none ⟨hcalled, fun fd hfd => nomatch hfd⟩⟩)
    | inetPton text => exact (hanswer _ rfl).elim
    | connect fd address port => exact (hanswer false fun htrue => nomatch htrue).elim
    | send fd bytes => exact (hanswer false trivial).elim
    | recv fd n =>
      refine .inr (.inr ⟨fd, n, ⟨k, hprog⟩, fun hn => ?_, ?_, fun hhung => hanswer none (.inr hhung)⟩)
      · by_contra hne
        let bytes : Received n := ⟨(topology.unread s.logs i fd).take n, List.length_take_le ..⟩
        refine hanswer (some bytes) ?_
        have hsome : bytes.val ≠ [] := by
          intro hempty
          rcases List.take_eq_nil_iff.mp hempty with hzero | hnone
          · exact absurd hzero (Nat.ne_of_gt hn)
          · exact hne hnone
        rw [Replies, if_neg hsome]
        exact List.take_prefix _ _
      · exact Option.ne_none_iff_exists'.mp fun hnone => hanswer none (.inl hnone)
    | close fd => exact (hanswer () trivial).elim
    | shutdown fd => exact (hanswer () trivial).elim
    | print out => exact (hanswer () trivial).elim

/-- The network cannot go on exactly when every process has ended or waits for another one. -/
theorem stuck_iff_waits : (∀ t, ¬ topology.network.Moves s t) ↔
    ∀ i, (s i).Ended ∨ topology.WaitsForCall s i ∨ ∃ fd n, topology.WaitsForBytes s i fd n := by
  refine ⟨waits_of_stuck, ?_⟩
  rintro h t ⟨i, x, hx, -⟩
  rcases h i with hend | hcall | ⟨fd, n, hbytes⟩
  · exact Environment.not_acts_of_ended hend x hx
  · exact hcall.not_acts x hx
  · exact hbytes.not_acts x hx

end Topology

end CLang
