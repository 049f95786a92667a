import SimpleVpn.Lib.Refinement
import SimpleVpn.Proofs.Runs

/-!
# The exchange as a relay

Seen from outside, an exchange is a relay of four messages over four legs, one after the other. The three
programs refine it in every order of their steps: each step carries the relay on by one transfer or cannot be
seen.
-/

namespace SimpleVpn

open CLang

inductive Leg where
  | toServer
  | toDestination
  | fromDestination
  | toClient
  deriving DecidableEq

/-- A message is sent at one end of a leg and received at the other end. -/
inductive Transfer where
  | sent (leg : Leg) (bytes : List UInt8)
  | received (leg : Leg) (bytes : List UInt8)
  deriving DecidableEq

/-- What has happened at both ends of the four legs. -/
def transfers (logs : Logs Host (@SysReply Output)) : List (List Transfer) :=
  [(SockLog.sentOn 3 (logs .client)).map (.sent .toServer),
    (SockLog.receivedOn 4 (logs .server)).map (.received .toServer),
    (SockLog.sentOn 5 (logs .server)).map (.sent .toDestination),
    (SockLog.receivedOn 4 (logs .destination)).map (.received .toDestination),
    (SockLog.sentOn 4 (logs .destination)).map (.sent .fromDestination),
    (SockLog.receivedOn 5 (logs .server)).map (.received .fromDestination),
    (SockLog.sentOn 4 (logs .server)).map (.sent .toClient),
    (SockLog.receivedOn 3 (logs .client)).map (.received .toClient)]

/-- How far the relay has got. -/
def relayed (s : Network Host (@SysReply Output) Int) : List Transfer := (transfers s.logs).flatten

/-- What the relay carries over each leg. -/
def messages (order : ByteOrder) (k : Key) (c s d : UInt32) {request response : CString}
    (hreq : request.length ≤ 127) (hresp : response.length ≤ 122) : List (Leg × List UInt8) :=
  [(.toServer, (requestBytes order k c d hreq).val),
    (.toDestination, (forwardedBytes order k c s d hreq).val),
    (.fromDestination, (answerBytes order s d hresp).val),
    (.toClient, (replyBytes order k c s d hresp).val)]

/-- Each message is sent and received before the next one is sent. -/
def journey (order : ByteOrder) (k : Key) (c s d : UInt32) {request response : CString}
    (hreq : request.length ≤ 127) (hresp : response.length ≤ 122) : List Transfer :=
  (messages order k c s d hreq hresp).flatMap fun m => [.sent m.1 m.2, .received m.1 m.2]

lemma transfers_mono {l l' : Logs Host (@SysReply Output)} (h : ∀ i, l i <+: l' i) :
    List.Forall₂ (· <+: ·) (transfers l) (transfers l') := by
  have hsent (fd : Fd) (i : Host) := SockLog.sentOn_mono fd (h i)
  have hreceived (fd : Fd) (i : Host) := SockLog.receivedOn_mono fd (h i)
  refine .cons ((hsent 3 .client).map _) (.cons ((hreceived 4 .server).map _) (.cons ((hsent 5 .server).map _)
    (.cons ((hreceived 4 .destination).map _) (.cons ((hsent 4 .destination).map _)
      (.cons ((hreceived 5 .server).map _) (.cons ((hsent 4 .server).map _)
        (.cons ((hreceived 3 .client).map _) .nil)))))))

lemma InOrder.transfers {l : Logs Host (@SysReply Output)} (h : InOrder l) :
    (transfers l).Pairwise fun p q => q.length ≤ p.length := by
  have h1 := h.toServer.length_le
  have h2 := h.forwarded
  have h3 := h.toDestination.length_le
  have h4 := h.answered
  have h5 := h.fromDestination.length_le
  have h6 := h.replied
  have h7 := h.toClient.length_le
  simp only [SimpleVpn.transfers, List.pairwise_cons, List.mem_cons, List.not_mem_nil, or_false, forall_eq_or_imp,
    forall_eq, List.length_map, List.Pairwise.nil, IsEmpty.forall_iff, implies_true, and_true]
  omega

lemma length_relayed (s : Network Host (@SysReply Output) Int) : (relayed s).length =
    SockLog.passed 3 (s.logs .client) + (SockLog.passed 4 (s.logs .server) + SockLog.passed 5 (s.logs .server)) +
      SockLog.passed 4 (s.logs .destination) := by
  simp only [relayed, transfers, List.flatten_cons, List.flatten_nil, List.append_nil, List.length_append,
    List.length_map, SockLog.passed]
  omega

section Relay

variable (order : ByteOrder) (k : Key) (c s d : UInt32) {request response : CString}
  (hreq : request.length ≤ 127) (hresp : response.length ≤ 122)

/-- At the end the relay has gone the whole way. -/
lemma transfers_end (view : PacketView) : transfers (logsOf (clientLog order k c s d hreq hresp view)
    (serverLog order k c s d hreq hresp) (destLog order k c s d hreq hresp)) =
      (journey order k c s d hreq hresp).map fun e => [e] := by
  rw [transfers]
  change [_, _, _, _, _, _, (SockLog.sentOn 4 (serverLog order k c s d hreq hresp)).map _, _] = _
  rw [sentOn_serverLog]
  rfl

variable {t u : Network Host (@SysReply Output) Int}

/-- A step carries at most one message over the end of a leg. -/
lemma length_relayed_step (h : (calmNetwork s d).Moves t u) :
    (relayed t).length ≤ (relayed u).length ∧ (relayed u).length ≤ (relayed t).length + 1 := by
  obtain ⟨i, e, hlogs, -⟩ := (Topology.step_of_calm h).event
  have h3 := SockLog.passed_event_le e (show (3 : Fd) ≠ 4 by decide)
  have h45 := SockLog.passed_event_le e (show (4 : Fd) ≠ 5 by decide)
  rw [length_relayed, length_relayed, hlogs]
  cases i with
  | client =>
    simp only [Function.update_self, ne_eq, reduceCtorEq, not_false_eq_true, Function.update_of_ne,
      SockLog.passed_append]
    omega
  | server =>
    simp only [Function.update_self, ne_eq, reduceCtorEq, not_false_eq_true, Function.update_of_ne,
      SockLog.passed_append]
    omega
  | destination =>
    simp only [Function.update_self, ne_eq, reduceCtorEq, not_false_eq_true, Function.update_of_ne,
      SockLog.passed_append]
    omega

lemma relayed_prefix_journey
    (ht : Relation.ReflTransGen (calmNetwork s d).Moves (exchange order k c s d request response) t) :
    relayed t <+: journey order k c s d hreq hresp := by
  obtain ⟨view, hlog⟩ := log_prefix order k c s d hreq hresp ht
  have hparts := transfers_mono hlog
  rw [transfers_end] at hparts
  exact flatten_prefix_of_forall₂ hparts (inOrder_of_calm order k c s d hreq hresp ht).transfers

lemma relayed_start : relayed (exchange order k c s d request response) = [] := rfl

lemma refines_relay : Refines (calmNetwork s d).Moves (Along (journey order k c s d hreq hresp)) relayed
    (exchange order k c s d request response) := by
  intro t u ht hstep
  obtain ⟨hle, hlt⟩ := length_relayed_step s d hstep
  exact eq_or_along (relayed_prefix_journey order k c s d hreq hresp ht)
    (relayed_prefix_journey order k c s d hreq hresp (ht.tail hstep)) hle hlt

/-- As long as nothing fails: in every order of the steps, each step of the three programs is a step of the relay or
cannot be seen there. The reachable states are seen at all stages of the relay, and at no other one, and when all programs have
returned the relay has gone the whole way. -/
theorem exchange_refines :
    let start := exchange order k c s d request response
    Refines (calmNetwork s d).Moves (Along (journey order k c s d hreq hresp)) relayed start ∧
      (∀ p, (∃ t, Relation.ReflTransGen (calmNetwork s d).Moves start t ∧ relayed t = p) ↔
        p <+: journey order k c s d hreq hresp) ∧
      ∀ t, Relation.ReflTransGen (calmNetwork s d).Moves start t → (∀ i, (t i).prog = .ret 0) →
        relayed t = journey order k c s d hreq hresp := by
  intro start
  have hrefines := refines_relay order k c s d hreq hresp
  have hstart : relayed start = [] := relayed_start order k c s d
  have hwhole {s' : Network Host (@SysReply Output) Int} {view : PacketView}
      (hlogs : s'.logs = logsOf (clientLog order k c s d hreq hresp view) (serverLog order k c s d hreq hresp)
        (destLog order k c s d hreq hresp)) : relayed s' = journey order k c s d hreq hresp := by
    rw [relayed, hlogs, transfers_end]
    exact List.flatMap_singleton' _
  refine ⟨hrefines, fun p => ⟨?_, fun hp => ?_⟩, fun t ht hret => ?_⟩
  · rintro ⟨t, ht, rfl⟩
    exact hrefines.view_prefix_journey hstart ht
  · obtain ⟨view, f, -, hlogs, hf⟩ := endsCalmly_exchange order k c s d hreq hresp
    rw [← hwhole hlogs] at hp
    exact hrefines.exists_view hstart (hf.calm_iff_reaches.mpr hf.reaches) hp
  · obtain ⟨view, hlogs⟩ := logs_of_returned order k c s d hreq hresp ht hret
    exact hwhole hlogs

end Relay

/-- In some order of the steps the request has been sent before anything else has happened on the way. -/
theorem exchange_refines_request :
    ∃ t, Relation.ReflTransGen (calmNetwork 0x0A000002 0x0A000003).Moves
        (exchange .little key 0x0A000001 0x0A000002 0x0A000003 clientPayload responseMsg) t ∧
      relayed t = [.sent .toServer (requestBytes .little key 0x0A000001 0x0A000003
        (show clientPayload.length ≤ 127 by decide)).val] :=
  ((exchange_refines .little key 0x0A000001 0x0A000002 0x0A000003 (show clientPayload.length ≤ 127 by decide)
    (show responseMsg.length ≤ 122 by decide)).2.1 _).mpr ⟨_, rfl⟩

end SimpleVpn
