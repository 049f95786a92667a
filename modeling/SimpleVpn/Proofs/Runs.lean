import SimpleVpn.Lib.CalmRuns
import SimpleVpn.Proofs.Exchange
import SimpleVpn.Proofs.Rewrite

/-!
# All runs of an exchange

What the three hosts have done at the end of an exchange, and what follows for every state on the way
there.
-/

namespace SimpleVpn

open CLang

section Ends

variable (order : ByteOrder) (k : Key) (c s d : UInt32) {request response : CString}
  (hreq : request.length ≤ 127) (hresp : response.length ≤ 122)

/-- What the client sends. -/
def requestBytes : Received pktSize :=
  ⟨wire k request (header order (ipAddrText c) (ipAddrText d) ipProtocolTcp tcpFlagSyn),
    length_wire_le k request (length_header ..) hreq⟩

/-- What the destination sends. -/
def answerBytes : Received pktSize :=
  ⟨(answerPacket order s d hresp).inner.take (46 + response.length), by
    rw [List.length_take, Packet.length_inner]
    exact (Nat.min_le_right _ _).trans (by decide)⟩

/-- What the server sends to the client. -/
def replyBytes : Received pktSize :=
  ⟨wire k response (((answerPacket order s d hresp).returned order (ipAddrText c)).bytes.take 46),
    length_wire_le k response (length_take_head (Packet.length_bytes _)) (hresp.trans (by decide))⟩

/-- What the server sends to the destination. -/
def forwardedBytes : Received destPktSize :=
  ⟨(forwardedPacket order k c s d hreq).inner, (Packet.length_inner _).le⟩

def clientLog (view : PacketView) : List VpnEvent :=
  requestEvents (ipAddrText s) (networkOctets s) view (requestBytes order k c d hreq).val ++
    responseEvents (replyBytes order k c s d hresp) (viewOf order (replyPacket order k c s d hresp)
      (some (GreHdr.ofBytes order (replyPacket order k c s d hresp).gre)))

def serverLog : List VpnEvent :=
  listenEvents 3 ++ (acceptEvents ++
    (relayEvents order 4 5 (ipAddrText s) (requestBytes order k c d hreq)
        (relayedPacket order k c d hreq) (networkOctets d) ++
      (replyEvents order k 4 5 (answerBytes order s d hresp)
        ((answerPacket order s d hresp).returned order (ipAddrText c)) ++ shutdownEvents)))

def destLog : List VpnEvent :=
  listenEvents 3 ++ (acceptEvents ++ answerEvents (forwardedBytes order k c s d hreq)
    (viewOf order (forwardedPacket order k c s d hreq) none)
    (viewOf order (answerPacket order s d hresp) none) (answerBytes order s d hresp).val)

lemma recover_requestBytes : recover k (received pktSize (requestBytes order k c d hreq)) =
    pure (relayedPacket order k c d hreq).bytes := by
  obtain ⟨bytes, hwire, hrecover⟩ := exists_toServer order k c d hreq
  have hbytes : bytes = requestBytes order k c d hreq := Subtype.ext hwire.symm
  rw [← hbytes]
  exact hrecover

lemma textOf_returned : CString.textOf ((answerPacket order s d hresp).returned order
    (ipAddrText c)).field = response :=
  textOf_messageField response (hresp.trans (by decide))

lemma sentOn_serverLog : SockLog.sentOn 4 (serverLog order k c s d hreq hresp) =
    [(replyBytes order k c s d hresp).val] :=
  congrArg (fun m => [wire k m (((answerPacket order s d hresp).returned order (ipAddrText c)).bytes.take 46)])
    (textOf_returned order c s d hresp)

lemma recover_replyBytes : recover k (received pktSize (replyBytes order k c s d hresp)) =
    pure (replyPacket order k c s d hresp).bytes := by
  obtain ⟨bytes, hwire, hrecover⟩ := exists_toClient order k c s d hresp
  rw [textOf_returned] at hwire
  have hbytes : bytes = replyBytes order k c s d hresp := Subtype.ext hwire.symm
  rw [← hbytes]
  exact hrecover

/-- When each host runs until it waits for another one, the programs do the events of these logs. -/
theorem exists_script : ∃ (view : PacketView) (request' relay answer reply response' : List VpnEvent),
    clientLog order k c s d hreq hresp view = request' ++ response' ∧
    serverLog order k c s d hreq hresp =
      listenEvents 3 ++ (acceptEvents ++ (relay ++ (reply ++ shutdownEvents))) ∧
    destLog order k c s d hreq hresp = listenEvents 3 ++ (acceptEvents ++ answer) ∧
    Prog.Trace (clientSession order k (ipAddrText c) (ipAddrText s) (ipAddrText d) request)
      (clientLog order k c s d hreq hresp view) (pure 0) ∧
    Prog.Trace (serverSession order k (ipAddrText s)) (serverLog order k c s d hreq hresp) (pure 0) ∧
    Prog.Trace (destSession order (ipAddrText d) response) (destLog order k c s d hreq hresp) (pure 0) ∧
    Network.Follows (vpnService s d) (logsOf [] [] [])
      (exchangeSchedule request' relay answer reply response') := by
  have hresp' : response.length ≤ 127 := hresp.trans (by decide)
  have hreply := recover_replyBytes order k c s d hresp
  obtain ⟨view, hclient⟩ := trace_clientSession order k (ipAddrText c) (ipAddrText s) (ipAddrText d) hreq
    (networkOctets s) hreply (zero_mem_deliveredField k response hresp')
  have hserver := trace_serverSession order k (ipAddrText s) (networkOctets d)
    (recover_requestBytes order k c d hreq) (zero_mem_deliveredField k request hreq)
    (wrapped_response order (ipAddrText d) (ipAddrText s) hresp (answerBytes order s d hresp) rfl)
    (zero_mem_messageField response hresp')
  have hdest : received destPktSize (forwardedBytes order k c s d hreq) =
      (forwardedPacket order k c s d hreq).inner := received_of_length (Packet.length_inner _)
  have hdestination := trace_destSession order (ipAddrText d) hresp hdest
    (zero_mem_deliveredField k request hreq)
  rw [ipSrc_relayedPacket] at hserver
  rw [ipSrc_forwardedPacket] at hdestination
  have hreturn : wire k (.textOf ((answerPacket order s d hresp).returned order (ipAddrText c)).field)
      (((answerPacket order s d hresp).returned order (ipAddrText c)).bytes.take 46) =
        (replyBytes order k c s d hresp).val := by
    rw [textOf_returned]
    rfl
  have hforward : ((relayedPacket order k c d hreq).relayed order (ipAddrText s)).inner =
      (forwardedBytes order k c s d hreq).val := rfl
  have hfollows := follows_exchange order k s d (requestBytes order k c d hreq)
    (answerBytes order s d hresp) (ipDst_relayedPacket order k c d hreq) hforward hreturn view
    (viewOf order (forwardedPacket order k c s d hreq) none) (viewOf order (answerPacket order s d hresp) none)
    (viewOf order (replyPacket order k c s d hresp)
      (some (GreHdr.ofBytes order (replyPacket order k c s d hresp).gre)))
  exact ⟨view, _, _, _, _, _, rfl, rfl, rfl, hclient, hserver, hdestination, hfollows⟩

/-- Some run comes to an end at which the logs are these. -/
theorem exists_end : ∃ (view : PacketView) (f : Network Host (@SysReply Output) Int),
    (∀ i, (f i).prog = .ret 0) ∧
    f.logs = logsOf (clientLog order k c s d hreq hresp view) (serverLog order k c s d hreq hresp)
      (destLog order k c s d hreq hresp) ∧
    Network.Reaches (vpnService s d) (exchange order k c s d request response) f := by
  obtain ⟨view, request', relay, answer, reply, response', hc, hs, hd, hclient, hserver, hdestination,
    hfollows⟩ := exists_script order k c s d hreq hresp
  rw [hc] at hclient
  rw [hs] at hserver
  rw [hd] at hdestination
  obtain ⟨f, hend, hlogs, hrun, -⟩ := exchange_runs order k c s d hclient hserver hdestination hfollows
  refine ⟨view, f, hend, ?_, hrun⟩
  rw [hc, hs, hd]
  exact hlogs

end Ends

instance : Fintype Host := ⟨{.client, .server, .destination}, fun i => by cases i <;> decide⟩

section Calm

variable (order : ByteOrder) (k : Key) (c s d : UInt32) {request response : CString}
  (hreq : request.length ≤ 127) (hresp : response.length ≤ 122)

lemma wire_ne_nil (m : CString) {header : List UInt8} (h : header.length = 46) : wire k m header ≠ [] := by
  intro hnil
  have hlen := length_wire k m h
  rw [hnil, List.length_nil] at hlen
  omega

lemma smooth_clientLog (view : PacketView) : Topology.Smooth [] (clientLog order k c s d hreq hresp view) := by
  have hreply : (replyBytes order k c s d hresp).val ≠ [] :=
    wire_ne_nil k response (length_take_head (Packet.length_bytes _))
  exact ⟨rfl, trivial, rfl, trivial, rfl, ⟨List.mem_singleton_self 3, List.not_mem_nil, rfl⟩, rfl, trivial,
    rfl, trivial, rfl, trivial, rfl, trivial, rfl, ⟨rfl, hreply⟩, rfl, trivial, rfl, trivial, trivial⟩

lemma smooth_serverLog : Topology.Smooth [] (serverLog order k c s d hreq hresp) := by
  have hrequest : (requestBytes order k c d hreq).val ≠ [] := wire_ne_nil k request (length_header ..)
  have hanswer : (answerBytes order s d hresp).val ≠ [] := by
    intro hnil
    have hlen := congrArg List.length hnil
    change ((answerPacket order s d hresp).inner.take (46 + response.length)).length = 0 at hlen
    rw [List.length_take, Packet.length_inner, show destPktSize = 168 from rfl] at hlen
    omega
  have hopened : (5 : Nat) ∈ [3, 4, 5] := by decide
  have haccepted : (5 : Nat) ∉ [4] := by decide
  exact ⟨rfl, trivial, rfl, trivial, rfl, trivial, rfl, trivial, rfl, trivial, rfl, ⟨rfl, hrequest⟩, rfl, trivial,
    rfl, trivial, rfl, trivial, rfl, ⟨hopened, haccepted, rfl⟩, rfl, trivial, rfl, trivial, rfl, trivial,
    rfl, ⟨rfl, hanswer⟩, rfl, trivial, rfl, trivial, rfl, trivial, rfl, trivial, trivial⟩

lemma smooth_destLog : Topology.Smooth [] (destLog order k c s d hreq hresp) := by
  have hforwarded : (forwardedBytes order k c s d hreq).val ≠ [] := by
    intro hnil
    have hlen := congrArg List.length hnil
    change (forwardedPacket order k c s d hreq).inner.length = 0 at hlen
    rw [Packet.length_inner] at hlen
    cases hlen
  exact ⟨rfl, trivial, rfl, trivial, rfl, trivial, rfl, trivial, rfl, trivial, rfl, ⟨rfl, hforwarded⟩, rfl, trivial,
    rfl, trivial, rfl, trivial, rfl, trivial, rfl, trivial, trivial⟩

/-- The hosts that are called accept a connection before they close a socket. -/
lemma called_of_logs {l : Logs Host (@SysReply Output)} (hserver : listenEvents 3 ++ acceptEvents <+: l .server)
    (hdest : listenEvents 3 ++ acceptEvents <+: l .destination) (i : Host) (address : List UInt8) (p : UInt16)
    (j : Host) (h : (vpnTopology s d).route i address p = some j) :
    (vpnTopology s d).caller j = i ∧ ∃ es, es <+: l j ∧ SockLog.accepted es ≠ [] ∧ SockLog.closed es = [] := by
  have haccepted : SockLog.accepted (listenEvents 3 ++ acceptEvents) ≠ [] := List.cons_ne_nil 4 []
  cases i with
  | client =>
    obtain ⟨-, hj⟩ := Option.ite_none_right_eq_some.mp h
    obtain rfl := Option.some.inj hj
    exact ⟨rfl, _, hserver, haccepted, rfl⟩
  | server =>
    obtain ⟨-, hj⟩ := Option.ite_none_right_eq_some.mp h
    obtain rfl := Option.some.inj hj
    exact ⟨rfl, _, hdest, haccepted, rfl⟩
  | destination => cases h

include hreq hresp in
/-- The exchange has a run without failures, at whose end the logs are these. -/
lemma endsCalmly_exchange : ∃ (view : PacketView) (f : Network Host (@SysReply Output) Int),
    (∀ i, (f i).prog = .ret 0) ∧
    f.logs = logsOf (clientLog order k c s d hreq hresp view) (serverLog order k c s d hreq hresp)
      (destLog order k c s d hreq hresp) ∧
    (vpnTopology s d).EndsCalmly (exchange order k c s d request response) f := by
  obtain ⟨view, f, hend, hlogs, hf⟩ := exists_end order k c s d hreq hresp
  refine ⟨view, f, hend, hlogs, fun i => ?_, hf, fun i => ⟨0, hend i⟩, fun i => ?_, ?_⟩
  · cases i <;> rfl
  · rw [hlogs]
    cases i with
    | client => exact smooth_clientLog order k c s d hreq hresp view
    | server => exact smooth_serverLog order k c s d hreq hresp
    | destination => exact smooth_destLog order k c s d hreq hresp
  · rw [hlogs]
    exact called_of_logs s d ⟨_, rfl⟩ ⟨_, rfl⟩

lemma strayFaults_serverLog : Prog.strayFaults (serverLog order k c s d hreq hresp) =
    [.store (46 + response.length : Nat) (46 + response.length)] :=
  congrArg (fun m : CString => [Fault.store (46 + m.length : Nat) (46 + m.length)])
    (textOf_returned order c s d hresp)

end Calm

section States

variable (order : ByteOrder) (k : Key) (c s d : UInt32) {request response : CString}
  (hreq : request.length ≤ 127) (hresp : response.length ≤ 122)
  {t : Network Host (@SysReply Output) Int}
  (ht : Relation.ReflTransGen (calmNetwork s d).Moves (exchange order k c s d request response) t)
include ht

/-- In every calm state, a host has done a part of what it has done in the end. -/
lemma log_prefix : ∃ view, ∀ i, (t i).log <+: logsOf (clientLog order k c s d hreq hresp view)
    (serverLog order k c s d hreq hresp) (destLog order k c s d hreq hresp) i := by
  obtain ⟨view, f, -, hlogs, hf⟩ := endsCalmly_exchange order k c s d hreq hresp
  refine ⟨view, fun i => ?_⟩
  rw [← hlogs]
  exact (hf.reaches.of_ended hf.ended (Topology.reaches_of_calm ht)).log i

/-- When all programs have returned, every host has done all of it. -/
lemma logs_of_returned (hret : ∀ i, (t i).prog = .ret 0) :
    ∃ view, t.logs = logsOf (clientLog order k c s d hreq hresp view) (serverLog order k c s d hreq hresp)
      (destLog order k c s d hreq hresp) := by
  obtain ⟨view, f, -, hlogs, hf⟩ := endsCalmly_exchange order k c s d hreq hresp
  have hreach := hf.reaches.of_ended hf.ended (Topology.reaches_of_calm ht)
  rw [← Network.Ended.eq_of_reaches (fun i => ⟨0, hret i⟩) hreach]
  exact ⟨view, hlogs⟩

end States

/-- The four messages of an exchange, of which none is lost, duplicated or received before it is sent: a
host has received a part of what the other end has sent, and it sends on when it has received. -/
structure InOrder (logs : Logs Host (@SysReply Output)) : Prop where
  requested : (SockLog.sentOn 3 (logs .client)).length ≤ 1
  toServer : SockLog.receivedOn 4 (logs .server) <+: SockLog.sentOn 3 (logs .client)
  forwarded : (SockLog.sentOn 5 (logs .server)).length ≤ (SockLog.receivedOn 4 (logs .server)).length
  toDestination : SockLog.receivedOn 4 (logs .destination) <+: SockLog.sentOn 5 (logs .server)
  answered : (SockLog.sentOn 4 (logs .destination)).length ≤
    (SockLog.receivedOn 4 (logs .destination)).length
  fromDestination : SockLog.receivedOn 5 (logs .server) <+: SockLog.sentOn 4 (logs .destination)
  replied : (SockLog.sentOn 4 (logs .server)).length ≤ (SockLog.receivedOn 5 (logs .server)).length
  toClient : SockLog.receivedOn 3 (logs .client) <+: SockLog.sentOn 4 (logs .server)

section Order

variable (order : ByteOrder) (k : Key) (c s d : UInt32) {request response : CString}
  (hreq : request.length ≤ 127) (hresp : response.length ≤ 122)
  {t : Network Host (@SysReply Output) Int}
  (ht : Relation.ReflTransGen (calmNetwork s d).Moves (exchange order k c s d request response) t)
include hreq hresp ht

lemma inOrder_of_calm : InOrder t.logs := by
  obtain ⟨view, hlog⟩ := log_prefix order k c s d hreq hresp ht
  have hlisten : listenEvents 3 ++ acceptEvents ++
      [.call (.recv 4 pktSize) (some (requestBytes order k c d hreq))] <+:
        serverLog order k c s d hreq hresp := ⟨_, rfl⟩
  have hlisten' : listenEvents 3 ++ acceptEvents ++
      [.call (.recv 4 destPktSize) (some (forwardedBytes order k c s d hreq))] <+:
        destLog order k c s d hreq hresp := ⟨_, rfl⟩
  have hrelay : listenEvents 3 ++ (acceptEvents ++
      relayEvents order 4 5 (ipAddrText s) (requestBytes order k c d hreq)
        (relayedPacket order k c d hreq) (networkOctets d)) ++
      [.call (.recv 5 pktSize) (some (answerBytes order s d hresp))] <+:
        serverLog order k c s d hreq hresp := ⟨_, rfl⟩
  have hrequest : requestEvents (ipAddrText s) (networkOctets s) view
        (requestBytes order k c d hreq).val ++
      [.call (.recv 3 pktSize) (some (replyBytes order k c s d hresp))] <+:
        clientLog order k c s d hreq hresp view := ⟨_, rfl⟩
  have hother : 5 ∉ [(4 : Fd)] := by decide
  have hserver := route_server s d
  have hdest := route_destination s d
  have ht := Topology.reaches_of_calm ht
  exact ⟨(SockLog.sentOn_mono 3 (hlog .client)).length_le,
    ht.received_prefix_sent rfl hlog hlisten rfl rfl
      (Topology.remote_of_accepted hserver rfl rfl rfl),
    SockLog.sent_le_received (hlog .server) hlisten rfl (Nat.le_refl 1) rfl,
    ht.received_prefix_sent rfl hlog hlisten' rfl rfl (Topology.remote_of_accepted hdest rfl rfl rfl),
    SockLog.sent_le_received (hlog .destination) hlisten' rfl (Nat.le_refl 1) rfl,
    ht.received_prefix_sent rfl hlog hrelay rfl rfl
      (Topology.remote_of_dialed hdest rfl rfl rfl hother),
    SockLog.sent_le_received (hlog .server) hrelay rfl (Nat.le_refl 1) rfl,
    ht.received_prefix_sent rfl hlog hrequest rfl rfl
      (Topology.remote_of_dialed hserver rfl rfl rfl List.not_mem_nil)⟩

end Order

section Destination

variable (order : ByteOrder) (k : Key) (c c' s d : UInt32) {request response : CString}
  (hreq : request.length ≤ 127) (hresp : response.length ≤ 122)

lemma withIp_congr {p q : Packet} (hgre : p.gre = q.gre) (htcp : p.tcp = q.tcp) (hfield : p.field = q.field)
    (h : IpHdr) : p.withIp order h = q.withIp order h := by
  rw [Packet.withIp, Packet.withIp, Packet.mk.injEq]
  exact ⟨hgre, rfl, htcp, hfield⟩

lemma parts_messagePacket (ipSrc ipDest : CString) (flags : UInt8) (field : List UInt8)
    (h : field.length = 128) :
    (messagePacket order ipSrc ipDest flags field h).gre = (freshGre order).toBytes order ∧
      (messagePacket order ipSrc ipDest flags field h).tcp = (freshTcp order flags).toBytes order ∧
      (messagePacket order ipSrc ipDest flags field h).field = field :=
  ⟨rfl, rfl, rfl⟩

/-- A packet that the server forwards has lost its source. -/
lemma relayed_messagePacket (ipSrc ipSrc' ipDest serverIp : CString) (flags : UInt8) (field : List UInt8)
    (h : field.length = 128) :
    (messagePacket order ipSrc ipDest flags field h).relayed order serverIp =
      (messagePacket order ipSrc' ipDest flags field h).relayed order serverIp := by
  obtain ⟨hgre, htcp, hfield⟩ := parts_messagePacket order ipSrc ipDest flags field h
  obtain ⟨hgre', htcp', hfield'⟩ := parts_messagePacket order ipSrc' ipDest flags field h
  rw [Packet.relayed, Packet.relayed, ipHdr_messagePacket, ipHdr_messagePacket, resum_withSrc,
    resum_withSrc]
  exact withIp_congr order (hgre.trans hgre'.symm) (htcp.trans htcp'.symm) (hfield.trans hfield'.symm) _

lemma forwardedPacket_eq : forwardedPacket order k c s d hreq = forwardedPacket order k c' s d hreq :=
  relayed_messagePacket order _ _ _ _ _ _ _

/-- As long as nothing fails, the destination may have done a part of `destLog`. -/
lemma destination_log_iff (es : List VpnEvent) :
    (∃ t, Relation.ReflTransGen (calmNetwork s d).Moves (exchange order k c s d request response) t ∧
      (t .destination).log = es) ↔ es <+: destLog order k c s d hreq hresp := by
  constructor
  · rintro ⟨t, ht, rfl⟩
    obtain ⟨view, hlog⟩ := log_prefix order k c s d hreq hresp ht
    exact hlog .destination
  · intro hes
    obtain ⟨view, f, -, hlogs, hf⟩ := endsCalmly_exchange order k c s d hreq hresp
    have hlog : (f .destination).log = destLog order k c s d hreq hresp := congrFun hlogs .destination
    rw [← hlog] at hes
    have hstart : (exchange order k c s d request response .destination).log <+: es := List.nil_prefix
    obtain ⟨t, ht, -, htlog⟩ := hf.reaches.of_prefix hstart hes
    exact ⟨t, hf.calm_iff_reaches.mpr ht, htlog⟩

include hreq hresp

/-- As long as nothing fails: whatever the destination has seen and done by some time, in any order of the steps,
it may have seen and done as well if the client had another address. -/
theorem destination_blind (es : List VpnEvent) :
    (∃ t, Relation.ReflTransGen (calmNetwork s d).Moves (exchange order k c s d request response) t ∧
      (t .destination).log = es) ↔
    ∃ t, Relation.ReflTransGen (calmNetwork s d).Moves (exchange order k c' s d request response) t ∧
      (t .destination).log = es := by
  have hforwarded : forwardedBytes order k c s d hreq = forwardedBytes order k c' s d hreq := by
    rw [forwardedBytes]
    simp only [forwardedPacket_eq order k c c' s d hreq]
    rfl
  rw [destination_log_iff order k c s d hreq hresp, destination_log_iff order k c' s d hreq hresp,
    destLog, destLog, hforwarded, forwardedPacket_eq order k c c' s d hreq]

end Destination

/-- All that the destination has done in the end it may have done for a client with another address. -/
theorem destination_blind_hosts :
    ∃ t, Relation.ReflTransGen (calmNetwork 0x0A000002 0x0A000003).Moves
        (exchange .little key 0x0A000004 0x0A000002 0x0A000003 clientPayload responseMsg) t ∧
      (t .destination).log = destLog .little key 0x0A000001 0x0A000002 0x0A000003
        (show clientPayload.length ≤ 127 by decide) (show responseMsg.length ≤ 122 by decide) :=
  (destination_blind .little key 0x0A000001 0x0A000004 0x0A000002 0x0A000003 (by decide) (by decide) _).mp
    ((destination_log_iff .little key 0x0A000001 0x0A000002 0x0A000003 (by decide) (by decide) _).mpr List.prefix_rfl)

end SimpleVpn
