import SimpleVpn.Proofs.Deeds
import SimpleVpn.Proofs.Errors

/-!
# What the hosts receive

Over the network, whatever fails and however the streams are cut: what a host has received is the beginning of what
the host at the other end has sent, and a NUL ends the payload field of every buffer that it is received into.
-/

namespace SimpleVpn

open CLang

section Buffers

variable {n j : Nat} {bytes : Received n} {sent : List UInt8}

/-- Behind the bytes that have been received the buffer holds zeros. -/
lemma getElem?_received_of_sent (h : bytes.val <+: sent) (hj : j < n) (hsent : sent[j]? = some 0 ∨ sent.length ≤ j) :
    (received n bytes)[j]? = some 0 := by
  rw [received_eq]
  by_cases hlt : j < bytes.val.length
  · rw [List.getElem?_append_left hlt]
    have hbyte := List.prefix_iff_getElem?.mp h j hlt
    rcases hsent with hzero | hle
    · rw [hbyte] at hzero
      rw [List.getElem?_eq_getElem hlt, hzero]
    · exact absurd (h.length_le.trans hle) (Nat.not_le.mpr hlt)
  · rw [List.getElem?_append_right (Nat.le_of_not_lt hlt), calloc, List.getElem?_replicate, if_pos (by omega)]

lemma zero_mem_drop {b : Buf} {m : Nat} (h : b[j]? = some 0) (hm : m ≤ j) : 0 ∈ b.drop m := by
  refine List.mem_of_getElem? (i := j - m) ?_
  rw [List.getElem?_drop, Nat.add_sub_cancel' hm]
  exact h

lemma getElem?_of_zero_mem_drop {b : Buf} {m : Nat} (h : 0 ∈ b.drop m) : ∃ j, m ≤ j ∧ b[j]? = some 0 := by
  obtain ⟨i, hi⟩ := List.mem_iff_getElem?.mp h
  rw [List.getElem?_drop] at hi
  exact ⟨m + i, Nat.le_add_right m i, hi⟩

end Buffers

section Network

variable (order : ByteOrder) (k : Key) (c s d : UInt32) {request response : CString}
  (hreq : request.length ≤ 127) (hresp : response.length ≤ 122)
  {t : Network Host (@SysReply Output) Int}
  (ht : Relation.ReflTransGen (vpnNetwork s d).Moves (exchange order k c s d request response) t)
include ht

lemma runOf_exchange (i : Host) : (t i).RunOf (exchange order k c s d request response i).prog :=
  Environment.runOf (fun i => by cases i <;> rfl) ht i

lemma consistent_exchange : (vpnTopology s d).Consistent t.logs :=
  Topology.consistent_of_reaches (fun i => by cases i <;> rfl) ht

lemma separate_exchange (i : Host) : ∀ c ∈ (deeds (t i).log).filterMap Deed.connectedTo,
    c.1 ∉ (deeds (t i).log).filterMap Deed.acceptedFd := by
  rw [← connected_eq, ← accepted_eq]
  exact fun c hc => ((consistent_exchange order k _ s d ht).separate i c hc).2

include hreq in
lemma clientDid_exchange : ∃ stage, ClientDid order k request
    (some (ipAddrText c, ipAddrText s, ipAddrText d)) stage (deeds (t .client).log) := by
  obtain ⟨q, hq⟩ := (runOf_exchange order k c s d ht .client).exists_trace
  exact ⟨_, .of_trace order k (conforms_clientSession order k _ _ _ hreq).playedBy hq⟩

lemma serverDid_exchange : ∃ stage, ServerDid order k (some (ipAddrText s)) stage (deeds (t .server).log) := by
  obtain ⟨q, hq⟩ := (runOf_exchange order k c s d ht .server).exists_trace
  exact ⟨_, .of_trace order k (conforms_serverSession order k _).playedBy hq⟩

include hresp in
lemma destDid_exchange : ∃ stage, DestDid order response (some (ipAddrText d)) stage (deeds (t .destination).log) := by
  obtain ⟨q, hq⟩ := (runOf_exchange order k c s d ht .destination).exists_trace
  exact ⟨_, .of_trace order (conforms_destSession order _ hresp).playedBy hq⟩

include hreq in
lemma length_sent_client (fd : Fd) : (SockLog.sent fd (t .client).log).length ≤ 173 := by
  obtain ⟨stage, hdid⟩ := clientDid_exchange order k c s d hreq ht
  rw [SockLog.sent, sentOn_eq]
  rcases hdid.sentOn order k fd with hnone | ⟨named, -, hsent⟩
  · rw [hnone]
    exact Nat.zero_le _
  · rw [hsent, List.flatten_singleton, length_wire k request (length_header ..)]
    omega

lemma length_sent_server {fd : Fd} (hfd : fd ∈ SockLog.accepted (t .server).log) :
    (SockLog.sent fd (t .server).log).length ≤ 173 := by
  obtain ⟨stage, hdid⟩ := serverDid_exchange order k c s d ht
  rw [accepted_eq] at hfd
  rw [SockLog.sent, sentOn_eq]
  rcases hdid.sentOn_accepted order k (separate_exchange order k c s d ht .server) hfd with
    hnone | ⟨a, b, dest, reply, -, -, -, hreply, hsent⟩
  · rw [hnone]
    exact Nat.zero_le _
  · have hlt := CString.length_textOf_lt hreply.terminated
    have hmost : ((received pktSize b).drop 40 |>.take 128).length ≤ 128 := by
      rw [List.length_take]
      exact Nat.min_le_left _ _
    rw [hsent, List.flatten_singleton, hreply.length]
    omega

/-- The packet that the server has sent to the destination has a NUL in its payload field. -/
lemma exists_zero_sent_server {fd : Fd} (hfd : fd ∈ (SockLog.connected (t .server).log).map Prod.fst) :
    ∃ j, 40 ≤ j ∧ j < destPktSize ∧ ((SockLog.sent fd (t .server).log)[j]? = some 0 ∨
      (SockLog.sent fd (t .server).log).length ≤ j) := by
  obtain ⟨stage, hdid⟩ := serverDid_exchange order k c s d ht
  rw [connected_eq] at hfd
  rw [SockLog.sent, sentOn_eq]
  rcases hdid.sentOn_connected order k (separate_exchange order k c s d ht .server) hfd with
    hnone | ⟨a, bytes, serverIp, -, hforward, hsent⟩
  · rw [hnone]
    exact ⟨40, Nat.le_refl 40, by decide, .inr (Nat.zero_le 40)⟩
  · have hdrop : bytes.drop 40 = (decrypted k (received pktSize a)).drop 46 := by
      have h := congrArg (List.drop 20) hforward.segment
      rw [List.drop_drop, List.drop_drop] at h
      exact h
    obtain ⟨j, hj, hzero⟩ := getElem?_of_zero_mem_drop (hdrop.symm ▸ hforward.terminated)
    have hlt := (List.getElem?_eq_some_iff.mp hzero).1
    rw [hforward.length] at hlt
    rw [hsent, List.flatten_singleton]
    exact ⟨j, hj, hlt, .inl hzero⟩

include hresp in
/-- The destination has sent a NUL behind its response. -/
lemma zero_sent_destination (fd : Fd) : (SockLog.sent fd (t .destination).log)[40 + response.length]? = some 0 ∨
    (SockLog.sent fd (t .destination).log).length ≤ 40 + response.length := by
  obtain ⟨stage, hdid⟩ := destDid_exchange order k c s d hresp ht
  rw [SockLog.sent, sentOn_eq]
  rcases hdid.sentOn order fd with hnone | ⟨packet, hostIp, -, hsent⟩
  · rw [hnone]
    exact .inr (Nat.zero_le _)
  · have hlen : ((freshIp order hostIp (ipAddrText (ipHdrAt order packet 0).ipSrc) ipProtocolTcp).toBytes order ++
        (freshTcp order tcpFlagAck).toBytes order ++ response.bytes).length = 40 + response.length := by
      rw [List.length_append, List.length_append, IpHdr.length_toBytes, TcpHdr.length_toBytes]
      rfl
    rw [hsent, List.flatten_singleton, ← hlen, List.getElem?_append_right (Nat.le_refl _), Nat.sub_self]
    exact .inl rfl

include hreq in
lemma zero_mem_buffer_client : ∀ b ∈ (deeds (t .client).log).filterMap buffer, 0 ∈ b.drop 46 := by
  obtain ⟨stage, hdid⟩ := clientDid_exchange order k c s d hreq ht
  have hconsistent := consistent_exchange order k c s d ht
  intro b hb
  rcases hdid.buffers order k with hnone | ⟨fd, reply, hfd, honce, hbuffer⟩
  · rw [hnone] at hb
    exact absurd hb List.not_mem_nil
  rw [hbuffer, List.mem_singleton] at hb
  rw [hb, zero_mem_received]
  refine .inl (Nat.lt_of_le_of_lt ?_ (show 173 < 174 by decide))
  have hreceived : SockLog.received fd (t.logs .client) = reply.val := by
    rw [SockLog.received, receivedOn_eq]
    exact (congrArg List.flatten honce).trans (List.flatten_singleton ..)
  by_cases hempty : reply.val = []
  · rw [hempty]
    exact Nat.zero_le _
  rw [← hreceived] at hempty
  rcases hconsistent.received_cases hempty with ⟨haccepted, -⟩ | ⟨-, j, hcaller, fd', hfd', hprefix⟩
  · rw [accepted_eq, show deeds (t.logs .client) = deeds (t .client).log from rfl, hdid.not_accepted] at haccepted
    exact absurd haccepted List.not_mem_nil
  · rw [← hreceived]
    cases j with
    | client =>
      rw [accepted_eq, show deeds (t.logs .client) = deeds (t .client).log from rfl, hdid.not_accepted] at hfd'
      exact absurd hfd' List.not_mem_nil
    | server => exact hprefix.length_le.trans (length_sent_server order k c s d ht hfd')
    | destination => cases hcaller

include hreq hresp in
/-- The server has received nothing, or the request, or the request and the answer. -/
lemma buffers_server : (deeds (t .server).log).filterMap buffer = [] ∨ ∃ a, 0 ∈ a.drop 46 ∧
    ((deeds (t .server).log).filterMap buffer = [a] ∨ ∃ b, (answerField b)[response.length]? = some 0 ∧
      (deeds (t .server).log).filterMap buffer = [a, b]) := by
  obtain ⟨stage, hdid⟩ := serverDid_exchange order k c s d ht
  have hconsistent := consistent_exchange order k c s d ht
  have hseparate := hconsistent.separate .server
  have hreceived {fd : Fd} {a : Received pktSize}
      (honce : (deeds (t .server).log).filterMap (Deed.receivedOn fd) = [a.val]) :
      SockLog.received fd (t.logs .server) = a.val := by
    rw [SockLog.received, receivedOn_eq]
    exact (congrArg List.flatten honce).trans (List.flatten_singleton ..)
  rcases hdid.buffers order k (separate_exchange order k c s d ht .server) with
    hnone | ⟨fd, a, hfd, honce, hbuffer⟩
  · exact .inl hnone
  refine .inr ⟨received pktSize a, ?_, ?_⟩
  · rw [zero_mem_received]
    refine .inl (Nat.lt_of_le_of_lt ?_ (show 173 < 174 by decide))
    by_cases hempty : a.val = []
    · rw [hempty]
      exact Nat.zero_le _
    rw [← hreceived honce] at hempty ⊢
    rw [← accepted_eq] at hfd
    rcases hconsistent.received_cases hempty with ⟨-, fd', -, hprefix⟩ | ⟨hconnected, -⟩
    · exact hprefix.length_le.trans (length_sent_client order k c s d hreq ht fd')
    · obtain ⟨con, hcon, rfl⟩ := List.mem_map.mp hconnected
      exact absurd hfd (hseparate con hcon).2
  · rcases hbuffer with hone | ⟨dest, b, hdest, honce', hboth⟩
    · exact .inl hone
    refine .inr ⟨received pktSize b, ?_, hboth⟩
    have hzero : (received pktSize b)[40 + response.length]? = some 0 := by
      have hlt : 40 + response.length < pktSize := by
        change 40 + response.length < 174
        omega
      by_cases hempty : b.val = []
      · exact getElem?_received_of_sent (List.prefix_nil.mpr hempty) hlt (.inr (Nat.zero_le _))
      rw [← hreceived honce'] at hempty
      rw [← connected_eq] at hdest
      rcases hconsistent.received_cases hempty with ⟨haccepted, -⟩ | ⟨-, j, hcaller, fd', -, hprefix⟩
      · obtain ⟨con, hcon, rfl⟩ := List.mem_map.mp hdest
        exact absurd haccepted (hseparate con hcon).2
      · cases j with
        | destination =>
          rw [hreceived honce'] at hprefix
          exact getElem?_received_of_sent hprefix hlt (zero_sent_destination order k c s d hresp ht fd')
        | client => cases hcaller
        | server => cases hcaller
    rw [answerField, List.getElem?_take_of_lt (by omega), List.getElem?_drop]
    exact hzero

include hresp in
lemma zero_mem_buffer_destination : ∀ b ∈ (deeds (t .destination).log).filterMap buffer, 0 ∈ b.drop 40 := by
  obtain ⟨stage, hdid⟩ := destDid_exchange order k c s d hresp ht
  have hconsistent := consistent_exchange order k c s d ht
  intro b hb
  rcases hdid.buffers order with hnone | ⟨fd, a, hfd, honce, hbuffer⟩
  · rw [hnone] at hb
    exact absurd hb List.not_mem_nil
  rw [hbuffer, List.mem_singleton] at hb
  have hreceived : SockLog.received fd (t.logs .destination) = a.val := by
    rw [SockLog.received, receivedOn_eq]
    exact (congrArg List.flatten honce).trans (List.flatten_singleton ..)
  rw [hb]
  by_cases hempty : a.val = []
  · exact zero_mem_drop (getElem?_received_of_sent (j := 40) (List.prefix_nil.mpr hempty) (by decide)
      (.inr (Nat.zero_le _))) (Nat.le_refl 40)
  rw [← hreceived] at hempty
  rcases hconsistent.received_cases hempty with ⟨-, fd', hdialed, hprefix⟩ | ⟨-, j, hcaller, -⟩
  · obtain ⟨j, hj, hlt, hzero⟩ := exists_zero_sent_server order k c s d ht (Topology.mem_connected_of_dialed hdialed)
    rw [hreceived] at hprefix
    exact zero_mem_drop (getElem?_received_of_sent hprefix hlt hzero) hj
  · cases j <;> cases hcaller

end Network

/-- Each host does things on its connections in one order, in which it receives a message before it sends the next
one, and what it has received on a connection is the beginning of what has been sent at the other end. -/
structure Streamed (topology : Topology Host) (l : Logs Host (@SysReply Output)) : Prop where
  client : ∃ (fd : Fd) (address bytes : List UInt8) (reply : Received pktSize),
    deeds (l .client) <+: [.connected fd address port, .sent fd bytes, .received fd pktSize reply] ∨
      -- the client ignores a `send` that fails
      deeds (l .client) <+: [.connected fd address port, .received fd pktSize reply]
  server : ∃ (c dest : Fd) (a b : Received pktSize) (address bytes reply : List UInt8), c ≠ dest ∧
    deeds (l .server) <+: [.accepted c, .received c pktSize a, .connected dest address port, .sent dest bytes,
      .received dest pktSize b, .sent c reply]
  destination : ∃ (c : Fd) (a : Received destPktSize) (bytes : List UInt8),
    deeds (l .destination) <+: [.accepted c, .received c destPktSize a, .sent c bytes]
  delivered : ∀ i fd, SockLog.received fd (l i) ≠ [] → ∃ j fd', topology.remote l i fd = some (j, fd') ∧
    SockLog.received fd (l i) <+: SockLog.sent fd' (l j)

section Order

variable (order : ByteOrder) (k : Key) (c s d : UInt32) {request response : CString}
  (hreq : request.length ≤ 127) (hresp : response.length ≤ 122)
include hreq hresp

/-- Whatever fails on the network and however its streams are cut, the hosts exchange their messages in this order.
As long as nothing fails, each message is received whole. -/
theorem exchange_inOrder :
    (∀ t, Relation.ReflTransGen (vpnNetwork s d).Moves (exchange order k c s d request response) t →
      Streamed (vpnTopology s d) t.logs) ∧
    ∀ t, Relation.ReflTransGen (calmNetwork s d).Moves (exchange order k c s d request response) t →
      InOrder t.logs := by
  refine ⟨fun t ht => ?_, fun t ht => inOrder_of_calm order k c s d hreq hresp ht⟩
  obtain ⟨_, hclient⟩ := clientDid_exchange order k c s d hreq ht
  obtain ⟨_, hserver⟩ := serverDid_exchange order k c s d ht
  obtain ⟨_, hdest⟩ := destDid_exchange order k c s d hresp ht
  refine ⟨hclient.script, hserver.script order k (separate_exchange order k c s d ht .server), hdest.script,
    fun i fd hne => ?_⟩
  obtain ⟨⟨j, fd'⟩, hremote, hprefix⟩ := (consistent_exchange order k c s d ht).delivered i fd hne
  exact ⟨j, fd', hremote, hprefix⟩

end Order

/-- At the end of a run for three hosts. -/
theorem exchange_inOrder_hosts : ∃ t : Network Host (@SysReply Output) Int, (∀ i, (t i).prog = .ret 0) ∧
    Streamed (vpnTopology 0x0A000002 0x0A000003) t.logs ∧ InOrder t.logs := by
  obtain ⟨view, f, hend, -, hf⟩ := endsCalmly_exchange .little key 0x0A000001 0x0A000002 0x0A000003
    (show clientPayload.length ≤ 127 by decide) (show responseMsg.length ≤ 122 by decide)
  obtain ⟨hstreamed, hcalm⟩ := exchange_inOrder .little key 0x0A000001 0x0A000002 0x0A000003
    (show clientPayload.length ≤ 127 by decide) (show responseMsg.length ≤ 122 by decide)
  have hreach := hf.calm_iff_reaches.mpr hf.reaches
  exact ⟨f, hend, hstreamed f (Topology.network_of_calm hreach), hcalm f hreach⟩

end SimpleVpn
