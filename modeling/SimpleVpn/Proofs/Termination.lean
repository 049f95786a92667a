import SimpleVpn.Proofs.Legs
import SimpleVpn.Proofs.OnPackets

/-!
# Termination of the exchange

Every run is finite, whatever fails on the network. When it cannot go on, a host that has not ended was not called,
or waits for bytes that the client failed to send.
-/

namespace SimpleVpn

open CLang

section Parts

variable {α : Type} {n : Nat}

lemma within_step (c : SysCall Output) {f : SysReply c → VpnProg α} (hf : ∀ r, Prog.Within n (f r)) :
    Prog.Within (n + 1) ((.call c .ret : VpnProg (SysReply c)) >>= f) :=
  .step c hf

lemma within_say (text : String) {f : Unit → VpnProg α} (hf : Prog.Within n (f ())) :
    Prog.Within (n + 1) (say text >>= f) :=
  within_step (.print _) fun _ => hf

lemma within_createClientSocket {f : Option Fd → VpnProg α} (hsome : ∀ fd, Prog.Within (n + 1) (f (some fd)))
    (hnone : Prog.Within n (f none)) : Prog.Within (n + 2) (createClientSocket >>= f) := by
  rw [createClientSocket, bind_assoc]
  refine within_step .socket fun r => ?_
  cases r with
  | none => exact within_say _ hnone
  | some fd => exact hsome fd

lemma within_connectToServer (fd : Fd) (serverIp : CString) {f : Int → VpnProg α}
    (hf : ∀ status, Prog.Within n (f status)) : Prog.Within (n + 3) (connectToServer fd serverIp >>= f) := by
  rw [connectToServer, bind_assoc]
  refine within_step (.inetPton serverIp) fun r => ?_
  cases r with
  | none => exact (within_say _ (hf (-1))).mono (Nat.le_succ _)
  | some address =>
    dsimp only
    rw [bind_assoc]
    refine within_step (.connect fd address port) fun r => ?_
    cases r with
    | true => exact within_say _ (hf 0)
    | false => exact within_say _ (hf (-1))

lemma within_createListeningSocket {f : Fd → VpnProg α} (hf : ∀ fd, Prog.Within (n + 1) (f fd)) :
    Prog.Within (n + 5) (createListeningSocket >>= f) := by
  have hfailed (m : Nat) (text : String) : Prog.Within (m + 1) (say text >>= fun _ => .stop (.exit exitFailure)
      : VpnProg α) := within_say text (.stop _)
  rw [createListeningSocket, bind_assoc]
  refine within_step .socket fun r => ?_
  cases r with
  | none => exact hfailed _ _
  | some fd =>
    dsimp only
    rw [bind_assoc]
    refine within_step (.setsockopt fd) fun r => ?_
    cases r with
    | false => exact hfailed _ _
    | true =>
      rw [if_neg (by decide), bind_assoc]
      refine within_step (.bind fd port) fun r => ?_
      cases r with
      | false => exact hfailed _ _
      | true =>
        rw [if_neg (by decide), bind_assoc]
        refine within_step (.listen fd) fun r => ?_
        cases r with
        | false => exact hfailed _ _
        | true =>
          rw [if_neg (by decide)]
          exact hf fd

lemma within_acceptConnection (fd : Fd) {f : Fd → VpnProg α} (hf : ∀ newSocket, Prog.Within (n + 1) (f newSocket)) :
    Prog.Within (n + 2) (acceptConnection fd >>= f) := by
  rw [acceptConnection, bind_assoc]
  refine within_step (.accept fd) fun r => ?_
  cases r with
  | none => exact within_say _ (.stop _)
  | some newSocket => exact hf newSocket

lemma within_servRecFromCli (k : Key) (sockfd : Fd) {f : Option Packet → VpnProg α} (hf : ∀ r, Prog.Within n (f r)) :
    Prog.Within (n + 1) (OnPackets.servRecFromCli k sockfd >>= f) := by
  rw [OnPackets.servRecFromCli, bind_assoc]
  refine within_step (.recv sockfd pktSize) fun r => ?_
  cases r with
  | none => exact hf none
  | some bytes =>
    dsimp only
    split
    · exact hf _
    · exact .stop _

end Parts

section Sessions

variable (order : ByteOrder) (k : Key)

lemma within_clientSession (clientIp serverIp destIp : CString) {request : CString} (hreq : request.length ≤ 127) :
    Prog.Within 11 (clientSession order k clientIp serverIp destIp request) := by
  obtain ⟨view, h⟩ := clientSession_onPackets order k clientIp serverIp destIp hreq
  have hresponse (fd : Fd) : Prog.Within 3 (OnPackets.clientResponse order k fd) := by
    refine within_servRecFromCli k fd fun r => ?_
    cases r with
    | none => exact .stop _
    | some q => exact within_step (.print _) fun _ => within_step (.close fd) fun _ => .ret 0
  rw [h]
  unfold OnPackets.clientSession
  refine within_createClientSocket (fun clientFd => ?_) (.ret _)
  refine within_connectToServer clientFd serverIp fun status => ?_
  split
  · exact within_step (.close clientFd) fun _ => .ret _
  · refine within_say _ (within_step (.print _) fun _ => within_step (.send clientFd _) fun r => ?_)
    cases r with
    | true => exact (hresponse clientFd).mono (Nat.le_succ _)
    | false => exact within_say _ (hresponse clientFd)

lemma within_serverRelay (newSocket : Fd) (serverIp : CString) {n : Nat} {f : Option (Fd × UInt32) → VpnProg Int}
    (hf : ∀ r, Prog.Within n (f r)) : Prog.Within (n + 8) (serverRelay order k newSocket serverIp >>= f) := by
  rw [serverRelay_onPackets, OnPackets.serverRelay, bind_assoc]
  refine within_servRecFromCli k newSocket fun r => ?_
  cases r with
  | none => exact (within_say _ (hf none)).mono (by omega)
  | some p =>
    dsimp only
    rw [bind_assoc]
    refine within_step (.print _) fun _ => ?_
    rw [bind_assoc]
    refine within_createClientSocket (fun clientFd => ?_) ((hf none).mono (by omega))
    dsimp only
    rw [bind_assoc]
    refine within_connectToServer clientFd _ fun status => ?_
    split
    · exact (within_step (.close clientFd) fun _ => hf none).mono (Nat.le_succ _)
    · rw [bind_assoc]
      refine within_step (.send clientFd _) fun r => ?_
      cases r with
      | false => exact within_say _ (hf none)
      | true => exact within_say _ (hf _)

lemma within_serverReply (newSocket clientFd : Fd) (clientIp : UInt32) {n : Nat} {f : Int → VpnProg Int}
    (hf : ∀ status, Prog.Within n (f status)) :
    Prog.Within (n + 4) (serverReply order k newSocket clientFd clientIp >>= f) := by
  rw [serverReply_onPackets, OnPackets.serverReply, bind_assoc]
  refine within_step (.recv clientFd pktSize) fun r => ?_
  cases r with
  | none => exact .stop _
  | some bytes =>
    dsimp only
    split
    · rw [bind_assoc]
      refine within_step (.print _) fun _ => .stray _ ?_
      change Prog.Within (n + 1) ((Sock.send newSocket _ >>= _) >>= f)
      rw [bind_assoc]
      refine within_step (.send newSocket _) fun r => ?_
      cases r with
      | true => exact hf 0
      | false => exact hf (-1)
    · exact .stop _

lemma within_serverSession (serverIp : CString) : Prog.Within 19 (serverSession order k serverIp) := by
  unfold serverSession
  refine within_createListeningSocket fun serverFd => ?_
  refine within_acceptConnection serverFd fun newSocket => ?_
  refine within_serverRelay order k newSocket serverIp fun r => ?_
  cases r with
  | none => exact .ret _
  | some r =>
    refine within_serverReply order k newSocket r.1 r.2 fun _ => ?_
    exact within_step (.close newSocket) fun _ => within_step (.shutdown serverFd) fun _ => .ret 0

lemma within_destSession (hostIp : CString) {response : CString} (hresp : response.length ≤ 122) :
    Prog.Within 11 (destSession order hostIp response) := by
  rw [destSession_onPackets order hostIp hresp]
  unfold OnPackets.destSession
  refine within_createListeningSocket fun destFd => ?_
  refine within_acceptConnection destFd fun newSocket => ?_
  refine within_step (.recv newSocket destPktSize) fun r => ?_
  cases r with
  | none => exact within_say _ (.ret _)
  | some bytes =>
    dsimp only
    split
    · refine within_step (.print _) fun _ => within_step (.print _) fun _ => within_step (.send newSocket _) fun r => ?_
      cases r with
      | false => exact .ret _
      | true => exact within_step (.close newSocket) fun _ => within_step (.close destFd) fun _ => .ret 0
    · exact .stop _

end Sessions

lemma ClientStage.of_next_sent {stage : ClientStage} {c : SysCall Output} {r : SysReply c} {fd : Fd}
    (h : stage.next c r = .sent fd) : stage = .sent fd ∨ stage = .connected fd ∧ ∃ fd' bytes, c = .send fd' bytes := by
  by_cases hsend : ∃ fd' bytes, c = .send fd' bytes
  · obtain ⟨fd', bytes, rfl⟩ := hsend
    cases stage with
    | connected fd'' => exact .inr ⟨congrArg _ (ClientStage.sent.inj h), fd', bytes, rfl⟩
    | sent fd'' =>
      cases r with
      | false => cases h
      | true => exact .inl h
    | _ => cases r <;> cases h
  · refine .inl ?_
    have hnext : stage.next c r = if succeeds c r then stage.advance c r else .done := by
      rw [ClientStage.next]
      rintro fd fd' bytes _ - rfl -
      exact hsend ⟨_, _, rfl⟩
    rw [hnext] at h
    split at h
    · unfold advance at h
      split at h
      all_goals first | exact h | cases h
    · cases h

/-- Before it waits for its response the client has made its `send`. -/
lemma send_of_stage {order : ByteOrder} {k : Key} {request : CString}
    {hosts : Option (CString × CString × CString)} {p q : VpnProg Int} {es : List VpnEvent}
    (h : (requestRole order k request hosts).PlayedBy p) (htrace : Prog.Trace p es q) {fd : Fd}
    (hstage : Prog.stateAfter ClientStage.next (requestRole order k request hosts).start es = .sent fd) :
    ∃ bytes r, (.call (.send fd bytes) r : VpnEvent) ∈ es := by
  let I (stage : ClientStage) (es : List VpnEvent) : Prop :=
    stage = .sent fd → ∃ bytes r, (.call (.send fd bytes) r : VpnEvent) ∈ es
  have hI : I (Prog.stateAfter ClientStage.next (requestRole order k request hosts).start es) es := by
    refine h.invariant (I := I) ?_ ?_ ?_ htrace
    · intro hstart
      change (if hosts.isSome then ClientStage.start else .done) = .sent fd at hstart
      split at hstart <;> cases hstart
    · intro stage es x hs hsent
      obtain ⟨bytes, r, hmem⟩ := hs hsent
      exact ⟨bytes, r, List.mem_append_left _ hmem⟩
    · intro stage es call r hs hc hsent
      rcases ClientStage.of_next_sent hsent with hbefore | ⟨rfl, fd', bytes, rfl⟩
      · obtain ⟨bytes, r', hmem⟩ := hs hbefore
        exact ⟨bytes, r', List.mem_append_left _ hmem⟩
      · obtain ⟨rfl, -⟩ := hc
        exact ⟨bytes, r, List.mem_append_right _ (List.mem_singleton_self _)⟩
  exact hI hstage

/-- A `send` of the host has failed. -/
def Unsent (log : List VpnEvent) : Prop := ∃ fd bytes, (.call (.send fd bytes) false : VpnEvent) ∈ log

/-- A host is left waiting when nobody has called it. The client and the server are also left waiting for bytes
when the client has failed to send its request. -/
def LeftWaiting (topology : Topology Host) (t : Network Host (@SysReply Output) Int) : Host → Prop
  | .client => Unsent (t .client).log ∧ ∃ fd n, topology.WaitsForBytes t .client fd n
  | .server => topology.WaitsForCall t .server ∨
      Unsent (t .client).log ∧ ∃ fd n, topology.WaitsForBytes t .server fd n
  | .destination => topology.WaitsForCall t .destination

/-- Connections lead from the client to the server and from the server to the destination. -/
lemma callee_of_peer (s d : UInt32) {l : Logs Host (@SysReply Output)} {i j : Host} {fd : Fd}
    (hpeer : (vpnTopology s d).peer l i fd = some j) (hfd : fd ∉ SockLog.accepted (l i)) :
    i = .client ∧ j = .server ∨ i = .server ∧ j = .destination := by
  rw [Topology.peer, if_neg hfd] at hpeer
  obtain ⟨con, -, hcon⟩ := List.mem_filterMap.mp (Topology.callee_eq_some hpeer).2
  have hroute := (Option.ite_none_right_eq_some.mp hcon).1
  cases i with
  | client => exact .inl ⟨rfl, (Option.some.inj (Option.ite_none_right_eq_some.mp hroute).2).symm⟩
  | server => exact .inr ⟨rfl, (Option.some.inj (Option.ite_none_right_eq_some.mp hroute).2).symm⟩
  | destination => cases hroute

section Waiting

variable (order : ByteOrder) (k : Key) (c s d : UInt32) {request response : CString}
  (hreq : request.length ≤ 127) (hresp : response.length ≤ 122)
  {t : Network Host (@SysReply Output) Int}
  (ht : Relation.ReflTransGen (vpnNetwork s d).Moves (exchange order k c s d request response) t)
include ht

include hreq in
lemma not_waitsForCall_client : ¬ (vpnTopology s d).WaitsForCall t .client := by
  rintro ⟨fd, f, hprog, -⟩
  have htrace := (runOf_exchange order k c s d ht .client).trace_call hprog
  have hc := (conforms_clientSession order k (ipAddrText c) (ipAddrText s) (ipAddrText d) hreq).playedBy _ _ _ htrace
  exact hc.elim

include hreq in
/-- The client waits for bytes with its request sent or after a `send` that failed. -/
lemma client_waits {fd : Fd} {n : Nat} (h : (vpnTopology s d).WaitsForBytes t .client fd n) : 0 < n ∧
    ∃ address, (deeds (t .client).log = [.connected fd address port] ∧ Unsent (t .client).log) ∨
      ∃ bytes, bytes ≠ [] ∧ deeds (t .client).log = [.connected fd address port, .sent fd bytes] := by
  obtain ⟨⟨f, hprog⟩, -⟩ := h
  have htrace := (runOf_exchange order k c s d ht .client).trace_call hprog
  have hplayed := (conforms_clientSession order k (ipAddrText c) (ipAddrText s) (ipAddrText d) hreq).playedBy
  obtain ⟨hstage, rfl, address, hds⟩ :=
    (ClientDid.of_trace order k hplayed htrace).of_recv order k (hplayed _ _ _ htrace)
  refine ⟨by decide, address, ?_⟩
  rcases hds with hds | hds
  · obtain ⟨bytes, r, hmem⟩ := send_of_stage hplayed htrace hstage
    refine .inl ⟨hds, fd, bytes, ?_⟩
    cases r with
    | false => exact hmem
    | true =>
      have hdeed : Deed.sent fd bytes ∈ deeds (t .client).log := List.mem_filterMap.mpr ⟨_, hmem, rfl⟩
      rw [hds, List.mem_singleton] at hdeed
      cases hdeed
  · exact .inr hds

lemma serverDid_of_call {call : SysCall Output} {f : SysReply call → VpnProg Int}
    (hprog : (t .server).prog = .call call f) : ∃ stage, ServerStage.Allows order k (some (ipAddrText s)) stage call ∧
      ServerDid order k (some (ipAddrText s)) stage (deeds (t .server).log) := by
  have htrace := (runOf_exchange order k c s d ht .server).trace_call hprog
  have hplayed := (conforms_serverSession order k (ipAddrText s)).playedBy
  exact ⟨_, hplayed _ _ _ htrace, .of_trace order k hplayed htrace⟩

include hresp in
lemma destDid_of_call {call : SysCall Output} {f : SysReply call → VpnProg Int}
    (hprog : (t .destination).prog = .call call f) :
    ∃ stage, DestStage.Allows order response (some (ipAddrText d)) stage call ∧
      DestDid order response (some (ipAddrText d)) stage (deeds (t .destination).log) := by
  have htrace := (runOf_exchange order k c s d ht .destination).trace_call hprog
  have hplayed := (conforms_destSession order (ipAddrText d) hresp).playedBy
  exact ⟨_, hplayed _ _ _ htrace, .of_trace order hplayed htrace⟩

lemma server_accepts (h : (vpnTopology s d).WaitsForCall t .server) :
    deeds (t .server).log = [] := by
  obtain ⟨fd, f, hprog, -⟩ := h
  obtain ⟨stage, hc, hdid⟩ := serverDid_of_call order k c s d ht hprog
  exact hdid.of_accept order k hc

lemma server_waits {fd : Fd} {n : Nat} (h : (vpnTopology s d).WaitsForBytes t .server fd n) : 0 < n ∧
    (deeds (t .server).log = [.accepted fd] ∨ ∃ (c : Fd) (a : Received pktSize) (address bytes : List UInt8),
      bytes ≠ [] ∧ deeds (t .server).log =
        [.accepted c, .received c pktSize a, .connected fd address port, .sent fd bytes]) := by
  obtain ⟨⟨f, hprog⟩, -⟩ := h
  obtain ⟨stage, hc, hdid⟩ := serverDid_of_call order k c s d ht hprog
  obtain ⟨rfl, hds⟩ := hdid.of_recv order k hc
  exact ⟨by decide, hds⟩

include hresp in
lemma destination_accepts (h : (vpnTopology s d).WaitsForCall t .destination) :
    deeds (t .destination).log = [] := by
  obtain ⟨fd, f, hprog, -⟩ := h
  obtain ⟨stage, hc, hdid⟩ := destDid_of_call order k c s d hresp ht hprog
  exact hdid.of_accept order hc

include hresp in
lemma destination_waits {fd : Fd} {n : Nat} (h : (vpnTopology s d).WaitsForBytes t .destination fd n) :
    0 < n ∧ deeds (t .destination).log = [.accepted fd] := by
  obtain ⟨⟨f, hprog⟩, -⟩ := h
  obtain ⟨stage, hc, hdid⟩ := destDid_of_call order k c s d hresp ht hprog
  obtain ⟨rfl, hds⟩ := hdid.of_recv order hc
  exact ⟨by decide, hds⟩

/-- A host that has accepted a connection and done nothing more can receive what was sent to it. -/
lemma exists_sent_of_accepts {i : Host} {fd : Fd} (hds : deeds (t i).log = [.accepted fd]) :
    (vpnTopology s d).peer t.logs i fd = some ((vpnTopology s d).caller i) ∧
    ∃ fd' ∈ (SockLog.connected (t ((vpnTopology s d).caller i)).log).map Prod.fst,
      (vpnTopology s d).unread t.logs i fd = SockLog.sent fd' (t ((vpnTopology s d).caller i)).log := by
  have hfd : fd ∈ SockLog.accepted (t.logs i) := by
    rw [accepted_eq, show deeds (t.logs i) = [.accepted fd] from hds]
    exact List.mem_singleton_self fd
  have hnone : SockLog.received fd (t.logs i) = [] := by
    rw [SockLog.received, receivedOn_eq, show deeds (t.logs i) = [.accepted fd] from hds]
    rfl
  obtain ⟨fd', hdialed, hunread⟩ := (consistent_exchange order k c s d ht).unread_of_accepted hfd hnone
  exact ⟨if_pos hfd, fd', Topology.mem_connected_of_dialed hdialed, hunread⟩

variable (hstuck : ∀ u, ¬ (vpnNetwork s d).Moves t u)
include hstuck

include hresp in
/-- The destination is not left waiting for bytes: a server that has not ended has sent them. -/
lemma not_waitsForBytes_destination {fd : Fd} {n : Nat} :
    ¬ (vpnTopology s d).WaitsForBytes t .destination fd n := by
  intro h
  obtain ⟨hn, hds⟩ := destination_waits order k c s d hresp ht h
  obtain ⟨hpeer', fd', hconnected, hunread⟩ := exists_sent_of_accepts order k c s d ht hds
  obtain ⟨-, hnothing, ⟨j, hpeer⟩, hhere⟩ := h
  obtain rfl : .server = j := Option.some.inj (hpeer'.symm.trans hpeer)
  have hempty : SockLog.sent fd' (t .server).log = [] := hunread.symm.trans (hnothing hn)
  change fd' ∈ (SockLog.connected (t .server).log).map Prod.fst at hconnected
  rw [connected_eq] at hconnected
  rw [SockLog.sent, sentOn_eq] at hempty
  rcases Topology.waits_of_stuck hstuck .server with hend | hcall | ⟨dest, m, hbytes⟩
  · exact hhere ⟨_, hpeer, .inl hend⟩
  · rw [server_accepts order k c s d ht hcall] at hconnected
    exact absurd hconnected List.not_mem_nil
  · rcases (server_waits order k c s d ht hbytes).2 with hserver | ⟨client, a, address, bytes, hne, hserver⟩
    · rw [hserver] at hconnected
      exact absurd hconnected List.not_mem_nil
    · rw [hserver] at hconnected hempty
      obtain rfl := List.mem_singleton.mp hconnected
      refine hne ?_
      simpa [Deed.sentOn] using hempty

include hreq hresp in
/-- The server is left waiting for bytes only when the client has failed to send them. -/
lemma unsent_of_server_waits {fd : Fd} {n : Nat} (h : (vpnTopology s d).WaitsForBytes t .server fd n) :
    Unsent (t .client).log := by
  obtain ⟨hn, hds⟩ := server_waits order k c s d ht h
  obtain ⟨-, hnothing, ⟨j, hpeer⟩, hhere⟩ := h
  rcases hds with hds | ⟨client, a, address, bytes, hne, hds⟩
  · obtain ⟨hpeer', fd', hconnected, hunread⟩ := exists_sent_of_accepts order k c s d ht hds
    obtain rfl : .client = j := Option.some.inj (hpeer'.symm.trans hpeer)
    have hempty : SockLog.sent fd' (t .client).log = [] := hunread.symm.trans (hnothing hn)
    change fd' ∈ (SockLog.connected (t .client).log).map Prod.fst at hconnected
    rw [connected_eq] at hconnected
    rw [SockLog.sent, sentOn_eq] at hempty
    rcases Topology.waits_of_stuck hstuck .client with hend | hcall | ⟨fd, m, hbytes⟩
    · exact absurd ⟨_, hpeer, .inl hend⟩ hhere
    · exact absurd hcall (not_waitsForCall_client order k c s d hreq ht)
    · obtain ⟨-, address, ⟨-, hunsent⟩ | ⟨bytes, hne, hclient⟩⟩ := client_waits order k c s d hreq ht hbytes
      · exact hunsent
      · rw [hclient] at hconnected hempty
        obtain rfl := List.mem_singleton.mp hconnected
        exact absurd (by simpa [Deed.sentOn] using hempty) hne
  · have hconnected : (fd, address, port) ∈ SockLog.connected (t.logs .server) := by
      rw [connected_eq, show deeds (t.logs .server) = _ from hds]
      exact List.mem_singleton_self _
    have hfd := ((consistent_exchange order k c s d ht).separate .server _ hconnected).2
    obtain ⟨hclient, -⟩ | ⟨-, rfl⟩ := callee_of_peer s d hpeer hfd
    · cases hclient
    rcases Topology.waits_of_stuck hstuck .destination with hend | hcall | ⟨fd, m, hbytes⟩
    · exact absurd ⟨_, hpeer, .inl hend⟩ hhere
    · have haccepted : SockLog.accepted (t.logs .destination) = [] := by
        rw [accepted_eq, show deeds (t.logs .destination) = [] from destination_accepts order k c s d hresp ht hcall]
        rfl
      obtain ⟨-, -, -, huncalled⟩ := hcall
      exact absurd (Topology.called_of_peer hpeer hfd haccepted) huncalled
    · exact absurd hbytes (not_waitsForBytes_destination order k c s d hresp ht hstuck)

include hreq hresp in
/-- The client is left waiting for bytes only when it has failed to send its request. -/
lemma unsent_of_client_waits {fd : Fd} {n : Nat} (h : (vpnTopology s d).WaitsForBytes t .client fd n) :
    Unsent (t .client).log := by
  obtain ⟨-, address, ⟨-, hunsent⟩ | ⟨bytes, hne, hds⟩⟩ := client_waits order k c s d hreq ht h
  · exact hunsent
  obtain ⟨-, -, ⟨j, hpeer⟩, hhere⟩ := h
  have hfd : fd ∉ SockLog.accepted (t.logs .client) := by
    rw [accepted_eq, show deeds (t.logs .client) = _ from hds]
    exact List.not_mem_nil
  obtain ⟨-, rfl⟩ | ⟨hserver, -⟩ := callee_of_peer s d hpeer hfd
  case inr => cases hserver
  rcases Topology.waits_of_stuck hstuck .server with hend | hcall | ⟨fd, m, hbytes⟩
  · exact absurd ⟨_, hpeer, .inl hend⟩ hhere
  · have haccepted : SockLog.accepted (t.logs .server) = [] := by
      rw [accepted_eq, show deeds (t.logs .server) = [] from server_accepts order k c s d ht hcall]
      rfl
    obtain ⟨-, -, -, huncalled⟩ := hcall
    exact absurd (Topology.called_of_peer hpeer hfd haccepted) huncalled
  · exact unsent_of_server_waits order k c s d hreq hresp ht hstuck hbytes

omit hstuck in
include hreq hresp in
/-- The network cannot go on exactly when each host has ended or is left waiting. -/
lemma stuck_iff_leftWaiting :
    (∀ u, ¬ (vpnNetwork s d).Moves t u) ↔ ∀ i, (t i).Ended ∨ LeftWaiting (vpnTopology s d) t i := by
  rw [Topology.stuck_iff_waits]
  constructor
  · intro h i
    have hstuck := Topology.stuck_iff_waits.mpr h
    rcases h i with hend | hcall | ⟨fd, n, hbytes⟩
    · exact .inl hend
    · cases i with
      | client => exact absurd hcall (not_waitsForCall_client order k c s d hreq ht)
      | server => exact .inr (.inl hcall)
      | destination => exact .inr hcall
    · cases i with
      | client => exact .inr ⟨unsent_of_client_waits order k c s d hreq hresp ht hstuck hbytes, fd, n, hbytes⟩
      | server => exact .inr (.inr ⟨unsent_of_server_waits order k c s d hreq hresp ht hstuck hbytes, fd, n, hbytes⟩)
      | destination => exact absurd hbytes (not_waitsForBytes_destination order k c s d hresp ht hstuck)
  · intro h i
    refine (h i).imp id fun hleft => ?_
    cases i with
    | client => exact .inr hleft.2
    | server => exact hleft.imp id fun hleft => hleft.2
    | destination => exact .inl hleft

end Waiting

section Runs

variable (order : ByteOrder) (k : Key) (c s d : UInt32) {request response : CString}
  (hreq : request.length ≤ 127) (hresp : response.length ≤ 122)
include hreq hresp

/-- Whatever fails on the network, every run has at most 41 steps, and it goes on until each host has ended, or is left
waiting since nobody has called it or since the client has failed to send its request. As long as nothing fails, it
goes on until all programs have returned 0, after 40 steps. -/
theorem exchange_terminates :
    (∀ n t, RunsIn (vpnNetwork s d).Moves (exchange order k c s d request response) n t →
      n ≤ 41 ∧ ((∀ u, ¬ (vpnNetwork s d).Moves t u) ↔ ∀ i, (t i).Ended ∨ LeftWaiting (vpnTopology s d) t i)) ∧
    ∀ n t, RunsIn (calmNetwork s d).Moves (exchange order k c s d request response) n t →
      n ≤ 40 ∧ ((∀ u, ¬ (calmNetwork s d).Moves t u) ↔ n = 40) ∧ (n = 40 ↔ ∀ i, (t i).prog = .ret 0) := by
  constructor
  · intro n t ht
    refine ⟨?_, stuck_iff_leftWaiting order k c s d hreq hresp ht.reaches⟩
    let bound : Host → Nat
      | .client => 11
      | .server => 19
      | .destination => 11
    have hwithin (i : Host) : (exchange order k c s d request response i).prog.Within (bound i) := by
      cases i with
      | client => exact within_clientSession order k _ _ _ hreq
      | server => exact within_serverSession order k _
      | destination => exact within_destSession order _ hresp
    exact Environment.length_le_of_within hwithin ht
  · intro n t ht
    obtain ⟨view, f, hend, hlogs, hf⟩ := endsCalmly_exchange order k c s d hreq hresp
    have hsize : f.size = 40 := by
      unfold Network.size
      rw [hlogs]
      rfl
    obtain ⟨hle, hstuck, hlast⟩ := hf.stuck_iff ht
    rw [hsize] at hle hstuck hlast
    refine ⟨hle, hstuck, hlast.trans ⟨fun h i => h ▸ hend i, fun hret => ?_⟩⟩
    have hreach := hf.reaches.of_ended hf.ended (Topology.reaches_of_calm ht.reaches)
    exact (Network.Ended.eq_of_reaches (fun i => ⟨0, hret i⟩) hreach).symm

end Runs

section Hosts

variable {E : Environment Host (@SysReply Output) Int}

lemma moves_call {s : Network Host (@SysReply Output) Int} (i : Host) {c : SysCall Output}
    {f : SysReply c → VpnProg Int} (r : SysReply c) (h : (s i).prog = .call c f) (hr : E.replies s i c r) :
    E.Moves s (Function.update s i ⟨f r, (s i).log ++ [.call c r]⟩) :=
  ⟨i, _, .call h hr, rfl⟩

/-- The client connects before the server listens and is refused. -/
lemma exists_refused : ∃ t : Network Host (@SysReply Output) Int,
    RunsIn (vpnNetwork 0x0A000002 0x0A000003).Moves
      (exchange .little key 0x0A000001 0x0A000002 0x0A000003 clientPayload responseMsg) 13 t ∧
    (t .client).prog = .ret (-1) ∧ (∃ f, (t .server).prog = .call (.accept 3) f) ∧
    (∃ f, (t .destination).prog = .call (.accept 3) f) ∧
    SockLog.connected (t .client).log = [] ∧ SockLog.connected (t .server).log = [] := by
  have h : RunsIn (vpnNetwork 0x0A000002 0x0A000003).Moves
    (exchange .little key 0x0A000001 0x0A000002 0x0A000003 clientPayload responseMsg) 0 _ := .refl
  have h := h.tail (moves_call .client (some 3) rfl fun fd hfd => (Option.some.inj hfd).symm)
  have h := h.tail (moves_call .client (some (networkOctets 0x0A000002)) rfl (by exact (inetPton_ipAddrText 0x0A000002).symm))
  have h := h.tail (moves_call .client false rfl fun h => nomatch h)
  have h := h.tail (moves_call .client () rfl trivial)
  have h := h.tail (moves_call .client () rfl trivial)
  have h := h.tail (moves_call .server (some 3) rfl fun fd hfd => (Option.some.inj hfd).symm)
  have h := h.tail (moves_call .server true rfl trivial)
  have h := h.tail (moves_call .server true rfl trivial)
  have h := h.tail (moves_call .server true rfl trivial)
  have h := h.tail (moves_call .destination (some 3) rfl fun fd hfd => (Option.some.inj hfd).symm)
  have h := h.tail (moves_call .destination true rfl trivial)
  have h := h.tail (moves_call .destination true rfl trivial)
  have h := h.tail (moves_call .destination true rfl trivial)
  exact ⟨_, h, rfl, ⟨_, rfl⟩, ⟨_, rfl⟩, rfl, rfl⟩

/-- A client that is refused returns -1 and leaves the other two hosts waiting. A run in which nothing fails has 40
steps. -/
theorem exchange_terminates_hosts :
    (∃ t, RunsIn (vpnNetwork 0x0A000002 0x0A000003).Moves
        (exchange .little key 0x0A000001 0x0A000002 0x0A000003 clientPayload responseMsg) 13 t ∧
      (t .client).prog = .ret (-1) ∧ ∀ u, ¬ (vpnNetwork 0x0A000002 0x0A000003).Moves t u) ∧
    ∃ t, RunsIn (calmNetwork 0x0A000002 0x0A000003).Moves
        (exchange .little key 0x0A000001 0x0A000002 0x0A000003 clientPayload responseMsg) 40 t ∧
      ∀ i, (t i).prog = .ret 0 := by
  obtain ⟨hnetwork, hcalm⟩ := exchange_terminates .little key 0x0A000001 0x0A000002 0x0A000003
    (show clientPayload.length ≤ 127 by decide) (show responseMsg.length ≤ 122 by decide)
  constructor
  · obtain ⟨t, ht, hclient, ⟨f, hserver⟩, ⟨g, hdest⟩, hdialed, hforwarded⟩ := exists_refused
    refine ⟨t, ht, hclient, (hnetwork 13 t ht).2.mpr fun i => ?_⟩
    have huncalled {i j : Host} (h : SockLog.connected (t.logs i) = [])
        (hj : (vpnTopology 0x0A000002 0x0A000003).caller j = i) :
        ¬ (vpnTopology 0x0A000002 0x0A000003).Called t.logs j := by
      rw [Topology.Called, hj, Topology.dialed, h]
      exact Nat.not_lt_zero _
    cases i with
    | client => exact .inl (.inl ⟨-1, hclient⟩)
    | server => exact .inr (.inl ⟨3, f, hserver, huncalled hdialed rfl⟩)
    | destination => exact .inr ⟨3, g, hdest, huncalled hforwarded rfl⟩
  · obtain ⟨view, f, hend, -, hf⟩ := endsCalmly_exchange .little key 0x0A000001 0x0A000002 0x0A000003
      (show clientPayload.length ≤ 127 by decide) (show responseMsg.length ≤ 122 by decide)
    have hrun := hf.runsIn_size
    have hsize : f.size = 40 := (hcalm _ f hrun).2.2.mpr hend
    exact ⟨f, hsize ▸ hrun, hend⟩

end Hosts

end SimpleVpn
