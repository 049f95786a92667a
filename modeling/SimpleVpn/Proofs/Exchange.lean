import SimpleVpn.Model.Exchange
import SimpleVpn.Proofs.Scripts

/-!
# A whole exchange

One schedule of the three programs is followed from the first socket call to the end. The order of
the steps does not matter, so every run leads to the same end, and there the addresses are read off
what the hosts have done.
-/

namespace SimpleVpn

open CLang

def logsOf (client server destination : List VpnEvent) : Logs Host (@SysReply Output)
  | .client => client
  | .server => server
  | .destination => destination

section Logs

variable (c s d log : List VpnEvent)

lemma update_client : Function.update (logsOf c s d) .client log = logsOf log s d := by
  funext i
  cases i <;> rfl

lemma update_server : Function.update (logsOf c s d) .server log = logsOf c log d := by
  funext i
  cases i <;> rfl

lemma update_destination : Function.update (logsOf c s d) .destination log = logsOf c s log := by
  funext i
  cases i <;> rfl

end Logs

section Answers

variable (serverAddr destAddr : UInt32)

lemma route_server :
    (vpnTopology serverAddr destAddr).route .client (networkOctets serverAddr) port = some .server :=
  if_pos ⟨rfl, rfl⟩

lemma route_destination :
    (vpnTopology serverAddr destAddr).route .server (networkOctets destAddr) port =
      some .destination :=
  if_pos ⟨rfl, rfl⟩

lemma listens_listenEvents : SockLog.Listens (listenEvents 3) port :=
  ⟨3, List.mem_singleton_self 3, List.mem_singleton_self (3, port)⟩

variable (client server destination : List VpnEvent)

lemma answered_server_listen :
    Network.Answered (vpnService serverAddr destAddr) .server (logsOf client [] destination)
      (listenEvents 3) :=
  ⟨rfl, rfl, rfl, rfl, trivial⟩

lemma answered_destination_listen :
    Network.Answered (vpnService serverAddr destAddr) .destination (logsOf client server [])
      (listenEvents 3) :=
  ⟨rfl, rfl, rfl, rfl, trivial⟩

lemma answered_request (view : PacketView) (bytes : List UInt8) :
    Network.Answered (vpnService serverAddr destAddr) .client (logsOf [] (listenEvents 3) destination)
      (requestEvents (ipAddrText serverAddr) (networkOctets serverAddr) view bytes) := by
  refine ⟨rfl, ?_, ?_, rfl, rfl, rfl, rfl, trivial⟩
  · exact congrArg some (inetPton_ipAddrText serverAddr)
  · exact Topology.answer_connect (route_server serverAddr destAddr) listens_listenEvents

lemma answered_relay (order : ByteOrder) (serverIp : CString) (view : PacketView)
    (bytes : Received pktSize) {p : Packet} (hp : (p.ipHdr order).ipDst = destAddr) :
    Network.Answered (vpnService serverAddr destAddr) .server
      (logsOf (requestEvents (ipAddrText serverAddr) (networkOctets serverAddr) view bytes.val)
        (listenEvents 3) (listenEvents 3))
      (acceptEvents ++ relayEvents order 4 5 serverIp bytes p (networkOctets destAddr)) := by
  have hroute := route_server serverAddr destAddr
  rw [relayEvents, hp]
  refine ⟨?_, ?_, rfl, rfl, ?_, ?_, rfl, rfl, rfl, trivial⟩
  · exact Topology.answer_accept hroute rfl rfl rfl
  · exact Topology.answer_recv (Topology.remote_of_accepted hroute rfl rfl rfl) rfl rfl bytes.property
  · exact congrArg some (inetPton_ipAddrText destAddr)
  · exact Topology.answer_connect (route_destination serverAddr destAddr) listens_listenEvents

lemma answered_answer (order : ByteOrder) (serverIp : CString) (bytes : Received pktSize)
    (bytes' : Received destPktSize) {p : Packet} (hsent : (p.relayed order serverIp).inner = bytes'.val)
    (view view' : PacketView) (sent : List UInt8) :
    Network.Answered (vpnService serverAddr destAddr) .destination
      (logsOf client (listenEvents 3 ++ (acceptEvents ++
        relayEvents order 4 5 serverIp bytes p (networkOctets destAddr))) (listenEvents 3))
      (acceptEvents ++ answerEvents bytes' view view' sent) := by
  have hroute := route_destination serverAddr destAddr
  rw [relayEvents, hsent]
  refine ⟨?_, ?_, rfl, rfl, rfl, rfl, rfl, trivial⟩
  · exact Topology.answer_accept hroute rfl rfl rfl
  · exact Topology.answer_recv (Topology.remote_of_accepted hroute rfl rfl rfl) rfl rfl bytes'.property

lemma answered_reply (order : ByteOrder) (k : Key) (serverIp : CString) (bytes bytes' : Received pktSize)
    (bytesDest : Received destPktSize) (p q : Packet) (view view' : PacketView) :
    Network.Answered (vpnService serverAddr destAddr) .server
      (logsOf client (listenEvents 3 ++ (acceptEvents ++
          relayEvents order 4 5 serverIp bytes p (networkOctets destAddr)))
        (listenEvents 3 ++ (acceptEvents ++ answerEvents bytesDest view view' bytes'.val)))
      (replyEvents order k 4 5 bytes' q ++ shutdownEvents) := by
  have hroute := route_destination serverAddr destAddr
  refine ⟨?_, rfl, rfl, rfl, rfl, trivial⟩
  refine Topology.answer_recv (Topology.remote_of_dialed hroute rfl rfl rfl ?_) rfl rfl bytes'.property
  change (5 : Nat) ∉ [4]
  decide

lemma answered_response (order : ByteOrder) (k : Key) (serverIp : CString)
    (bytes bytes' bytesCli : Received pktSize) (p q : Packet) (view view' : PacketView)
    (hsent : wire k (.textOf q.field) (q.bytes.take 46) = bytesCli.val) (sent : List UInt8) :
    Network.Answered (vpnService serverAddr destAddr) .client
      (logsOf (requestEvents (ipAddrText serverAddr) (networkOctets serverAddr) view sent)
        (listenEvents 3 ++ (acceptEvents ++
          relayEvents order 4 5 serverIp bytes p (networkOctets destAddr)) ++
          (replyEvents order k 4 5 bytes' q ++ shutdownEvents)) destination)
      (responseEvents bytesCli view') := by
  have hroute := route_server serverAddr destAddr
  rw [replyEvents, hsent]
  refine ⟨?_, rfl, rfl, trivial⟩
  refine Topology.answer_recv (Topology.remote_of_dialed hroute rfl rfl rfl ?_) rfl rfl
    bytesCli.property
  exact List.not_mem_nil

end Answers

/-- Each host runs until it waits for another one. -/
def exchangeSchedule (request relay answer reply response : List VpnEvent) :
    Network.Schedule Host (@SysReply Output) :=
  [(.server, listenEvents 3), (.destination, listenEvents 3), (.client, request),
    (.server, acceptEvents ++ relay), (.destination, acceptEvents ++ answer),
    (.server, reply ++ shutdownEvents), (.client, response)]

section Schedules

variable (request relay answer reply response : List VpnEvent)

lemma eventsOf_client :
    Network.eventsOf .client (exchangeSchedule request relay answer reply response) =
      request ++ response := by
  simp [Network.eventsOf, exchangeSchedule]

lemma eventsOf_server :
    Network.eventsOf .server (exchangeSchedule request relay answer reply response) =
      listenEvents 3 ++ (acceptEvents ++ (relay ++ (reply ++ shutdownEvents))) := by
  simp [Network.eventsOf, exchangeSchedule]

lemma eventsOf_destination :
    Network.eventsOf .destination (exchangeSchedule request relay answer reply response) =
      listenEvents 3 ++ (acceptEvents ++ answer) := by
  simp [Network.eventsOf, exchangeSchedule]

end Schedules

section Packets

variable (order : ByteOrder) (k : Key) (c s d : UInt32) {request response : CString}
  (hreq : request.length ≤ 127) (hresp : response.length ≤ 122)

/-- What the server decrypts. -/
def relayedPacket : Packet :=
  messagePacket order (ipAddrText c) (ipAddrText d) tcpFlagSyn (deliveredField k request)
    (length_deliveredField k request hreq)

/-- What the destination builds. -/
def answerPacket : Packet :=
  responsePacket order (ipAddrText d) (ipAddrText s) (hresp.trans (by decide))

/-- What the client decrypts. -/
def replyPacket : Packet :=
  ((answerPacket order s d hresp).returned order (ipAddrText c)).withField (deliveredField k response)
    (length_deliveredField k response (hresp.trans (by decide)))

lemma addresses_messagePacket (ipSrc ipDest : CString) (flags : UInt8) (field : List UInt8)
    (h : field.length = 128) :
    ((messagePacket order ipSrc ipDest flags field h).ipHdr order).ipSrc = parseIpAddr ipSrc ∧
      ((messagePacket order ipSrc ipDest flags field h).ipHdr order).ipDst = parseIpAddr ipDest := by
  rw [ipHdr_messagePacket]
  exact ⟨rfl, rfl⟩

lemma ipSrc_relayedPacket : ((relayedPacket order k c d hreq).ipHdr order).ipSrc = c :=
  (addresses_messagePacket order _ _ _ _ _).1.trans (parseIpAddr_ipAddrText c)

lemma ipDst_relayedPacket : ((relayedPacket order k c d hreq).ipHdr order).ipDst = d :=
  (addresses_messagePacket order _ _ _ _ _).2.trans (parseIpAddr_ipAddrText d)

/-- The packet that the server forwards. -/
def forwardedPacket : Packet := (relayedPacket order k c d hreq).relayed order (ipAddrText s)

lemma ipSrc_forwardedPacket : ((forwardedPacket order k c s d hreq).ipHdr order).ipSrc = s := by
  rw [forwardedPacket, Packet.ipSrc_relayed, parseIpAddr_ipAddrText]

lemma ipDst_forwardedPacket : ((forwardedPacket order k c s d hreq).ipHdr order).ipDst = d := by
  rw [forwardedPacket, Packet.ipDst_relayed, ipDst_relayedPacket]

lemma ipSrc_answerPacket : ((answerPacket order s d hresp).ipHdr order).ipSrc = d :=
  (addresses_messagePacket order _ _ _ _ _).1.trans (parseIpAddr_ipAddrText d)

lemma ipDst_answerPacket : ((answerPacket order s d hresp).ipHdr order).ipDst = s :=
  (addresses_messagePacket order _ _ _ _ _).2.trans (parseIpAddr_ipAddrText s)

lemma ipHdr_replyPacket : (replyPacket order k c s d hresp).ipHdr order =
    ((answerPacket order s d hresp).returned order (ipAddrText c)).ipHdr order := rfl

lemma ipSrc_replyPacket : ((replyPacket order k c s d hresp).ipHdr order).ipSrc = d := by
  rw [ipHdr_replyPacket, Packet.ipSrc_returned, ipSrc_answerPacket]

lemma ipDst_replyPacket : ((replyPacket order k c s d hresp).ipHdr order).ipDst = c := by
  rw [ipHdr_replyPacket, Packet.ipDst_returned, parseIpAddr_ipAddrText]

lemma exists_toServer : ∃ bytes : Received pktSize,
    wire k request (header order (ipAddrText c) (ipAddrText d) ipProtocolTcp tcpFlagSyn) = bytes.val ∧
      recover k (received pktSize bytes) = pure (relayedPacket order k c d hreq).bytes :=
  recover_request order k (ipAddrText c) (ipAddrText d) hreq

lemma exists_toClient : ∃ bytes : Received pktSize,
    wire k (.textOf ((answerPacket order s d hresp).returned order (ipAddrText c)).field)
        (((answerPacket order s d hresp).returned order (ipAddrText c)).bytes.take 46) = bytes.val ∧
      recover k (received pktSize bytes) = pure (replyPacket order k c s d hresp).bytes := by
  have htext : CString.textOf ((answerPacket order s d hresp).returned order (ipAddrText c)).field =
      response := textOf_messageField response (hresp.trans (by decide))
  rw [htext]
  exact exists_received k _ (hresp.trans (by decide))

end Packets

/-- The IP header at index `i` of a packet has the addresses `src` and `dst`. -/
def Carries (order : ByteOrder) (packet : Buf) (i : Nat) (src dst : UInt32) : Prop :=
  ∃ ip, loadIpHdr order packet i = pure ip ∧ ip.ipSrc = src ∧ ip.ipDst = dst

/-- The texts that a host has parsed in order to connect. -/
def connectTexts (log : List VpnEvent) : List CString :=
  log.filterMap fun e => match e with
    | .call (.inetPton text) _ => some text
    | _ => none

/-- The addresses of the packets that a host has printed. -/
def shown (log : List VpnEvent) : List (UInt32 × UInt32) :=
  log.filterMap fun e => match e with
    | .call (.print (.packet view)) _ => some (view.ip.ipSrc, view.ip.ipDst)
    | _ => none

/-- What the hosts have done with the addresses of client, server and destination. -/
structure AddressesSurvive (order : ByteOrder) (k : Key) (c s d : UInt32)
    (logs : Logs Host (@SysReply Output)) : Prop where
  /-- The server connects to the text of the destination. -/
  connects : connectTexts (logs .server) = [ipAddrText d]
  /-- The destination receives a packet from the server. -/
  receives : ∃ bytes, SockLog.receivedOn 4 (logs .destination) = [bytes] ∧ Carries order bytes 0 s d
  /-- The destination's response is addressed to the server. -/
  responds : ∃ bytes, SockLog.sentOn 4 (logs .destination) = [bytes] ∧ Carries order bytes 0 d s
  /-- The client decrypts a packet from the destination to itself. -/
  decrypts : ∃ (bytes : Received pktSize) (packet : Buf),
    SockLog.receivedOn 3 (logs .client) = [bytes.val] ∧
    CLang.receives (servRecFromCli k 3) [bytes.val] = pure (some packet) ∧
    Carries order packet sizeofGreHdr d c
  /-- The hosts print these addresses. -/
  prints : shown (logs .server) = [(c, d), (d, c)] ∧ shown (logs .destination) = [(s, d), (d, s)] ∧
    ∃ first, shown (logs .client) = [first, (d, c)]

section Result

variable (order : ByteOrder) (k : Key) (c s d : UInt32)

lemma follows_exchange (toServer fromDest : Received pktSize) {toClient : Received pktSize}
    {toDest : Received destPktSize}
    {p q : Packet} (hp : (p.ipHdr order).ipDst = d)
    (hforward : (p.relayed order (ipAddrText s)).inner = toDest.val)
    (hreturn : wire k (.textOf q.field) (q.bytes.take 46) = toClient.val)
    (request received answer reply : PacketView) :
    Network.Follows (vpnService s d) (logsOf [] [] [])
      (exchangeSchedule (requestEvents (ipAddrText s) (networkOctets s) request toServer.val)
        (relayEvents order 4 5 (ipAddrText s) toServer p (networkOctets d))
        (answerEvents toDest received answer fromDest.val) (replyEvents order k 4 5 fromDest q)
        (responseEvents toClient reply)) := by
  refine ⟨answered_server_listen s d [] [], ?_⟩
  rw [update_server]
  refine ⟨answered_destination_listen s d [] _, ?_⟩
  rw [update_destination]
  refine ⟨answered_request s d _ request toServer.val, ?_⟩
  rw [update_client]
  refine ⟨answered_relay s d order (ipAddrText s) request toServer hp, ?_⟩
  rw [update_server]
  refine ⟨answered_answer s d _ order (ipAddrText s) toServer toDest hforward received answer _, ?_⟩
  rw [update_destination]
  refine ⟨answered_reply s d _ order k (ipAddrText s) toServer fromDest toDest p q received answer, ?_⟩
  rw [update_server]
  exact ⟨answered_response s d _ order k (ipAddrText s) toServer fromDest toClient p q request reply
    hreturn _, trivial⟩

lemma carries_inner (p : Packet) : Carries order p.inner 0 (p.ipHdr order).ipSrc (p.ipHdr order).ipDst :=
  ⟨_, loadIpHdr_inner order p, rfl, rfl⟩

lemma carries_bytes (p : Packet) :
    Carries order p.bytes sizeofGreHdr (p.ipHdr order).ipSrc (p.ipHdr order).ipDst :=
  ⟨_, loadIpHdr_bytes order p, rfl, rfl⟩

/-- A packet that is cut behind its IP header carries the same addresses. -/
lemma carries_take (p : Packet) {n : Nat} (hn : sizeofIpHdr ≤ n) :
    Carries order (p.inner.take n) 0 (p.ipHdr order).ipSrc (p.ipHdr order).ipDst := by
  refine ⟨_, ?_, rfl, rfl⟩
  have htake : p.inner.take n = [] ++ p.ip ++ (p.tcp ++ p.field).take (n - sizeofIpHdr) := by
    rw [Packet.inner, List.take_append, p.length_ip, List.take_of_length_le (by rw [p.length_ip]; exact hn),
      List.nil_append]
  rw [htake]
  exact loadIpHdr_append order _ rfl p.length_ip

/-- Three programs that do the events of the schedule run to their end, and so does every run. -/
lemma exchange_runs {request response : CString} {req relay answer reply resp : List VpnEvent}
    (hclient : Prog.Trace (clientSession order k (ipAddrText c) (ipAddrText s) (ipAddrText d) request)
      (req ++ resp) (pure 0))
    (hserver : Prog.Trace (serverSession order k (ipAddrText s))
      (listenEvents 3 ++ (acceptEvents ++ (relay ++ (reply ++ shutdownEvents)))) (pure 0))
    (hdestination : Prog.Trace (destSession order (ipAddrText d) response)
      (listenEvents 3 ++ (acceptEvents ++ answer)) (pure 0))
    (hfollows : Network.Follows (vpnService s d) (logsOf [] [] [])
      (exchangeSchedule req relay answer reply resp)) :
    ∃ f : Network Host (@SysReply Output) Int, (∀ i, (f i).prog = .ret 0) ∧
      f.logs = logsOf (req ++ resp)
        (listenEvents 3 ++ (acceptEvents ++ (relay ++ (reply ++ shutdownEvents))))
        (listenEvents 3 ++ (acceptEvents ++ answer)) ∧
      Network.Reaches (vpnService s d) (exchange order k c s d request response) f ∧
      ∀ t, Network.Reaches (vpnService s d) (exchange order k c s d request response) t →
        Network.Reaches (vpnService s d) t f := by
  let start := exchange order k c s d request response
  let schedule := exchangeSchedule req relay answer reply resp
  have hlogs : start.logs = logsOf [] [] [] := by
    funext i
    cases i <;> rfl
  have htrace : ∀ i, Prog.Trace (start i).prog (Network.eventsOf i schedule) (.ret 0) := by
    intro i
    cases i with
    | client =>
      rw [eventsOf_client]
      exact hclient
    | server =>
      rw [eventsOf_server]
      exact hserver
    | destination =>
      rw [eventsOf_destination]
      exact hdestination
  have hrun := Network.reaches_of_schedule htrace (by rw [hlogs]; exact hfollows)
  refine ⟨_, fun _ => rfl, ?_, hrun, ?_⟩
  · funext i
    cases i with
    | client => exact eventsOf_client ..
    | server => exact eventsOf_server ..
    | destination => exact eventsOf_destination ..
  · intro t ht
    exact hrun.of_ended (fun i => ⟨0, rfl⟩) ht

def addresses (p : Packet) : UInt32 × UInt32 := ((p.ipHdr order).ipSrc, (p.ipHdr order).ipDst)

lemma survive_logsOf {request response : CString} (hreq : request.length ≤ 127)
    (hresp : response.length ≤ 122) (toServer fromDest : Received pktSize) {toClient : Received pktSize}
    (hreply : recover k (received pktSize toClient) = pure (replyPacket order k c s d hresp).bytes)
    (view : PacketView) :
    let p := forwardedPacket order k c s d hreq
    let q := answerPacket order s d hresp
    let r := replyPacket order k c s d hresp
    AddressesSurvive order k c s d (logsOf
      (requestEvents (ipAddrText s) (networkOctets s) view toServer.val ++
        responseEvents toClient (viewOf order r (some (GreHdr.ofBytes order r.gre))))
      (listenEvents 3 ++ (acceptEvents ++
        (relayEvents order 4 5 (ipAddrText s) toServer (relayedPacket order k c d hreq) (networkOctets d) ++
        (replyEvents order k 4 5 fromDest (q.returned order (ipAddrText c)) ++ shutdownEvents))))
      (listenEvents 3 ++ (acceptEvents ++ answerEvents ⟨p.inner, p.length_inner.le⟩ (viewOf order p none)
        (viewOf order q none) (q.inner.take (46 + response.length))))) := by
  intro p q r
  have hp := carries_inner order p
  have hsize : sizeofIpHdr ≤ 46 + response.length := by
    rw [sizeofIpHdr]
    omega
  have hq := carries_take order q hsize
  have hr := carries_bytes order r
  rw [ipSrc_forwardedPacket, ipDst_forwardedPacket] at hp
  rw [ipSrc_answerPacket, ipDst_answerPacket] at hq
  rw [ipSrc_replyPacket, ipDst_replyPacket] at hr
  refine ⟨?_, ⟨_, rfl, hp⟩, ⟨_, rfl, hq⟩, ⟨toClient, _, rfl, ?_, hr⟩, ?_, ?_, ?_⟩
  · change [ipAddrText ((relayedPacket order k c d hreq).ipHdr order).ipDst] = _
    rw [ipDst_relayedPacket]
  · rw [receives_servRecFromCli, next_singleton, hreply, map_pure]
  · change [addresses order (relayedPacket order k c d hreq),
      addresses order (q.returned order (ipAddrText c))] = _
    rw [addresses, addresses, ipSrc_relayedPacket, ipDst_relayedPacket, Packet.ipSrc_returned,
      Packet.ipDst_returned, ipSrc_answerPacket, parseIpAddr_ipAddrText]
  · change [addresses order p, addresses order q] = _
    rw [addresses, addresses, ipSrc_forwardedPacket, ipDst_forwardedPacket, ipSrc_answerPacket,
      ipDst_answerPacket]
  · refine ⟨(view.ip.ipSrc, view.ip.ipDst), ?_⟩
    change [_, addresses order r] = _
    rw [addresses, ipSrc_replyPacket, ipDst_replyPacket]

/-- Every run of the three programs can be continued to one end, in which all of them have
returned and the addresses have survived. -/
theorem addresses_survive {request response : CString} (hreq : request.length ≤ 127)
    (hresp : response.length ≤ 122) :
    ∃ f : Network Host (@SysReply Output) Int,
      (∀ i, (f i).prog = .ret 0) ∧ AddressesSurvive order k c s d f.logs ∧
      Network.Reaches (vpnService s d) (exchange order k c s d request response) f ∧
      ∀ t, Network.Reaches (vpnService s d) (exchange order k c s d request response) t →
        Network.Reaches (vpnService s d) t f := by
  let p := forwardedPacket order k c s d hreq
  let q := answerPacket order s d hresp
  have hresp' : response.length ≤ 127 := hresp.trans (by decide)
  obtain ⟨toServer, hsend, hrelayed⟩ := exists_toServer order k c d hreq
  obtain ⟨toClient, hreturn, hreply⟩ := exists_toClient order k c s d hresp
  let toDest : Received destPktSize := ⟨p.inner, p.length_inner.le⟩
  have hdest : received destPktSize toDest = p.inner := received_of_length p.length_inner
  have hshort : (q.inner.take (46 + response.length)).length ≤ pktSize := by
    rw [List.length_take, Packet.length_inner]
    exact (Nat.min_le_right _ _).trans (by decide)
  have hwrapped := wrapped_response order (ipAddrText d) (ipAddrText s) hresp
    ⟨_, hshort⟩ rfl
  obtain ⟨view, hclient⟩ := trace_clientSession order k (ipAddrText c) (ipAddrText s) (ipAddrText d) hreq
    (networkOctets s) hreply (zero_mem_deliveredField k response hresp')
  have hserver := trace_serverSession order k (ipAddrText s) (networkOctets d) hrelayed
    (zero_mem_deliveredField k request hreq) hwrapped (zero_mem_messageField response hresp')
  have hdestination := trace_destSession order (ipAddrText d) hresp hdest
    (zero_mem_deliveredField k request hreq)
  rw [hsend] at hclient
  rw [ipSrc_relayedPacket] at hserver
  rw [ipSrc_forwardedPacket] at hdestination
  have hforward : ((relayedPacket order k c d hreq).relayed order (ipAddrText s)).inner = toDest.val := rfl
  have hfollows := follows_exchange order k s d toServer ⟨_, hshort⟩
    (ipDst_relayedPacket order k c d hreq) hforward hreturn view (viewOf order p none)
    (viewOf order q none) (viewOf order (replyPacket order k c s d hresp)
      (some (GreHdr.ofBytes order (replyPacket order k c s d hresp).gre)))
  obtain ⟨f, hend, hlogs, hrun, hevery⟩ := exchange_runs order k c s d hclient hserver hdestination
    hfollows
  refine ⟨f, hend, ?_, hrun, hevery⟩
  rw [hlogs]
  exact survive_logsOf order k c s d hreq hresp toServer _ hreply view

end Result

theorem addresses_survive_hosts :
    ∃ f : Network Host (@SysReply Output) Int,
      (∀ i, (f i).prog = .ret 0) ∧
      AddressesSurvive .little key 0x0A000001 0x0A000002 0x0A000003 f.logs ∧
      Network.Reaches (vpnService 0x0A000002 0x0A000003)
        (exchange .little key 0x0A000001 0x0A000002 0x0A000003 clientPayload responseMsg) f ∧
      ∀ t, Network.Reaches (vpnService 0x0A000002 0x0A000003)
        (exchange .little key 0x0A000001 0x0A000002 0x0A000003 clientPayload responseMsg) t →
        Network.Reaches (vpnService 0x0A000002 0x0A000003) t f :=
  addresses_survive .little key 0x0A000001 0x0A000002 0x0A000003 (by decide) (by decide)

end SimpleVpn
