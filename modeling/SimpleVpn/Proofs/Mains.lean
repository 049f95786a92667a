import SimpleVpn.Proofs.Roles
import SimpleVpn.Proofs.Runs

/-!
# The programs from their arguments on

Three programs whose arguments name three hosts exchange their messages in every order of the steps, and
display what they should.
-/

namespace SimpleVpn

open CLang

section Arguments

lemma mem_of_getHostIpLoop {name ip : CString} {table : List (CString × CString)}
    (h : getHostIpLoop name table = some ip) : (name, ip) ∈ table := by
  induction table with
  | nil => cases h
  | cons host rest ih =>
    obtain ⟨name', ip'⟩ := host
    rw [getHostIpLoop] at h
    by_cases hname : name' = name
    · rw [if_pos hname] at h
      rw [hname, Option.some.inj h]
      exact List.mem_cons_self
    · rw [if_neg hname] at h
      exact List.mem_cons_of_mem _ (ih h)

/-- The texts of the host table are the printed forms of their addresses. -/
lemma ipAddrText_of_getHostIp {name ip : CString} (h : getHostIp name = some ip) :
    ipAddrText (parseIpAddr ip) = ip := by
  have htable : ∀ host ∈ hosts, ipAddrText (parseIpAddr host.2) = host.2 := by decide +kernel
  exact htable (name, ip) (mem_of_getHostIpLoop h)

variable (order : ByteOrder) (k : Key) {argv : List CString} {input : Input} {c s d ip : CString}

lemma namedHost_eq_some (h : namedHost argv = some ip) :
    ∃ program hostName, argv = [program, hostName] ∧ getHostIp hostName = some ip := by
  unfold namedHost at h
  split at h
  · exact ⟨_, _, rfl, h⟩
  · cases h

lemma namedHosts_eq_some (h : namedHosts argv input = some (c, s, d)) :
    ∃ program clientHostName serverHostName, argv = [program, clientHostName, serverHostName] ∧
      getHostIp clientHostName = some c ∧ getHostIp serverHostName = some s ∧
      (∃ destHostName, readHostName input = pure destHostName ∧ getHostIp destHostName = some d) ∧
      ¬ (c = s ∨ c = d ∨ s = d) := by
  unfold namedHosts at h
  split at h
  · rename_i program clientHostName serverHostName
    obtain ⟨c', hc, h⟩ := Option.bind_eq_some_iff.mp h
    obtain ⟨s', hs, h⟩ := Option.bind_eq_some_iff.mp h
    obtain ⟨d', hd, h⟩ := Option.bind_eq_some_iff.mp h
    by_cases hne : c' = s' ∨ c' = d' ∨ s' = d'
    · rw [if_pos hne] at h
      cases h
    · rw [if_neg hne] at h
      cases h
      refine ⟨program, clientHostName, serverHostName, rfl, hc, hs, ?_, hne⟩
      rcases readHostName_cases input with ⟨destHostName, hname⟩ | ⟨-, hfault⟩
      · rw [hname] at hd
        exact ⟨destHostName, hname, hd⟩
      · rw [hfault] at hd
        cases hd
  · cases h

/-- The prompt of the client. -/
def promptEvent : VpnEvent := messageEvent "Enter the destination name (must be less than 5 characters): "

lemma trace_clientMain (h : namedHosts argv input = some (c, s, d)) {es : List VpnEvent} {q : VpnProg Int}
    (ht : Prog.Trace (clientSession order k c s d clientPayload) es q) :
    Prog.Trace (clientMain order k argv input) (promptEvent :: es) q := by
  obtain ⟨program, clientHostName, serverHostName, rfl, hc, hs, ⟨destHostName, hname, hd⟩, hne⟩ := namedHosts_eq_some h
  have hmain : clientMain order k [program, clientHostName, serverHostName] input =
      say "Enter the destination name (must be less than 5 characters): " >>= fun _ =>
        clientSession order k c s d clientPayload := by
    simp only [clientMain, hname, Prog.liftM_eq_ofMem, Prog.ofMem_pure, pure_bind, hc, hs, hd, if_neg hne]
  rw [hmain]
  exact (trace_say _).seq ht

lemma serverMain_eq (h : namedHost argv = some s) : serverMain order k argv = serverSession order k s := by
  obtain ⟨program, hostName, rfl, hs⟩ := namedHost_eq_some h
  simp only [serverMain, hs]

lemma destMain_eq (h : namedHost argv = some d) : destMain order argv = destSession order d responseMsg := by
  obtain ⟨program, hostName, rfl, hd⟩ := namedHost_eq_some h
  simp only [destMain, hd]

end Arguments

section Connections

variable (fd : Fd) (t : CString)

lemma trace_connectToServer_none : Prog.Trace (connectToServer fd t)
    [.call (.inetPton t) none, messageEvent "\nInvalid address/ Address not supported \n"] (pure (-1)) := by
  unfold connectToServer
  apply trace_step (.inetPton t) none
  exact (trace_say _).seq (.done _)

/-- `connect_to_server` connects exactly for the texts that `parse_ip_addr_to_str` can have printed, and to
the address that `parse_ip_addr` reads; for any other text it returns -1 and does not connect. -/
theorem connectToServer_connects (address : List UInt8) :
    (traffic (connectToServer fd t) [] = pure [.inetPton t, .connect fd address port] ↔
      Printed t ∧ address = networkOctets (parseIpAddr t)) ∧
    (receives (connectToServer fd t) [] = pure 0 ↔ Printed t) ∧
    (receives (connectToServer fd t) [] = pure (-1) ↔ ¬ Printed t) ∧
    (traffic (connectToServer fd t) [] = pure [.inetPton t] ↔ ¬ Printed t) := by
  cases hpton : inetPton t with
  | none =>
    have hprinted : ¬ Printed t := by
      intro h
      rw [(inetPton_eq_some_iff t _).mpr ⟨h, rfl⟩] at hpton
      cases hpton
    have ht := trace_connectToServer_none fd t
    have htraffic : traffic (connectToServer fd t) [] = pure [.inetPton t] := by
      rw [traffic_of_trace ht ⟨hpton, rfl, rfl⟩]
      rfl
    have hvalue : receives (connectToServer fd t) [] = pure (-1) := by
      rw [receives_of_trace ht ⟨hpton, rfl, rfl⟩]
      rfl
    rw [htraffic, hvalue]
    simp [hprinted]
  | some octets =>
    obtain ⟨hprinted, rfl⟩ := (inetPton_eq_some_iff t octets).mp hpton
    have ht := trace_connectToServer fd t (networkOctets (parseIpAddr t))
    have htraffic : traffic (connectToServer fd t) [] =
        pure [.inetPton t, .connect fd (networkOctets (parseIpAddr t)) port] := by
      rw [traffic_of_trace ht ⟨hpton, rfl, rfl, rfl⟩]
      rfl
    have hvalue : receives (connectToServer fd t) [] = pure 0 := by
      rw [receives_of_trace ht ⟨hpton, rfl, rfl, rfl⟩]
      rfl
    rw [htraffic, hvalue]
    simp [hprinted, eq_comm]

end Connections

/-- The addresses and the payloads of the packets that a host has printed. -/
def displayed (log : List VpnEvent) : List (CString × CString × CString) :=
  log.filterMap fun e => match e with
    | .call (.print (.packet view)) _ => some (view.ipSrcStr, view.ipDstStr, view.payload)
    | _ => none

/-- The hosts with these addresses have displayed both messages with the addresses that they should have. -/
structure Displayed (c s d request response : CString) (logs : Logs Host (@SysReply Output)) : Prop where
  server : displayed (logs .server) = [(c, d, request), (d, c, response)]
  destination : displayed (logs .destination) = [(s, d, request), (d, s, response)]
  client : ∃ encrypted, displayed (logs .client) = [encrypted, (d, c, response)]

section Displays

variable (order : ByteOrder)

/-- What the print functions display of a packet. -/
def display (p : Packet) : CString × CString × CString :=
  (ipAddrText (p.ipHdr order).ipSrc, ipAddrText (p.ipHdr order).ipDst, .textOf p.field)

lemma textOf_delivered {k : Key} {m : CString} (hm : m.length ≤ 127) (h : cut k 46 m.bytes = m.length) :
    CString.textOf (deliveredField k m) = m := by
  apply CString.ext
  rw [textOf_deliveredField k m hm, h]
  exact List.take_length

variable (k : Key) (c s d : UInt32) {request response : CString}
  (hreq : request.length ≤ 127) (hresp : response.length ≤ 122)
  (hreqKey : cut k 46 request.bytes = request.length) (hrespKey : cut k 46 response.bytes = response.length)

include hreqKey in
lemma display_relayedPacket : display order (relayedPacket order k c d hreq) =
    (ipAddrText c, ipAddrText d, request) := by
  rw [display, ipSrc_relayedPacket, ipDst_relayedPacket]
  exact congrArg (fun text => (_, _, text)) (textOf_delivered hreq hreqKey)

include hreqKey in
lemma display_forwardedPacket : display order (forwardedPacket order k c s d hreq) =
    (ipAddrText s, ipAddrText d, request) := by
  rw [display, ipSrc_forwardedPacket, ipDst_forwardedPacket]
  exact congrArg (fun text => (_, _, text)) (textOf_delivered hreq hreqKey)

lemma display_answerPacket : display order (answerPacket order s d hresp) =
    (ipAddrText d, ipAddrText s, response) := by
  rw [display, ipSrc_answerPacket, ipDst_answerPacket]
  exact congrArg (fun text => (_, _, text)) (textOf_messageField response (hresp.trans (by decide)))

lemma display_returned : display order ((answerPacket order s d hresp).returned order (ipAddrText c)) =
    (ipAddrText d, ipAddrText c, response) := by
  rw [display, Packet.ipSrc_returned, Packet.ipDst_returned, ipSrc_answerPacket, parseIpAddr_ipAddrText,
    textOf_returned]

include hrespKey in
lemma display_replyPacket : display order (replyPacket order k c s d hresp) =
    (ipAddrText d, ipAddrText c, response) := by
  rw [display, ipSrc_replyPacket, ipDst_replyPacket]
  exact congrArg (fun text => (_, _, text)) (textOf_delivered (hresp.trans (by decide)) hrespKey)

include hreqKey hrespKey in
/-- When the key does not meet the messages, all hosts display them whole. -/
lemma displayed_logs (view : PacketView) : Displayed (ipAddrText c) (ipAddrText s) (ipAddrText d) request
    response (logsOf (promptEvent :: clientLog order k c s d hreq hresp view)
      (serverLog order k c s d hreq hresp) (destLog order k c s d hreq hresp)) := by
  refine ⟨?_, ?_, (view.ipSrcStr, view.ipDstStr, view.payload), ?_⟩
  · change [display order (relayedPacket order k c d hreq),
      display order ((answerPacket order s d hresp).returned order (ipAddrText c))] = _
    rw [display_relayedPacket order k c d hreq hreqKey, display_returned]
  · change [display order (forwardedPacket order k c s d hreq), display order (answerPacket order s d hresp)] = _
    rw [display_forwardedPacket order k c s d hreq hreqKey, display_answerPacket]
  · change [_, display order (replyPacket order k c s d hresp)] = _
    rw [display_replyPacket order k c s d hresp hrespKey]

end Displays

/-- The prompt comes first; it does not change what the network answers. -/
lemma follows_prompt (s d : UInt32) {schedule : Network.Schedule Host (@SysReply Output)}
    (h : Network.Follows (vpnService s d) (logsOf [] [] []) schedule) :
    Network.Follows (vpnService s d) (logsOf [] [] []) ((.client, [promptEvent]) :: schedule) := by
  have hprompt : ∀ i, ∀ e ∈ logsOf [promptEvent] [] [] i, SockLog.Unrelated e := by
    intro i e he
    cases i with
    | client => exact .inl ⟨_, _, List.mem_singleton.mp he⟩
    | server => cases he
    | destination => cases he
  have hearlier : Function.update (logsOf [] [] []) .client [promptEvent] =
      fun i => logsOf [promptEvent] [] [] i ++ logsOf [] [] [] i := by
    funext i
    cases i <;> rfl
  refine ⟨⟨rfl, trivial⟩, ?_⟩
  change Network.Follows _ (Function.update (logsOf [] [] []) .client [promptEvent]) _
  rw [hearlier]
  exact (Topology.forgets_unrelated hprompt).follows h

lemma smooth_prompt {es : List VpnEvent} (h : Topology.Smooth [] es) : Topology.Smooth [] (promptEvent :: es) :=
  ⟨rfl, trivial, h.unrelated fun _ he => .inl ⟨_, _, List.mem_singleton.mp he⟩⟩

section Runs

variable (order : ByteOrder) {clientArgv serverArgv destArgv : List CString} {input : Input} {c s d : CString}
  (hclient : namedHosts clientArgv input = some (c, s, d)) (hserver : namedHost serverArgv = some s)
  (hdest : namedHost destArgv = some d)
include hclient hserver hdest

section Script

variable (hreq : clientPayload.length ≤ 127) (hresp : responseMsg.length ≤ 122)

/-- The prompt and the schedule of the exchange are a schedule of the programs, in which they do these events. -/
lemma exists_programs_script : ∃ view schedule,
    (∀ i, Network.eventsOf i schedule = logsOf
      (promptEvent :: clientLog order key (parseIpAddr c) (parseIpAddr s) (parseIpAddr d) hreq hresp view)
      (serverLog order key (parseIpAddr c) (parseIpAddr s) (parseIpAddr d) hreq hresp)
      (destLog order key (parseIpAddr c) (parseIpAddr s) (parseIpAddr d) hreq hresp) i) ∧
    (∀ i, Prog.Trace (programs order key clientArgv serverArgv destArgv input i).prog
      (Network.eventsOf i schedule) (.ret 0)) ∧
    Network.Follows (vpnService (parseIpAddr s) (parseIpAddr d)) (logsOf [] [] []) schedule := by
  obtain ⟨_, _, _, -, hc, hs, ⟨_, -, hd⟩, -⟩ := namedHosts_eq_some hclient
  obtain ⟨view, request, relay, answer, reply, response, hrequest, hreply, hanswer, htraceC, htraceS, htraceD,
    hfollows⟩ := exists_script order key (parseIpAddr c) (parseIpAddr s) (parseIpAddr d) hreq hresp
  rw [ipAddrText_of_getHostIp hc, ipAddrText_of_getHostIp hs, ipAddrText_of_getHostIp hd] at htraceC
  rw [ipAddrText_of_getHostIp hs] at htraceS
  rw [ipAddrText_of_getHostIp hd] at htraceD
  let schedule : Network.Schedule Host (@SysReply Output) :=
    (.client, [promptEvent]) :: exchangeSchedule request relay answer reply response
  have hevents : ∀ i, Network.eventsOf i schedule = logsOf
      (promptEvent :: clientLog order key (parseIpAddr c) (parseIpAddr s) (parseIpAddr d) hreq hresp view)
      (serverLog order key (parseIpAddr c) (parseIpAddr s) (parseIpAddr d) hreq hresp)
      (destLog order key (parseIpAddr c) (parseIpAddr s) (parseIpAddr d) hreq hresp) i := by
    rw [hrequest, hreply, hanswer, ← eventsOf_client request relay answer reply response,
      ← eventsOf_server request relay answer reply response,
      ← eventsOf_destination request relay answer reply response]
    intro i
    cases i <;> rfl
  refine ⟨view, schedule, hevents, fun i => ?_, follows_prompt _ _ hfollows⟩
  rw [hevents]
  cases i with
  | client => exact trace_clientMain order key hclient htraceC
  | server =>
    change Prog.Trace (serverMain order key serverArgv) _ _
    rw [serverMain_eq order key hserver]
    exact htraceS
  | destination =>
    change Prog.Trace (destMain order destArgv) _ _
    rw [destMain_eq order hdest]
    exact htraceD

end Script

/-- The programs have a run without failures, at whose end the logs are those of the exchange and the prompt. -/
lemma endsCalmly_programs (hreq : clientPayload.length ≤ 127) (hresp : responseMsg.length ≤ 122) :
    ∃ (view : PacketView) (f : Network Host (@SysReply Output) Int), (∀ i, (f i).prog = .ret 0) ∧
    f.logs = logsOf
      (promptEvent :: clientLog order key (parseIpAddr c) (parseIpAddr s) (parseIpAddr d) hreq hresp view)
      (serverLog order key (parseIpAddr c) (parseIpAddr s) (parseIpAddr d) hreq hresp)
      (destLog order key (parseIpAddr c) (parseIpAddr s) (parseIpAddr d) hreq hresp) ∧
    (vpnTopology (parseIpAddr s) (parseIpAddr d)).EndsCalmly
      (programs order key clientArgv serverArgv destArgv input) f := by
  obtain ⟨view, schedule, hevents, htrace, hfollows⟩ :=
    exists_programs_script order hclient hserver hdest hreq hresp
  let start := programs order key clientArgv serverArgv destArgv input
  have hstart : start.logs = logsOf [] [] [] := by
    funext i
    cases i <;> rfl
  rw [← hstart] at hfollows
  let f : Network Host (@SysReply Output) Int :=
    fun i => ⟨.ret 0, (start i).log ++ Network.eventsOf i schedule⟩
  have hlogs : f.logs = logsOf
      (promptEvent :: clientLog order key (parseIpAddr c) (parseIpAddr s) (parseIpAddr d) hreq hresp view)
      (serverLog order key (parseIpAddr c) (parseIpAddr s) (parseIpAddr d) hreq hresp)
      (destLog order key (parseIpAddr c) (parseIpAddr s) (parseIpAddr d) hreq hresp) := by
    funext i
    cases i <;> exact hevents _
  refine ⟨view, f, fun _ => rfl, hlogs, fun i => ?_,
    Network.reaches_of_schedule htrace hfollows, fun i => ⟨0, rfl⟩, fun i => ?_, ?_⟩
  · cases i <;> rfl
  · rw [hlogs]
    cases i with
    | client => exact smooth_prompt (smooth_clientLog order key _ _ _ hreq hresp view)
    | server => exact smooth_serverLog order key _ _ _ hreq hresp
    | destination => exact smooth_destLog order key _ _ _ hreq hresp
  · rw [hlogs]
    exact called_of_logs _ _ ⟨_, rfl⟩ ⟨_, rfl⟩

/-- The end of a run without failures: 41 steps, all programs have returned 0 and displayed both messages. -/
lemma exists_programs_end : ∃ f : Network Host (@SysReply Output) Int, (∀ i, (f i).prog = .ret 0) ∧ f.size = 41 ∧
    Displayed c s d clientPayload responseMsg f.logs ∧ (vpnTopology (parseIpAddr s) (parseIpAddr d)).EndsCalmly
      (programs order key clientArgv serverArgv destArgv input) f := by
  obtain ⟨_, _, _, -, hc, hs, ⟨_, -, hd⟩, -⟩ := namedHosts_eq_some hclient
  have hreq : clientPayload.length ≤ 127 := by decide
  have hresp : responseMsg.length ≤ 122 := by decide
  have hreqKey : cut key 46 clientPayload.bytes = clientPayload.length := by decide +kernel
  have hrespKey : cut key 46 responseMsg.bytes = responseMsg.length := by decide +kernel
  obtain ⟨view, f, hend, hlogs, hf⟩ := endsCalmly_programs order hclient hserver hdest hreq hresp
  have hdisplayed := displayed_logs order key (parseIpAddr c) (parseIpAddr s) (parseIpAddr d) hreq hresp hreqKey
    hrespKey view
  rw [ipAddrText_of_getHostIp hc, ipAddrText_of_getHostIp hs, ipAddrText_of_getHostIp hd] at hdisplayed
  refine ⟨f, hend, ?_, ?_, hf⟩
  · unfold Network.size
    rw [hlogs]
    rfl
  · rw [hlogs]
    exact hdisplayed

/-- As long as nothing fails: in every order of the steps a run of the programs has at most 41 steps and goes on
until it has 41. Then every program has returned 0, and the hosts have displayed both messages. -/
theorem programs_run {n : Nat} {t : Network Host (@SysReply Output) Int}
    (ht : RunsIn (calmNetwork (parseIpAddr s) (parseIpAddr d)).Moves
      (programs order key clientArgv serverArgv destArgv input) n t) :
    n ≤ 41 ∧ ((∀ u, ¬ (calmNetwork (parseIpAddr s) (parseIpAddr d)).Moves t u) ↔ n = 41) ∧
      (n = 41 → (∀ i, (t i).prog = .ret 0) ∧ Displayed c s d clientPayload responseMsg t.logs) := by
  obtain ⟨f, hend, hsize, hdisplayed, hf⟩ := exists_programs_end order hclient hserver hdest
  obtain ⟨hle, hstuck, hlast⟩ := hf.stuck_iff ht
  rw [hsize] at hle hstuck hlast
  refine ⟨hle, hstuck, fun hn => ?_⟩
  obtain rfl := hlast.mp hn
  exact ⟨hend, hdisplayed⟩

end Runs

lemma named_hosts : namedHosts [.lit "client", .lit "h1", .lit "h2"] (typed "h3") =
      some (.lit "10.0.0.1", .lit "10.0.0.2", .lit "10.0.0.3") ∧
    namedHost [.lit "server", .lit "h2"] = some (.lit "10.0.0.2") ∧
    namedHost [.lit "destination", .lit "h3"] = some (.lit "10.0.0.3") := by
  refine ⟨?_, ?_, ?_⟩ <;> decide +kernel

/-- A whole run of the programs for three hosts. -/
theorem programs_run_hosts : ∃ t, RunsIn (calmNetwork (parseIpAddr (.lit "10.0.0.2")) (parseIpAddr (.lit "10.0.0.3"))).Moves
      (programs .little key [.lit "client", .lit "h1", .lit "h2"] [.lit "server", .lit "h2"]
        [.lit "destination", .lit "h3"] (typed "h3")) 41 t ∧
    (∀ i, (t i).prog = .ret 0) ∧
    Displayed (.lit "10.0.0.1") (.lit "10.0.0.2") (.lit "10.0.0.3") clientPayload responseMsg t.logs := by
  obtain ⟨hclient, hserver, hdest⟩ := named_hosts
  obtain ⟨f, -, hsize, -, hf⟩ := exists_programs_end .little hclient hserver hdest
  have hrun := hf.runsIn_size
  rw [hsize] at hrun
  exact ⟨f, hrun, (programs_run .little hclient hserver hdest hrun).2.2 rfl⟩

end SimpleVpn
