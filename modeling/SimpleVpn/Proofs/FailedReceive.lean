import SimpleVpn.Lib.Calls
import SimpleVpn.Proofs.Scripts

/-!
# Failed receives

What the programs do after a `recv` that failed, in every run. The server's first receive and the
destination's are checked: an error message follows and the program ends. The client's receive and the
server's second one are not checked, and the NULL pointer is read.
-/

namespace SimpleVpn

open CLang

/-- The program ends with an error and does nothing before but write messages. -/
inductive Aborts : VpnProg Int → Prop where
  | ret {status : Int} : status ≠ 0 → Aborts (.ret status)
  | exit {status : Int} : status ≠ 0 → Aborts (.stop (.exit status))
  | message (format : String) (args : List CString)
      {k : @SysReply Output (.print (.message format args)) → VpnProg Int} :
      Aborts (k ()) → Aborts (.call (.print (.message format args)) k)

/-- `recv` fails. -/
def failedReceive (fd : Fd) (n : Nat) : VpnEvent := .call (.recv fd n) none

/-- In the run `es` of a program, every receive that fails is followed by the end of the program. -/
def Handled (p : VpnProg Int) (es : List VpnEvent) : Prop :=
  ∀ es' fd n q, es' ++ [failedReceive fd n] <+: es →
    Prog.Trace p (es' ++ [failedReceive fd n]) q → Aborts q

/-- The number of receives, after one more call. -/
def countReceive (count : Nat) : (c : SysCall Output) → SysReply c → Nat
  | .recv _ _, _ => count + 1
  | .socket, _ | .setsockopt _, _ | .bind _ _, _ | .listen _, _ | .accept _, _ | .inetPton _, _
  | .connect _ _ _, _ | .send _ _, _ | .close _, _ | .shutdown _, _ | .print _, _ => count

/-- The number of receives in a run. -/
def receiveCount (es : List VpnEvent) : Nat := Prog.stateAfter countReceive 0 es

/-- What follows a receive that fails, when `count` receives came before it. -/
def OnFailure {α : Type} (P : Nat → VpnProg α → Prop) : Prog.Assertion (@SysReply Output) Nat α
  | count, .recv _ _, k => P count (k none)
  | _, .socket, _ | _, .setsockopt _, _ | _, .bind _ _, _ | _, .listen _, _ | _, .accept _, _
  | _, .inetPton _, _ | _, .connect _ _ _, _ | _, .send _ _, _ | _, .close _, _ | _, .shutdown _, _
  | _, .print _, _ => True

/-- Every receive of the program is followed by `P` when it fails. -/
def FailuresMeet {α : Type} (P : Nat → VpnProg α → Prop) (count : Nat) (p : VpnProg α) : Prop :=
  Prog.Meets countReceive (OnFailure P) (fun _ _ => True) count p

def NotReceive : SysCall Output → Prop
  | .recv _ _ => False
  | .socket | .setsockopt _ | .bind _ _ | .listen _ | .accept _ | .inetPton _ | .connect _ _ _
  | .send _ _ | .close _ | .shutdown _ | .print _ => True

abbrev NoReceive {α : Type} (p : VpnProg α) : Prop := Prog.Only NotReceive p

section Rules

variable {α β : Type} {P : Nat → VpnProg α → Prop} {count : Nat}

lemma FailuresMeet.of_noReceive_bind {p : VpnProg β} {f : β → VpnProg α} (hp : NoReceive p)
    (hf : ∀ b, FailuresMeet P count (f b)) : FailuresMeet P count (p >>= f) := by
  apply Prog.Meets.bind
  apply Prog.Meets.of_only hp
  · intro c r hc
    cases c <;> first | rfl | exact hc.elim
  · intro c k hc
    cases c <;> trivial
  · exact hf

lemma FailuresMeet.of_noReceive {p : VpnProg α} (hp : NoReceive p) : FailuresMeet P count p := by
  rw [← bind_pure p]
  exact .of_noReceive_bind hp fun _ => Prog.Meets.ret trivial

/-- A receive, and what the program makes of the bytes. -/
lemma FailuresMeet.of_receive {fd : Fd} {n : Nat} {k : Option (Received n) → VpnProg α}
    (hfail : P count (k none)) (hf : ∀ bytes, FailuresMeet P (count + 1) (k bytes)) :
    FailuresMeet P count (.call (.recv fd n) k) :=
  Prog.Meets.call hfail hf

/-- A receive that fails in a run is followed by what the program does after that number of
receives. -/
theorem FailuresMeet.of_trace {p q : VpnProg α} {es : List VpnEvent} {fd : Fd} {n : Nat}
    (h : FailuresMeet P 0 p) (ht : Prog.Trace p (es ++ [failedReceive fd n]) q) :
    P (receiveCount es) q := by
  obtain ⟨p', hes, hrecv⟩ := ht.split
  have hmeets := Prog.Meets.of_trace h hes
  cases hrecv with
  | call c r hrest =>
    rw [← hrest.eq_of_nil]
    exact hmeets.first

end Rules

section Parts

lemma noReceive_step {α : Type} (c : SysCall Output) (hc : NotReceive c) {f : SysReply c → VpnProg α}
    (hf : ∀ r, NoReceive (f r)) : NoReceive ((.call c .ret : VpnProg (SysReply c)) >>= f) :=
  Prog.only_step c hc hf

lemma noReceive_ofMem {α : Type} (m : Mem α) : NoReceive (Prog.ofMem m) := Prog.only_ofMem m

lemma noReceive_print (out : Output) : NoReceive (Sock.print out) :=
  Prog.only_call _ trivial Prog.only_pure

lemma noReceive_say (text : String) : NoReceive (say text) :=
  noReceive_print _

lemma noReceive_say_return {α : Type} (text : String) (a : α) :
    NoReceive (say text >>= fun _ => pure a) :=
  (noReceive_say text).bind fun _ => Prog.only_pure a

lemma noReceive_say_exit {α : Type} (text : String) (status : Int) :
    NoReceive (say text >>= fun _ => Prog.exit status : VpnProg α) :=
  (noReceive_say text).bind fun _ => Prog.only_exit status

lemma noReceive_createClientSocket : NoReceive createClientSocket := by
  unfold createClientSocket
  apply noReceive_step .socket trivial
  intro r
  cases r with
  | none => exact noReceive_say_return _ _
  | some fd => exact Prog.only_pure _

lemma noReceive_connectToServer (clientFd : Fd) (serverIp : CString) :
    NoReceive (connectToServer clientFd serverIp) := by
  unfold connectToServer
  apply noReceive_step (.inetPton serverIp) trivial
  intro r
  cases r with
  | none => exact noReceive_say_return _ _
  | some address =>
    apply noReceive_step (.connect clientFd address port) trivial
    intro connected
    split
    · exact noReceive_say_return _ _
    · exact noReceive_say_return _ _

lemma noReceive_createListeningSocket : NoReceive createListeningSocket := by
  unfold createListeningSocket
  apply noReceive_step .socket trivial
  intro r
  cases r with
  | none => exact noReceive_say_exit _ _
  | some fd =>
    apply noReceive_step (.setsockopt fd) trivial
    intro ok
    split
    · exact noReceive_say_exit _ _
    · apply noReceive_step (.bind fd port) trivial
      intro ok
      split
      · exact noReceive_say_exit _ _
      · apply noReceive_step (.listen fd) trivial
        intro ok
        split
        · exact noReceive_say_exit _ _
        · exact Prog.only_pure _

lemma noReceive_acceptConnection (fd : Fd) : NoReceive (acceptConnection fd) := by
  unfold acceptConnection
  apply noReceive_step (.accept fd) trivial
  intro r
  cases r with
  | none => exact noReceive_say_exit _ _
  | some newSocket => exact Prog.only_pure _

variable (order : ByteOrder) (k : Key)

lemma noReceive_showPacket (packet : Buf) : NoReceive (showPacket order packet) :=
  (noReceive_ofMem _).bind fun _ => noReceive_print _

lemma noReceive_showPacketUnencap (packet : Buf) (packetStart : Nat) :
    NoReceive (showPacketUnencap order packet packetStart) :=
  (noReceive_ofMem _).bind fun _ => noReceive_print _

/-- Both transmissions compute the bytes, send them and test the reply. -/
lemma noReceive_send (sockfd : Fd) (m : Mem (List UInt8)) : NoReceive (do
    let bytes ← m
    if !(← Sock.send sockfd bytes) then
      return -1
    return 0 : VpnProg Int) := by
  apply (noReceive_ofMem _).bind
  intro bytes
  apply noReceive_step (.send sockfd bytes) trivial
  intro ok
  split
  · exact Prog.only_pure _
  · exact Prog.only_pure _

lemma noReceive_sendAndFreePacketVpn (sockfd : Fd) (packet : Buf) (ipProtocol payloadSize : UInt8) :
    NoReceive (sendAndFreePacketVpn sockfd packet ipProtocol payloadSize) :=
  noReceive_send sockfd _

lemma noReceive_servCliEncryptFree (sockfd : Fd) (packet : Buf) (ipProtocol payloadSize : UInt8) :
    NoReceive (servCliEncryptFree k sockfd packet ipProtocol payloadSize) := by
  rw [servCliEncryptFree_eq]
  exact noReceive_send sockfd _

end Parts

section Receives

variable {P : Nat → VpnProg Int → Prop} {count : Nat}

lemma FailuresMeet.of_servRecFromCli (k : Key) (sockfd : Fd) {f : Option Buf → VpnProg Int}
    (hfail : P count (f none)) (hf : ∀ packet, FailuresMeet P (count + 1) (f packet)) :
    FailuresMeet P count (servRecFromCli k sockfd >>= f) := by
  rw [servRecFromCli_eq]
  apply FailuresMeet.of_receive hfail
  intro bytes
  cases bytes with
  | none => exact hf none
  | some bytes => exact .of_noReceive_bind ((noReceive_ofMem _).bind fun _ => Prog.only_pure _) hf

lemma FailuresMeet.of_servRecFromDes (sockfd : Fd) {f : Option Buf → VpnProg Int}
    (hfail : P count (f none)) (hf : ∀ packet, FailuresMeet P (count + 1) (f packet)) :
    FailuresMeet P count (servRecFromDes sockfd >>= f) := by
  apply FailuresMeet.of_receive hfail
  intro bytes
  cases bytes with
  | none => exact hf none
  | some bytes => exact hf _

lemma FailuresMeet.of_destRecPkt (sockfd : Fd) {f : Option Buf → VpnProg Int}
    (hfail : P count (f none)) (hf : ∀ packet, FailuresMeet P (count + 1) (f packet)) :
    FailuresMeet P count (destRecPkt sockfd >>= f) := by
  apply FailuresMeet.of_receive hfail
  intro bytes
  cases bytes with
  | none => exact hf none
  | some bytes => exact hf _

end Receives

section Programs

variable (order : ByteOrder) (k : Key)

/-- What a program does after a receive that fails: it ends when the receive is checked, and reads the
NULL pointer when it is not. -/
def Outcomes (Checked : Nat → Prop) (count : Nat) (q : VpnProg Int) : Prop :=
  (Checked count → Aborts q) ∧ (¬ Checked count → q = .stop (.fault .null))

theorem failures_clientSession (clientIp serverIp destIp payload : CString) :
    FailuresMeet (Outcomes fun _ => False) 0
      (clientSession order k clientIp serverIp destIp payload) := by
  have hreply (clientFd : Fd) : FailuresMeet (Outcomes fun _ => False) 0 (do
      let respPkt ← deref (← servRecFromCli k clientFd)
      showPacket order respPkt
      Sock.close clientFd
      return 0) := by
    refine .of_servRecFromCli k clientFd ⟨False.elim, fun _ => rfl⟩ fun respPkt => .of_noReceive ?_
    apply (noReceive_ofMem _).bind
    intro packet
    apply (noReceive_showPacket order packet).bind
    intro _
    exact noReceive_step (.close clientFd) trivial fun _ => Prog.only_pure _
  unfold clientSession
  apply FailuresMeet.of_noReceive_bind noReceive_createClientSocket
  intro r
  cases r with
  | none => exact .of_noReceive (Prog.only_pure _)
  | some clientFd =>
    apply FailuresMeet.of_noReceive_bind (noReceive_connectToServer clientFd serverIp)
    intro status
    split
    · exact .of_noReceive (noReceive_step (.close clientFd) trivial fun _ => Prog.only_pure _)
    · apply FailuresMeet.of_noReceive_bind (noReceive_say _)
      intro _
      apply FailuresMeet.of_noReceive_bind (noReceive_ofMem _)
      intro packet
      apply FailuresMeet.of_noReceive_bind (noReceive_showPacket order packet)
      intro _
      apply FailuresMeet.of_noReceive_bind (noReceive_sendAndFreePacketVpn clientFd packet _ _)
      intro sent
      dsimp only
      split
      · exact .of_noReceive_bind (noReceive_say _) fun _ => hreply clientFd
      · exact hreply clientFd

/-- The first receive of the server is checked. -/
lemma FailuresMeet.of_serverRelay (newSocket : Fd) (serverIp : CString)
    {f : Option (Fd × UInt32) → VpnProg Int} (hnone : Aborts (f none))
    (hf : ∀ r, FailuresMeet (Outcomes fun count => count = 0) 1 (f r)) :
    FailuresMeet (Outcomes fun count => count = 0) 0 (serverRelay order k newSocket serverIp >>= f) := by
  unfold serverRelay
  rw [bind_assoc]
  refine .of_servRecFromCli k newSocket ⟨fun _ => .message _ _ hnone, fun h => absurd rfl h⟩
    fun recPacket => .of_noReceive_bind ?_ hf
  cases recPacket with
  | none => exact noReceive_say_return _ _
  | some recPacket =>
    apply (noReceive_showPacket order recPacket).bind
    intro _
    apply (noReceive_ofMem _).bind
    intro clientIp
    apply (noReceive_ofMem _).bind
    intro fixed
    apply noReceive_createClientSocket.bind
    intro r
    cases r with
    | none => exact Prog.only_pure _
    | some clientFd =>
      apply (noReceive_ofMem _).bind
      intro fixedIp
      apply (noReceive_ofMem _).bind
      intro destIp
      apply (noReceive_ofMem _).bind
      intro destIp
      apply (noReceive_connectToServer clientFd _).bind
      intro status
      split
      · exact noReceive_step (.close clientFd) trivial fun _ => Prog.only_pure _
      · apply (noReceive_ofMem _).bind
        intro bytes
        apply noReceive_step (.send clientFd bytes) trivial
        intro ok
        split
        · exact noReceive_say_return _ _
        · exact noReceive_say_return _ _

/-- The second receive of the server is not checked. -/
lemma FailuresMeet.of_serverReply (newSocket clientFd : Fd) (clientIp : UInt32) {f : Int → VpnProg Int}
    (hf : ∀ status, NoReceive (f status)) :
    FailuresMeet (Outcomes fun count => count = 0) 1
      (serverReply order k newSocket clientFd clientIp >>= f) := by
  unfold serverReply
  rw [bind_assoc]
  refine .of_servRecFromDes clientFd ⟨fun h => absurd h Nat.one_ne_zero, fun _ => ?_⟩
    fun recPacketDest => .of_noReceive ?_
  · have hsize : (UInt8.ofNat (maxPayloadSize + sizeofTcpHdr + sizeofGreHdr + sizeofIpHdr)).toNat =
        174 := rfl
    dsimp only
    rw [hsize, packetEncapsulate_packet, Prog.liftM_eq_ofMem, Prog.ofMem_pure, pure_bind]
    rfl
  · refine Prog.Only.bind ?_ hf
    apply (noReceive_ofMem _).bind
    intro encPkt
    apply (noReceive_ofMem _).bind
    intro packet
    apply (noReceive_ofMem _).bind
    intro encPkt
    apply (noReceive_ofMem _).bind
    intro clientStrIp
    apply (noReceive_ofMem _).bind
    intro text
    apply (noReceive_ofMem _).bind
    intro fixed
    apply (noReceive_showPacket order _).bind
    intro _
    apply (noReceive_ofMem _).bind
    intro payloadLength
    exact noReceive_servCliEncryptFree k newSocket _ _ _

theorem failures_serverSession (serverIp : CString) :
    FailuresMeet (Outcomes fun count => count = 0) 0 (serverSession order k serverIp) := by
  unfold serverSession
  apply FailuresMeet.of_noReceive_bind noReceive_createListeningSocket
  intro serverFd
  apply FailuresMeet.of_noReceive_bind (noReceive_acceptConnection serverFd)
  intro newSocket
  apply FailuresMeet.of_serverRelay order k newSocket serverIp (.ret (by decide))
  intro r
  cases r with
  | none => exact .of_noReceive (Prog.only_pure _)
  | some r =>
    apply FailuresMeet.of_serverReply order k newSocket r.1 r.2
    intro _
    apply noReceive_step (.close newSocket) trivial
    intro _
    exact noReceive_step (.shutdown serverFd) trivial fun _ => Prog.only_pure _

theorem failures_destSession (hostIp responseMsg : CString) :
    FailuresMeet (Outcomes fun _ => True) 0 (destSession order hostIp responseMsg) := by
  unfold destSession
  apply FailuresMeet.of_noReceive_bind noReceive_createListeningSocket
  intro destFd
  apply FailuresMeet.of_noReceive_bind (noReceive_acceptConnection destFd)
  intro newSocket
  refine .of_destRecPkt newSocket ⟨fun _ => .message _ _ (.ret (by decide)), fun h => absurd trivial h⟩
    fun recPacket => .of_noReceive ?_
  cases recPacket with
  | none => exact noReceive_say_return _ _
  | some recPacket =>
    apply (noReceive_showPacketUnencap order recPacket 0).bind
    intro _
    apply (noReceive_ofMem _).bind
    intro ip
    apply (noReceive_ofMem _).bind
    intro clientIpStr
    apply (noReceive_ofMem _).bind
    intro text
    apply (noReceive_ofMem _).bind
    intro responsePkt
    apply (noReceive_showPacketUnencap order responsePkt _).bind
    intro _
    apply (noReceive_ofMem _).bind
    intro bytes
    apply noReceive_step (.send newSocket bytes) trivial
    intro ok
    split
    · exact Prog.only_pure _
    · apply noReceive_step (.close newSocket) trivial
      intro _
      exact noReceive_step (.close destFd) trivial fun _ => Prog.only_pure _

theorem failures_clientMain (argv : List CString) (input : Input) :
    FailuresMeet (Outcomes fun _ => False) 0 (clientMain order k argv input) := by
  unfold clientMain
  split
  · apply FailuresMeet.of_noReceive_bind (noReceive_say _)
    intro _
    apply FailuresMeet.of_noReceive_bind (noReceive_ofMem _)
    intro destHostName
    split
    · split
      · exact .of_noReceive (noReceive_say_return _ _)
      · exact failures_clientSession order k _ _ _ clientPayload
    · exact .of_noReceive (noReceive_say_return _ _)
  · exact .of_noReceive (noReceive_say_return _ _)

theorem failures_serverMain (argv : List CString) :
    FailuresMeet (Outcomes fun count => count = 0) 0 (serverMain order k argv) := by
  unfold serverMain
  split
  · split
    · exact failures_serverSession order k _
    · exact .of_noReceive (noReceive_say_return _ _)
  · exact .of_noReceive (noReceive_say_return _ _)

theorem failures_destMain (argv : List CString) :
    FailuresMeet (Outcomes fun _ => True) 0 (destMain order argv) := by
  unfold destMain
  split
  · split
    · exact failures_destSession order _ responseMsg
    · exact .of_noReceive ((noReceive_print _).bind fun _ => Prog.only_pure _)
  · exact .of_noReceive (noReceive_say_return _ _)

/-- A run is handled exactly when every receive that fails in it is one that the program checks. -/
lemma handled_iff_checked {Checked : Nat → Prop} {p q : VpnProg Int} (h : FailuresMeet (Outcomes Checked) 0 p)
    {es : List VpnEvent} (ht : Prog.Trace p es q) :
    Handled p es ↔ ∀ es' fd n, es' ++ [failedReceive fd n] <+: es → Checked (receiveCount es') := by
  constructor
  · intro hhandled es' fd n hpre
    obtain ⟨es'', rfl⟩ := hpre
    obtain ⟨p', hfailed, -⟩ := ht.split
    by_contra hunchecked
    have haborts := hhandled es' fd n p' (List.prefix_append _ _) hfailed
    rw [(h.of_trace hfailed).2 hunchecked] at haborts
    cases haborts
  · intro hchecked es' fd n q' hpre hfailed
    exact (h.of_trace hfailed).1 (hchecked es' fd n hpre)

/-- The client handles the runs in which its receive succeeds, the server those in which only the first
receive may fail, and the destination all runs. -/
theorem failedReceives_handled_iff (argv : List CString) (input : Input) :
    (∀ es q, Prog.Trace (clientMain order k argv input) es q →
      (Handled (clientMain order k argv input) es ↔ ∀ fd n, failedReceive fd n ∉ es)) ∧
    (∀ es q, Prog.Trace (serverMain order k argv) es q →
      (Handled (serverMain order k argv) es ↔
        ∀ es' fd n, es' ++ [failedReceive fd n] <+: es → receiveCount es' = 0)) ∧
    ∀ es q, Prog.Trace (destMain order argv) es q → Handled (destMain order argv) es := by
  refine ⟨fun es q ht => ?_, fun es q ht => handled_iff_checked (failures_serverMain order k argv) ht,
    fun es q ht => (handled_iff_checked (failures_destMain order argv) ht).mpr fun _ _ _ _ => trivial⟩
  rw [handled_iff_checked (failures_clientMain order k argv input) ht]
  constructor
  · intro hnone fd n hmem
    obtain ⟨es', es'', rfl⟩ := List.append_of_mem hmem
    refine hnone es' fd n ⟨es'', ?_⟩
    rw [List.append_assoc, List.singleton_append]
  · intro hnone es' fd n hpre
    exact hnone fd n (hpre.subset (List.mem_append_right _ (List.mem_singleton_self _)))

end Programs

/-- The run of a destination whose receive fails. -/
theorem failedReceives_handled_destination : Handled (destMain .little [.lit "destination", .lit "h3"])
    (listenEvents 3 ++ (acceptEvents ++ [failedReceive 4 destPktSize])) := by
  refine (failedReceives_handled_iff .little key [.lit "destination", .lit "h3"] (typed "")).2.2 _
    (say "Error receiving packet.\n" >>= fun _ => pure (-1)) ?_
  apply (trace_createListeningSocket 3).seq
  apply (trace_acceptConnection 3 4).seq
  exact trace_step (.recv 4 destPktSize) none (.done _)

/-- The client `h1` reads a NULL pointer when its receive from the server `h2` fails. -/
theorem not_handled_client :
    ∃ es, Prog.Trace (clientMain .little key [.lit "client", .lit "h1", .lit "h2"] (typed "h3\n")) es
        (.stop (.fault .null)) ∧
      ¬ Handled (clientMain .little key [.lit "client", .lit "h1", .lit "h2"] (typed "h3\n")) es := by
  have hpayload : clientPayload.length ≤ 127 := by decide
  obtain ⟨view, hhead⟩ := trace_clientSession_head .little key (.lit "10.0.0.1") (.lit "10.0.0.2")
    (.lit "10.0.0.3") hpayload [10, 0, 0, 2]
  have hnull : Prog.Trace (do
        let respPkt ← deref (← servRecFromCli key 3)
        showPacket .little respPkt
        Sock.close 3
        return 0 : VpnProg Int) [failedReceive 3 pktSize] (.stop (.fault .null)) := by
    rw [servRecFromCli_eq]
    exact trace_call (.recv 3 pktSize) none (.done _)
  have hrun : Prog.Trace (clientMain .little key [.lit "client", .lit "h1", .lit "h2"] (typed "h3\n"))
      _ (.stop (.fault .null)) :=
    (trace_say "Enter the destination name (must be less than 5 characters): ").seq (hhead.append hnull)
  refine ⟨_, hrun, fun hhandled => ?_⟩
  rw [← List.append_assoc] at hrun hhandled
  cases hhandled _ 3 pktSize _ List.prefix_rfl hrun

end SimpleVpn
