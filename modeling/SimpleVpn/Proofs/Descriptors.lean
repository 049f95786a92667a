import SimpleVpn.Lib.Descriptors
import SimpleVpn.Proofs.Mains

/-!
# Descriptors

Every call of the three programs is made on a descriptor in the right state, whatever the calls return
and whatever is received.
-/

namespace SimpleVpn

open CLang

section Parts

variable {α β : Type} {Q : FdTable → α → Prop} {t : FdTable}

lemma disciplined_prints {p : VpnProg β} (hp : Prog.Only IsPrint p) {f : β → VpnProg α}
    (hf : ∀ b, Disciplined Q (some t) (f b)) : Disciplined Q (some t) (p >>= f) := by
  refine .of_only hp ?_ ?_ hf
  · rintro c r ⟨out, rfl⟩
    rfl
  · rintro c ⟨out, rfl⟩
    trivial

lemma disciplined_say (text : String) {f : Unit → VpnProg α} (hf : Disciplined Q (some t) (f ())) :
    Disciplined Q (some t) (say text >>= f) :=
  disciplined_prints (prints_say text) fun _ => hf

lemma disciplined_ofMem {m : Mem β} {f : β → VpnProg α} (hf : ∀ b, Disciplined Q (some t) (f b)) :
    Disciplined Q (some t) (Prog.ofMem m >>= f) :=
  disciplined_prints (Prog.only_ofMem m) hf

lemma disciplined_createClientSocket {f : Option Fd → VpnProg α}
    (hsome : ∀ fd, t fd = none → Disciplined Q (some (Function.update t fd (some .unbound))) (f (some fd)))
    (hnone : Disciplined Q (some t) (f none)) :
    Disciplined Q (some t) (createClientSocket >>= f) := by
  rw [createClientSocket, bind_assoc]
  refine .step .socket trivial fun r => ?_
  cases r with
  | some fd => exact .opened (hsome fd)
  | none => exact disciplined_say _ hnone

lemma disciplined_connectToServer {fd : Fd} (hfd : t fd = some .unbound) (serverIp : CString)
    {f : Int → VpnProg α} (hok : Disciplined Q (some (Function.update t fd (some .dialed))) (f 0))
    (hfail : Disciplined Q (some t) (f (-1))) :
    Disciplined Q (some t) (connectToServer fd serverIp >>= f) := by
  rw [connectToServer, bind_assoc]
  refine .step (.inetPton serverIp) trivial fun r => ?_
  cases r with
  | none => exact disciplined_say _ hfail
  | some address =>
    dsimp only
    rw [bind_assoc]
    refine .step (.connect fd address port) hfd fun r => ?_
    cases r with
    | true => exact disciplined_say _ hok
    | false => exact disciplined_say _ hfail

lemma disciplined_createListeningSocket {f : Fd → VpnProg α}
    (h : ∀ fd, t fd = none → Disciplined Q (some (Function.update t fd (some .listening))) (f fd)) :
    Disciplined Q (some t) (createListeningSocket >>= f) := by
  rw [createListeningSocket, bind_assoc]
  refine .step .socket trivial fun r => ?_
  cases r with
  | none => exact disciplined_say _ (.exit _)
  | some fd =>
    refine .opened fun hfd => ?_
    have hlistening := h fd hfd
    rw [bind_assoc]
    refine .step (.setsockopt fd) (Function.update_self ..) fun r => ?_
    cases r with
    | false => exact disciplined_say _ (.exit _)
    | true =>
      rw [if_neg (by decide), bind_assoc]
      refine .step (.bind fd port) (Function.update_self ..) fun r => ?_
      cases r with
      | false => exact disciplined_say _ (.exit _)
      | true =>
        rw [if_neg (by decide), bind_assoc]
        refine .step (.listen fd) (Function.update_self ..) fun r => ?_
        cases r with
        | false => exact disciplined_say _ (.exit _)
        | true =>
          rw [if_neg (by decide), FdTable.next, Function.update_idem, Function.update_idem]
          exact hlistening

lemma disciplined_acceptConnection {fd : Fd} (hfd : t fd = some .listening) {f : Fd → VpnProg α}
    (h : ∀ newSocket, t newSocket = none →
      Disciplined Q (some (Function.update t newSocket (some .accepted))) (f newSocket)) :
    Disciplined Q (some t) (acceptConnection fd >>= f) := by
  rw [acceptConnection, bind_assoc]
  refine .step (.accept fd) hfd fun r => ?_
  cases r with
  | some newSocket => exact .opened (h newSocket)
  | none => exact disciplined_say _ (.exit _)

variable (order : ByteOrder) (k : Key) {state : FdState} (hstate : state.Connected)
include hstate

lemma disciplined_send {fd : Fd} (hfd : t fd = some state) (bytes : List UInt8) {f : Bool → VpnProg α}
    (hf : ∀ r, Disciplined Q (some t) (f r)) : Disciplined Q (some t) (Sock.send fd bytes >>= f) :=
  .step (.send fd bytes) ⟨state, hfd, hstate⟩ hf

lemma disciplined_sendAndFreePacketVpn {fd : Fd} (hfd : t fd = some state) (packet : Buf)
    (ipProtocol payloadSize : UInt8) {f : Int → VpnProg α} (hf : ∀ r, Disciplined Q (some t) (f r)) :
    Disciplined Q (some t) (sendAndFreePacketVpn fd packet ipProtocol payloadSize >>= f) := by
  unfold sendAndFreePacketVpn
  simp only [bind_assoc]
  refine disciplined_ofMem fun bytes => disciplined_send hstate hfd bytes fun r => ?_
  cases r with
  | true => exact hf 0
  | false => exact hf (-1)

lemma disciplined_servCliEncryptFree {fd : Fd} (hfd : t fd = some state) (packet : Buf)
    (ipProtocol payloadSize : UInt8) {f : Int → VpnProg α} (hf : ∀ r, Disciplined Q (some t) (f r)) :
    Disciplined Q (some t) (servCliEncryptFree k fd packet ipProtocol payloadSize >>= f) := by
  rw [servCliEncryptFree_eq, bind_assoc]
  refine disciplined_ofMem fun bytes => ?_
  rw [bind_assoc]
  refine disciplined_send hstate hfd bytes fun r => ?_
  cases r with
  | true => exact hf 0
  | false => exact hf (-1)

lemma disciplined_servRecFromCli {fd : Fd} (hfd : t fd = some state) {f : Option Buf → VpnProg α}
    (hf : ∀ r, Disciplined Q (some t) (f r)) :
    Disciplined Q (some t) (servRecFromCli k fd >>= f) := by
  unfold servRecFromCli
  rw [bind_assoc]
  refine .step (.recv fd pktSize) ⟨state, hfd, hstate⟩ fun r => ?_
  cases r with
  | none => exact hf none
  | some bytes =>
    dsimp only
    simp only [bind_assoc]
    exact disciplined_ofMem fun _ => disciplined_ofMem fun _ => disciplined_ofMem fun p => hf (some p)

lemma disciplined_receivePkt {fd : Fd} (hfd : t fd = some state) (n : Nat) {f : Option Buf → VpnProg α}
    (hf : ∀ r, Disciplined Q (some t) (f r)) :
    Disciplined Q (some t) ((Sock.recv fd n >>= fun r => pure (r.map (received n))) >>= f) := by
  rw [bind_assoc]
  exact .step (.recv fd n) ⟨state, hfd, hstate⟩ fun r => hf _

end Parts

section Sessions

variable (order : ByteOrder) (k : Key)

/-- A socket that has listened and a connection are left open, in these states. -/
def LeavesOpen (listener connection : FdState) (t : FdTable) : Prop :=
  ∃ fd fd', fd ≠ fd' ∧
    t = Function.update (Function.update FdTable.empty fd (some listener)) fd' (some connection)

/-- The client closes its socket on every way. -/
theorem disciplined_clientSession (clientIp serverIp destIp payload : CString) :
    Disciplined (fun t _ => t = FdTable.empty) (some FdTable.empty)
      (clientSession order k clientIp serverIp destIp payload) := by
  unfold clientSession
  refine disciplined_createClientSocket (fun clientFd _ => ?_) (.ret rfl)
  have hclosed : ∀ state, Function.update (Function.update FdTable.empty clientFd state) clientFd none =
      FdTable.empty := by
    intro state
    rw [Function.update_idem, FdTable.update_empty]
  refine disciplined_connectToServer (Function.update_self ..) serverIp ?_ ?_
  case refine_2 =>
    rw [if_pos rfl]
    refine .step (.close clientFd) ?_ fun _ => .ret (hclosed _)
    rw [FdTable.Allows, Function.update_self]
    exact Option.some_ne_none _
  rw [if_neg (by decide), Function.update_idem]
  have hdialed : Function.update FdTable.empty clientFd (some FdState.dialed) clientFd = some .dialed :=
    Function.update_self ..
  have hopen : Function.update FdTable.empty clientFd (some FdState.dialed) clientFd ≠ none := by
    rw [hdialed]
    exact Option.some_ne_none _
  have hrest : Disciplined (fun t _ => t = FdTable.empty)
      (some (Function.update FdTable.empty clientFd (some .dialed))) (do
        let respPkt ← deref (← servRecFromCli k clientFd)
        showPacket order respPkt
        Sock.close clientFd
        return 0 : VpnProg Int) :=
    disciplined_servRecFromCli k (.inr rfl) hdialed fun r => disciplined_ofMem fun respPkt =>
      disciplined_prints (prints_showPacket order respPkt) fun _ =>
        .step (.close clientFd) hopen fun _ => .ret (hclosed _)
  refine disciplined_say _ (disciplined_ofMem fun packet =>
    disciplined_prints (prints_showPacket order packet) fun _ =>
      disciplined_sendAndFreePacketVpn (.inr rfl) hdialed packet _ _ fun r => ?_)
  split
  · exact disciplined_say _ hrest
  · exact hrest

lemma disciplined_serverRelay {α : Type} {Q : FdTable → α → Prop} {t : FdTable} {newSocket : Fd}
    (hnew : t newSocket = some .accepted) (serverIp : CString) {f : Option (Fd × UInt32) → VpnProg α}
    (hok : ∀ clientFd clientIp, t clientFd = none →
      Disciplined Q (some (Function.update t clientFd (some .dialed))) (f (some (clientFd, clientIp))))
    (hfail : ∀ t', Disciplined Q (some t') (f none)) :
    Disciplined Q (some t) (serverRelay order k newSocket serverIp >>= f) := by
  rw [serverRelay, bind_assoc]
  refine disciplined_servRecFromCli k (.inl rfl) hnew fun r => ?_
  cases r with
  | none =>
    dsimp only
    rw [bind_assoc]
    exact disciplined_say _ (hfail _)
  | some recPacket =>
    simp only [bind_assoc]
    refine disciplined_prints (prints_showPacket order recPacket) fun _ => disciplined_ofMem fun clientIp =>
      disciplined_ofMem fun fixed => disciplined_createClientSocket (fun clientFd hclient => ?_) (hfail _)
    simp only [bind_assoc]
    refine disciplined_ofMem fun fixedIp => disciplined_ofMem fun str => disciplined_ofMem fun destIp =>
      disciplined_connectToServer (Function.update_self ..) destIp ?_ ?_
    case refine_2 =>
      rw [if_pos rfl, bind_assoc]
      refine .step (.close clientFd) ?_ fun _ => hfail _
      rw [FdTable.Allows, Function.update_self]
      exact Option.some_ne_none _
    rw [if_neg (by decide), Function.update_idem]
    simp only [bind_assoc]
    refine disciplined_ofMem fun bytes => disciplined_send (.inr rfl) (Function.update_self ..) bytes fun r => ?_
    cases r with
    | false =>
      rw [if_pos (by decide), bind_assoc]
      exact disciplined_say _ (hfail _)
    | true =>
      rw [if_neg (by decide), bind_assoc]
      exact disciplined_say _ (hok clientFd clientIp hclient)

lemma disciplined_serverReply {α : Type} {Q : FdTable → α → Prop} {t : FdTable} {newSocket clientFd : Fd}
    (hnew : t newSocket = some .accepted) (hclient : t clientFd = some .dialed) (clientIp : UInt32)
    {f : Int → VpnProg α} (hf : ∀ r, Disciplined Q (some t) (f r)) :
    Disciplined Q (some t) (serverReply order k newSocket clientFd clientIp >>= f) := by
  rw [serverReply]
  simp only [bind_assoc]
  rw [servRecFromDes_eq]
  exact disciplined_receivePkt (.inr rfl) hclient pktSize fun r => disciplined_ofMem fun _ => disciplined_ofMem fun _ =>
    disciplined_ofMem fun _ => disciplined_ofMem fun _ => disciplined_ofMem fun _ =>
    disciplined_ofMem fun encPkt => disciplined_prints (prints_showPacket order _) fun _ =>
    disciplined_ofMem fun _ => disciplined_servCliEncryptFree k (.inl rfl) hnew _ _ _ hf

/-- The server shuts down its listening socket and closes the client's connection only. -/
theorem disciplined_serverSession (serverIp : CString) :
    Disciplined (fun t status => status = 0 → LeavesOpen .shutDown .dialed t) (some FdTable.empty)
      (serverSession order k serverIp) := by
  unfold serverSession
  refine disciplined_createListeningSocket fun serverFd _ => ?_
  refine disciplined_acceptConnection (Function.update_self ..) fun newSocket hnew => ?_
  refine disciplined_serverRelay order k (Function.update_self ..) serverIp ?_ fun t =>
    .ret fun h => absurd h (by decide)
  intro clientFd clientIp hclient
  have hne : newSocket ≠ clientFd := by
    rintro rfl
    rw [Function.update_self] at hclient
    cases hclient
  have hne' : newSocket ≠ serverFd := by
    rintro rfl
    rw [Function.update_self] at hnew
    cases hnew
  have hserver : serverFd ≠ clientFd := by
    rintro rfl
    rw [Function.update_of_ne hne'.symm, Function.update_self] at hclient
    cases hclient
  refine disciplined_serverReply order k ?_ (Function.update_self ..) clientIp fun _ => ?_
  · rw [Function.update_of_ne hne, Function.update_self]
  refine .step (.close newSocket) ?_ fun _ => .step (.shutdown serverFd) ?_ fun _ => .ret fun _ => ?_
  · rw [FdTable.Allows, Function.update_of_ne hne, Function.update_self]
    exact Option.some_ne_none _
  · rw [FdTable.Allows, Function.update_of_ne hne'.symm, Function.update_of_ne hserver,
      Function.update_of_ne hne'.symm, Function.update_self]
  · refine ⟨serverFd, clientFd, hserver, ?_⟩
    rw [Function.update_comm hne.symm, Function.update_idem, ← hnew, Function.update_eq_self,
      Function.update_comm hserver.symm, Function.update_idem]

/-- The destination closes both sockets when it returns 0 and none when it returns -1. -/
theorem disciplined_destSession (hostIp responseMsg : CString) :
    Disciplined (fun t status => if status = 0 then t = FdTable.empty else LeavesOpen .listening .accepted t)
      (some FdTable.empty)
      (destSession order hostIp responseMsg) := by
  unfold destSession
  refine disciplined_createListeningSocket fun destFd _ => ?_
  refine disciplined_acceptConnection (Function.update_self ..) fun newSocket hnew => ?_
  have hne : destFd ≠ newSocket := by
    rintro rfl
    rw [Function.update_self] at hnew
    cases hnew
  have hopen : LeavesOpen .listening .accepted (Function.update (Function.update FdTable.empty destFd
      (some .listening)) newSocket (some .accepted)) := ⟨destFd, newSocket, hne, rfl⟩
  rw [destRecPkt_eq]
  refine disciplined_receivePkt (.inl rfl) (Function.update_self ..) destPktSize fun r => ?_
  cases r with
  | none => exact disciplined_say _ (.ret hopen)
  | some recPacket =>
    refine disciplined_prints (prints_showPacketUnencap order recPacket 0) fun _ =>
      disciplined_ofMem fun ipHeader => disciplined_ofMem fun _ => disciplined_ofMem fun _ =>
      disciplined_ofMem fun responsePkt =>
      disciplined_prints (prints_showPacketUnencap order responsePkt _) fun _ =>
      disciplined_ofMem fun bytes => disciplined_send (.inl rfl) (Function.update_self ..) bytes fun r => ?_
    cases r with
    | false => exact .ret hopen
    | true =>
      rw [if_neg (by decide)]
      refine .step (.close newSocket) ?_ fun _ => .step (.close destFd) ?_ fun _ => .ret ?_
      · rw [FdTable.Allows, Function.update_self]
        exact Option.some_ne_none _
      · rw [FdTable.Allows, Function.update_of_ne hne, Function.update_of_ne hne, Function.update_self]
        exact Option.some_ne_none _
      · rw [if_pos rfl, Function.update_idem, Function.update_comm hne, Function.update_idem,
          FdTable.update_empty, FdTable.update_empty]

end Sessions

section Mains

variable (order : ByteOrder) (k : Key)

lemma disciplined_refusal {Q : FdTable → Int → Prop} (hQ : Q FdTable.empty 0) (out : Output) :
    Disciplined Q (some FdTable.empty) (Sock.print out >>= fun _ => pure 0 : VpnProg Int) :=
  disciplined_prints (prints_print out) fun _ => .ret hQ

lemma disciplined_clientMain (argv : List CString) (input : Input) :
    Disciplined (fun t _ => t = FdTable.empty) (some FdTable.empty) (clientMain order k argv input) := by
  unfold clientMain
  split
  · refine disciplined_say _ (disciplined_ofMem fun destHostName => ?_)
    split
    · split
      · exact disciplined_refusal rfl _
      · exact disciplined_clientSession order k _ _ _ _
    · exact disciplined_refusal rfl _
  · exact disciplined_refusal rfl _

/-- The arguments of the server and of the destination: a program name and the name of a host. -/
def NamesHost (argv : List CString) : Prop := ∃ program name ip, argv = [program, name] ∧ getHostIp name = some ip

lemma disciplined_serverMain (argv : List CString) :
    Disciplined (fun t status => status = 0 → (NamesHost argv → LeavesOpen .shutDown .dialed t) ∧
      (¬ NamesHost argv → t = FdTable.empty)) (some FdTable.empty) (serverMain order k argv) := by
  unfold serverMain
  split
  · rename_i program name
    cases hip : getHostIp name with
    | some serverIp =>
      refine (disciplined_serverSession order k serverIp).mono fun t status h hstatus => ?_
      have hnames : NamesHost [program, name] := ⟨program, name, serverIp, rfl, hip⟩
      exact ⟨fun _ => h hstatus, fun hnot => absurd hnames hnot⟩
    | none =>
      refine disciplined_refusal (fun _ => ⟨?_, fun _ => rfl⟩) _
      rintro ⟨program', name', ip, heq, hip'⟩
      cases heq
      rw [hip] at hip'
      cases hip'
  · rename_i hargs
    refine disciplined_refusal (fun _ => ⟨?_, fun _ => rfl⟩) _
    rintro ⟨program, name, ip, rfl, -⟩
    exact absurd rfl (hargs program name)

lemma disciplined_destMain (argv : List CString) :
    Disciplined (fun t status => if status = 0 then t = FdTable.empty else LeavesOpen .listening .accepted t)
      (some FdTable.empty) (destMain order argv) := by
  unfold destMain
  split
  · split
    · exact disciplined_destSession order _ _
    · exact disciplined_refusal rfl _
  · exact disciplined_refusal rfl _

/-- In every run of the three programs, as long as the operating system returns no descriptor that is
open: each call is made on an open descriptor in the right state. The client leaves no descriptor open. The
destination leaves none open when it returns 0, and otherwise its listening socket and the accepted connection.
The server that returns 0 leaves its listening socket open, shut down, and the connection that it has dialed. -/
theorem mains_disciplined (clientArgv serverArgv destArgv : List CString) (input : Input) :
    KeepsDiscipline (fun t _ => t = FdTable.empty) (clientMain order k clientArgv input) ∧
      KeepsDiscipline (fun t status => status = 0 → (NamesHost serverArgv → LeavesOpen .shutDown .dialed t) ∧
        (¬ NamesHost serverArgv → t = FdTable.empty)) (serverMain order k serverArgv) ∧
      KeepsDiscipline (fun t status => if status = 0 then t = FdTable.empty else LeavesOpen .listening .accepted t)
        (destMain order destArgv) :=
  ⟨(disciplined_clientMain order k clientArgv input).keeps,
    (disciplined_serverMain order k serverArgv).keeps, (disciplined_destMain order destArgv).keeps⟩

end Mains

/-- In a run for three hosts the table is kept: the server is left with its listening socket, shut down, and the
connection to the destination, and the others with nothing. -/
theorem mains_disciplined_hosts : ∃ es : Host → List VpnEvent,
    (∀ i, Prog.Trace (programs .little key [.lit "client", .lit "h1", .lit "h2"] [.lit "server", .lit "h2"]
      [.lit "destination", .lit "h3"] (typed "h3") i).prog (es i) (.ret 0)) ∧
    Prog.stateAfter FdTable.after (some FdTable.empty) (es .client) = some FdTable.empty ∧
    (∃ t, Prog.stateAfter FdTable.after (some FdTable.empty) (es .server) = some t ∧ LeavesOpen .shutDown .dialed t) ∧
    Prog.stateAfter FdTable.after (some FdTable.empty) (es .destination) = some FdTable.empty := by
  obtain ⟨hclient, hserver, hdest⟩ := named_hosts
  obtain ⟨view, schedule, hevents, htrace, -⟩ := exists_programs_script .little hclient hserver hdest
    (show clientPayload.length ≤ 127 by decide) (show responseMsg.length ≤ 122 by decide)
  obtain ⟨hkeptC, hkeptS, hkeptD⟩ := mains_disciplined .little key [.lit "client", .lit "h1", .lit "h2"]
    [.lit "server", .lit "h2"] [.lit "destination", .lit "h3"] (typed "h3")
  have hnames : NamesHost [.lit "server", .lit "h2"] := ⟨_, _, .lit "10.0.0.2", rfl, by decide +kernel⟩
  have hafter (i : Host) :
      ∃ t, Prog.stateAfter FdTable.after (some FdTable.empty) (Network.eventsOf i schedule) = some t := by
    rw [hevents]
    cases i <;> exact ⟨_, rfl⟩
  obtain ⟨tc, htc⟩ := hafter .client
  obtain ⟨ts, hts⟩ := hafter .server
  obtain ⟨td, htd⟩ := hafter .destination
  obtain rfl : tc = .empty := (hkeptC _ tc htc).2 0 (htrace .client)
  have hopen := ((hkeptS _ ts hts).2 0 (htrace .server) rfl).1 hnames
  obtain rfl : td = .empty := (hkeptD _ td htd).2 0 (htrace .destination)
  exact ⟨fun i => Network.eventsOf i schedule, htrace, htc, ⟨ts, hts, hopen⟩, htd⟩

end SimpleVpn
