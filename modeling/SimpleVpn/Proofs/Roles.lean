import SimpleVpn.Lib.Roles
import SimpleVpn.Proofs.OnPackets
import SimpleVpn.Proofs.Outcomes

/-!
# The roles of the three programs

What the client, the server and the destination are for, as roles: which calls each may make next and
with which bytes, whatever the operating system answers and whatever the other hosts send. The three main
programs play these roles.
-/

namespace SimpleVpn

open CLang

section Messages

variable (order : ByteOrder)

/-- The IP header at an index of a packet. -/
def ipHdrAt (packet : List UInt8) (i : Nat) : IpHdr := IpHdr.ofBytes order ((packet.drop i).take sizeofIpHdr)

/-- The packet that the server may send to the destination for a decrypted one: the GRE header is removed,
the source is the server, and of the rest only the checksum of the IP header changes. A NUL ends its payload. -/
structure Forwarding (serverIp : CString) (packet : Buf) (sent : List UInt8) : Prop where
  terminated : 0 ∈ packet.drop 46
  length : sent.length = destPktSize
  header : ∃ sum, ipHdrAt order sent 0 =
    { ipHdrAt order packet sizeofGreHdr with ipSrc := parseIpAddr serverIp, ipSum := sum }
  segment : sent.drop 20 = packet.drop 26

/-- The ciphertext that the server may send to the client for the destination's bytes: a GRE header, the IP
header with the client as its destination and the segment up to the end of the payload string. -/
structure Answering (k : Key) (clientIp : UInt32) (answer : Buf) (sent : List UInt8) : Prop where
  terminated : 0 ∈ (answer.drop 40).take 128
  length : sent.length = 46 + (CString.textOf ((answer.drop 40).take 128)).length
  gre : (xorFrom k 0 sent).take 6 = (freshGre order).toBytes order
  header : ∃ sum, ipHdrAt order (xorFrom k 0 sent) sizeofGreHdr =
    { ipHdrAt order answer 0 with ipDst := clientIp, ipSum := sum }
  segment : (xorFrom k 0 sent).drop 26 =
    (answer.drop 20).take (20 + (CString.textOf ((answer.drop 40).take 128)).length)

lemma Packet.ipHdrAt_bytes (p : Packet) : ipHdrAt order p.bytes sizeofGreHdr = p.ipHdr order := by
  have hdrop : p.bytes.drop sizeofGreHdr = p.inner := List.drop_left' p.length_gre
  have htake : p.inner.take sizeofIpHdr = p.ip := List.take_left' p.length_ip
  rw [ipHdrAt, hdrop, htake]
  rfl

lemma Packet.ipHdrAt_inner (p : Packet) : ipHdrAt order p.inner 0 = p.ipHdr order := by
  have htake : p.inner.take sizeofIpHdr = p.ip := List.take_left' p.length_ip
  rw [ipHdrAt, List.drop_zero, htake]
  rfl

lemma Packet.drop_inner_ip (p : Packet) : p.inner.drop 20 = p.tcp ++ p.field := List.drop_left' p.length_ip

lemma forwarding_relayed {p : Packet} (hp : 0 ∈ p.field) (serverIp : CString) :
    Forwarding order serverIp p.bytes (p.relayed order serverIp).inner where
  terminated := by
    change 0 ∈ p.bytes.drop (getPayload 0)
    rw [p.drop_bytes]
    exact hp
  length := Packet.length_inner _
  header := by
    refine ⟨((p.relayed order serverIp).ipHdr order).ipSum, ?_⟩
    rw [Packet.ipHdrAt_inner, Packet.ipHdrAt_bytes, Packet.relayed, Packet.ipHdr_withIp]
    rfl
  segment := by
    rw [Packet.drop_inner_ip, Packet.tail_bytes]
    rfl

section Reply

variable {p : Packet} {answer : Buf} (hp : p.bytes = wrapped order answer)
include hp

lemma parts_of_wrapped : p.gre = (freshGre order).toBytes order ∧ p.inner = answer.take 168 :=
  List.append_inj hp (p.length_gre.trans (GreHdr.length_toBytes order (freshGre order)).symm)

lemma ipHdr_of_wrapped : p.ipHdr order = ipHdrAt order answer 0 := by
  rw [← p.ipHdrAt_inner, (parts_of_wrapped order hp).2, ipHdrAt, ipHdrAt, List.drop_zero, List.drop_zero,
    List.take_take]
  rfl

lemma field_of_wrapped : p.field = (answer.drop 40).take 128 := by
  rw [← p.drop_inner, (parts_of_wrapped order hp).2, List.drop_take]
  rfl

lemma answering_returned (k : Key) (clientIp : UInt32) (h : 0 ∈ p.field) :
    Answering order k clientIp answer (wire k (.textOf (p.returned order (ipAddrText clientIp)).field)
      ((p.returned order (ipAddrText clientIp)).bytes.take 46)) := by
  let q := p.returned order (ipAddrText clientIp)
  let m := CString.textOf p.field
  have hhdr := length_take_head q.length_bytes
  have hplain : xorFrom k 0 (wire k m (q.bytes.take 46)) = q.gre ++ (q.ip ++ (q.tcp ++ m.bytes)) := by
    rw [wire, xorFrom_xorFrom, q.take_bytes, List.append_assoc, List.append_assoc]
  have hm : m.length < 128 := by
    have hlt := CString.length_textOf_lt h
    rw [p.length_field] at hlt
    exact hlt
  have htext : p.field.take m.length = m.bytes := CString.take_length_textOf p.field
  have hsegment : (answer.drop 20).take 148 = p.tcp ++ p.field := by
    rw [← p.drop_inner_ip, (parts_of_wrapped order hp).2, List.drop_take]
  change Answering order k clientIp answer (wire k m (q.bytes.take 46))
  constructor
  · rw [← field_of_wrapped order hp]
    exact h
  · rw [length_wire k m hhdr, ← field_of_wrapped order hp]
  · rw [hplain]
    exact (List.take_left' q.length_gre).trans (parts_of_wrapped order hp).1
  · refine ⟨(q.ipHdr order).ipSum, ?_⟩
    have hdrop : (q.gre ++ (q.ip ++ (q.tcp ++ m.bytes))).drop sizeofGreHdr = q.ip ++ (q.tcp ++ m.bytes) :=
      List.drop_left' q.length_gre
    have hq : q.ipHdr order =
        resum order { p.ipHdr order with ipDst := parseIpAddr (ipAddrText clientIp) } := Packet.ipHdr_withIp ..
    rw [hplain, ipHdrAt, hdrop, List.take_left' q.length_ip, ← Packet.ipHdr, hq, ipHdr_of_wrapped order hp,
      parseIpAddr_ipAddrText]
    rfl
  · have hhead : (q.gre ++ q.ip).length = 26 := by
      rw [List.length_append, q.length_gre, q.length_ip]
      rfl
    rw [hplain, ← List.append_assoc, List.drop_left' hhead, ← field_of_wrapped order hp,
      ← Nat.min_eq_left (show 20 + m.length ≤ 148 by omega), ← List.take_take, hsegment,
      List.take_append, p.length_tcp, List.take_of_length_le (by rw [p.length_tcp]; exact Nat.le_add_right ..)]
    have hrest : 20 + m.length - sizeofTcpHdr = m.length := Nat.add_sub_cancel_left ..
    rw [hrest, htext]
    rfl

end Reply

end Messages

section Roles

variable (order : ByteOrder) (k : Key)

inductive ClientStage where
  | start
  | opened (fd : Fd)
  | resolved (fd : Fd) (address : List UInt8)
  | connected (fd : Fd)
  | sent (fd : Fd)
  | done

/-- How far the server has got, with its sockets and the buffers that it has received into. -/
inductive ServerStage where
  | listening
  | accepted (client : Fd)
  | requested (client : Fd) (request : Buf)
  | resolved (client : Fd) (request : Buf) (address : List UInt8)
  | dialed (client : Fd) (request : Buf) (dest : Fd)
  | forwarded (client : Fd) (request : Buf) (dest : Fd)
  | answered (client : Fd) (request answer : Buf)
  | done

inductive DestStage where
  | listening
  | accepted (client : Fd)
  | received (client : Fd) (packet : Buf)
  | done

namespace ClientStage

def advance : ClientStage → (c : SysCall Output) → SysReply c → ClientStage
  | .start, .socket, some fd => .opened fd
  | .opened fd, .inetPton _, some address => .resolved fd address
  | .resolved fd _, .connect _ _ _, _ => .connected fd
  | .sent _, .recv _ _, _ => .done
  | s, _, _ => s

/-- After a call that failed the client is done, except that it ignores a failure of its `send`. -/
def next : ClientStage → (c : SysCall Output) → SysReply c → ClientStage
  | .connected fd, .send _ _, _ => .sent fd
  | s, c, r => if succeeds c r then s.advance c r else .done

/-- The client may send its request to the address of the server and receive once. -/
def Allows (request : CString) (hosts : Option (CString × CString × CString)) : ClientStage → SysCall Output → Prop
  | _, .print _ | _, .close _ => True
  | .start, .socket => True
  | .opened _, .inetPton text => ∃ h ∈ hosts, text = h.2.1
  | .resolved fd address, .connect fd' address' p => fd' = fd ∧ address' = address ∧ p = port
  | .connected fd, .send fd' bytes => fd' = fd ∧ ∃ h ∈ hosts,
      bytes = wire k request (header order h.1 h.2.2 ipProtocolTcp tcpFlagSyn)
  | .sent fd, .recv fd' n => fd' = fd ∧ n = pktSize
  | _, _ => False

end ClientStage

namespace ServerStage

def advance : ServerStage → (c : SysCall Output) → SysReply c → ServerStage
  | .listening, .accept _, some client => .accepted client
  | .accepted client, .recv _ n, some request => .requested client (SimpleVpn.received n request)
  | .requested client request, .inetPton _, some address => .resolved client request address
  | .resolved client request _, .connect dest _ _, _ => .dialed client request dest
  | .dialed client request dest, .send _ _, _ => .forwarded client request dest
  | .forwarded client request _, .recv _ n, some answer =>
      .answered client request (SimpleVpn.received n answer)
  | .answered _ _ _, .send _ _, _ => .done
  | s, _, _ => s

/-- After a call that failed the server is done. -/
def next (s : ServerStage) (c : SysCall Output) (r : SysReply c) : ServerStage :=
  if succeeds c r then s.advance c r else .done

/-- The server may call the destination of the packet that it has received, send it the packet with its own
address as the source, and return the answer to the client whose address it has replaced. -/
def Allows (host : Option CString) : ServerStage → SysCall Output → Prop
  | _, .print _ | _, .close _ | _, .shutdown _ => True
  | .listening, .socket | .listening, .setsockopt _ | .listening, .listen _ | .listening, .accept _ => True
  | .listening, .bind _ p => p = port
  | .accepted client, .recv fd n => fd = client ∧ n = pktSize
  | .requested _ _, .socket => True
  | .requested _ request, .inetPton text =>
      text = ipAddrText (ipHdrAt order (decrypted k request) sizeofGreHdr).ipDst
  | .resolved _ _ address, .connect _ address' p => address' = address ∧ p = port
  | .dialed _ request dest, .send fd bytes => fd = dest ∧ ∃ serverIp ∈ host,
      Forwarding order serverIp (decrypted k request) bytes
  | .forwarded _ _ dest, .recv fd n => fd = dest ∧ n = pktSize
  | .answered client request answer, .send fd bytes => fd = client ∧
      Answering order k (ipHdrAt order (decrypted k request) sizeofGreHdr).ipSrc answer bytes
  | _, _ => False

end ServerStage

namespace DestStage

def advance : DestStage → (c : SysCall Output) → SysReply c → DestStage
  | .listening, .accept _, some client => .accepted client
  | .accepted client, .recv _ n, some packet => .received client (SimpleVpn.received n packet)
  | .received _ _, .send _ _, _ => .done
  | s, _, _ => s

/-- After a call that failed the destination is done. -/
def next (s : DestStage) (c : SysCall Output) (r : SysReply c) : DestStage :=
  if succeeds c r then s.advance c r else .done

/-- The destination may answer the packet that it has received with its response for the source of the
packet, and six bytes of padding. -/
def Allows (response : CString) (host : Option CString) : DestStage → SysCall Output → Prop
  | _, .print _ | _, .close _ => True
  | .listening, .socket | .listening, .setsockopt _ | .listening, .listen _ | .listening, .accept _ => True
  | .listening, .bind _ p => p = port
  | .accepted client, .recv fd n => fd = client ∧ n = destPktSize
  | .received client packet, .send fd bytes => fd = client ∧ ∃ hostIp ∈ host,
      bytes = (freshIp order hostIp (ipAddrText (ipHdrAt order packet 0).ipSrc) ipProtocolTcp).toBytes order ++
        (freshTcp order tcpFlagAck).toBytes order ++ response.bytes ++ calloc 6
  | _, _ => False

end DestStage

/-- A client with a request, when three hosts are named, and nobody otherwise. -/
def requestRole (request : CString) (hosts : Option (CString × CString × CString)) :
    Role (@SysReply Output) ClientStage where
  start := if hosts.isSome then .start else .done
  next := ClientStage.next
  Allows := ClientStage.Allows order k request hosts

def clientRole (hosts : Option (CString × CString × CString)) : Role (@SysReply Output) ClientStage :=
  requestRole order k clientPayload hosts

def serverRole (host : Option CString) : Role (@SysReply Output) ServerStage where
  start := if host.isSome then .listening else .done
  next := ServerStage.next
  Allows := ServerStage.Allows order k host

def responseRole (response : CString) (host : Option CString) : Role (@SysReply Output) DestStage where
  start := if host.isSome then .listening else .done
  next := DestStage.next
  Allows := DestStage.Allows order response host

def destRole (host : Option CString) : Role (@SysReply Output) DestStage := responseRole order responseMsg host

/-- The addresses of the client, the server and the destination, when all three are named and differ. -/
def namedHosts (argv : List CString) (input : Input) : Option (CString × CString × CString) :=
  match argv with
  | [_, clientHostName, serverHostName] => do
    let clientIp ← getHostIp clientHostName
    let serverIp ← getHostIp serverHostName
    let destIp ← (readHostName input).value?.bind getHostIp
    if clientIp = serverIp ∨ clientIp = destIp ∨ serverIp = destIp then none
    else some (clientIp, serverIp, destIp)
  | _ => none

/-- The address of the server or of the destination. -/
def namedHost (argv : List CString) : Option CString :=
  match argv with
  | [_, hostName] => getHostIp hostName
  | _ => none

end Roles

section Parts

variable {σ α β : Type} {R : Role (@SysReply Output) σ} {s : σ}

/-- The role ignores prints in every state. -/
def IgnoresPrints (R : Role (@SysReply Output) σ) : Prop := ∀ s, R.Ignores s IsPrint

/-- In the state `s` the calls that open a listening socket are allowed, and keep the state when they
succeed. -/
structure Listens (R : Role (@SysReply Output) σ) (s : σ) : Prop where
  socket : R.Allows s .socket ∧ ∀ fd, R.next s .socket (some fd) = s
  setsockopt : ∀ fd, R.Allows s (.setsockopt fd) ∧ R.next s (.setsockopt fd) true = s
  bind : ∀ fd, R.Allows s (.bind fd port) ∧ R.next s (.bind fd port) true = s
  listen : ∀ fd, R.Allows s (.listen fd) ∧ R.next s (.listen fd) true = s

/-- From the state `s` the server may be called, which leads to `connected` when it succeeds and to `failed`
otherwise. -/
structure Dials (R : Role (@SysReply Output) σ) (s : σ) (fd : Fd) (serverIp : CString)
    (connected failed : σ) : Prop where
  text : R.Allows s (.inetPton serverIp)
  unresolved : R.next s (.inetPton serverIp) none = failed
  connect : ∀ address, R.Allows (R.next s (.inetPton serverIp) (some address)) (.connect fd address port)
  connected : ∀ address, R.next (R.next s (.inetPton serverIp) (some address))
    (.connect fd address port) true = connected
  refused : ∀ address, R.next (R.next s (.inetPton serverIp) (some address))
    (.connect fd address port) false = failed

lemma conforms_step (c : SysCall Output) (h : R.Allows s c) {f : SysReply c → VpnProg α}
    (hf : ∀ r, R.Conforms (R.next s c r) (f r)) :
    R.Conforms s ((.call c .ret : VpnProg (SysReply c)) >>= f) :=
  .step c h hf

/-- `serv_rec_from_cli` returns the decrypted packet when its payload is terminated. -/
lemma conforms_servRecFromCli (k : Key) (sockfd : Fd) (hrecv : R.Allows s (.recv sockfd pktSize))
    {f : Option Packet → VpnProg α} (hnone : R.Conforms (R.next s (.recv sockfd pktSize) none) (f none))
    (hsome : ∀ (bytes : Received pktSize) (p : Packet), p.bytes = decrypted k (received pktSize bytes) →
      0 ∈ p.field → R.Conforms (R.next s (.recv sockfd pktSize) (some bytes)) (f (some p))) :
    R.Conforms s (OnPackets.servRecFromCli k sockfd >>= f) := by
  rw [OnPackets.servRecFromCli, bind_assoc]
  refine conforms_step (.recv sockfd pktSize) hrecv fun r => ?_
  cases r with
  | none => exact hnone
  | some bytes =>
    dsimp only
    split
    · rename_i hnul
      exact hsome bytes _ (Packet.bytes_ofBytes _) (zero_mem_decrypted k hnul)
    · exact .stop _

variable (hprint : IgnoresPrints R)
include hprint

lemma conforms_print (out : Output) {f : Unit → VpnProg α} (hf : R.Conforms s (f ())) :
    R.Conforms s (Sock.print out >>= f) :=
  .of_only (prints_print out) (hprint s) fun _ => hf

lemma conforms_say (text : String) {f : Unit → VpnProg α} (hf : R.Conforms s (f ())) :
    R.Conforms s (say text >>= f) :=
  conforms_print hprint _ hf

lemma conforms_createClientSocket (hsocket : R.Allows s .socket) {f : Option Fd → VpnProg α}
    (hsome : ∀ fd, R.Conforms (R.next s .socket (some fd)) (f (some fd)))
    (hnone : R.Conforms (R.next s .socket none) (f none)) : R.Conforms s (createClientSocket >>= f) := by
  rw [createClientSocket, bind_assoc]
  apply conforms_step .socket hsocket
  intro r
  cases r with
  | some fd => exact hsome fd
  | none => exact conforms_say hprint _ hnone

lemma conforms_connectToServer {fd : Fd} {serverIp : CString} {connected failed : σ}
    (h : Dials R s fd serverIp connected failed) {f : Int → VpnProg α} (hok : R.Conforms connected (f 0))
    (hfail : R.Conforms failed (f (-1))) : R.Conforms s (connectToServer fd serverIp >>= f) := by
  rw [connectToServer, bind_assoc]
  apply conforms_step (.inetPton serverIp) h.text
  intro r
  cases r with
  | none =>
    rw [h.unresolved]
    exact conforms_say hprint _ hfail
  | some address =>
    dsimp only
    rw [bind_assoc]
    apply conforms_step (.connect fd address port) (h.connect address)
    intro r
    cases r with
    | true =>
      rw [h.connected address]
      exact conforms_say hprint _ hok
    | false =>
      rw [h.refused address]
      exact conforms_say hprint _ hfail

lemma conforms_createListeningSocket (h : Listens R s) {f : Fd → VpnProg α}
    (hf : ∀ fd, R.Conforms s (f fd)) : R.Conforms s (createListeningSocket >>= f) := by
  rw [createListeningSocket, bind_assoc]
  apply conforms_step .socket h.socket.1
  intro r
  cases r with
  | none => exact conforms_say hprint _ (.stop _)
  | some fd =>
    rw [h.socket.2 fd, bind_assoc]
    apply conforms_step (.setsockopt fd) (h.setsockopt fd).1
    intro r
    cases r with
    | false => exact conforms_say hprint _ (.stop _)
    | true =>
      rw [if_neg (by decide), bind_assoc, (h.setsockopt fd).2]
      apply conforms_step (.bind fd port) (h.bind fd).1
      intro r
      cases r with
      | false => exact conforms_say hprint _ (.stop _)
      | true =>
        rw [if_neg (by decide), bind_assoc, (h.bind fd).2]
        apply conforms_step (.listen fd) (h.listen fd).1
        intro r
        cases r with
        | false => exact conforms_say hprint _ (.stop _)
        | true =>
          rw [if_neg (by decide), (h.listen fd).2]
          exact hf fd

lemma conforms_acceptConnection {fd : Fd} (haccept : R.Allows s (.accept fd)) {f : Fd → VpnProg α}
    (hf : ∀ newSocket, R.Conforms (R.next s (.accept fd) (some newSocket)) (f newSocket)) :
    R.Conforms s (acceptConnection fd >>= f) := by
  rw [acceptConnection, bind_assoc]
  apply conforms_step (.accept fd) haccept
  intro r
  cases r with
  | none => exact conforms_say hprint _ (.stop _)
  | some newSocket => exact hf newSocket

end Parts

/-! ### Client -/

section Client

variable (order : ByteOrder) (k : Key)

lemma ignoresPrints_requestRole (request : CString) (hosts : Option (CString × CString × CString)) :
    IgnoresPrints (requestRole order k request hosts) := by
  rintro s c ⟨out, rfl⟩
  cases s <;> exact ⟨trivial, fun _ => rfl⟩

/-- The client receives its response and prints it; without a response it reads the NULL pointer. -/
lemma conforms_clientResponse (request : CString) (hosts : Option (CString × CString × CString)) (fd : Fd) :
    (requestRole order k request hosts).Conforms (.sent fd) (OnPackets.clientResponse order k fd) := by
  have hprint := ignoresPrints_requestRole order k request hosts
  have hrecv : ClientStage.Allows order k request hosts (.sent fd) (.recv fd pktSize) := ⟨rfl, rfl⟩
  refine conforms_servRecFromCli k fd hrecv (.stop _) fun bytes p _ _ => conforms_print hprint _ ?_
  exact conforms_step (s := ClientStage.done) (.close fd) trivial fun _ => .ret _

theorem conforms_clientSession (clientIp serverIp destIp : CString) {request : CString}
    (hreq : request.length ≤ 127) :
    (requestRole order k request (some (clientIp, serverIp, destIp))).Conforms .start
      (clientSession order k clientIp serverIp destIp request) := by
  have hprint := ignoresPrints_requestRole order k request (some (clientIp, serverIp, destIp))
  obtain ⟨view, h⟩ := clientSession_onPackets order k clientIp serverIp destIp hreq
  rw [h]
  unfold OnPackets.clientSession
  refine conforms_createClientSocket (s := ClientStage.start) hprint trivial (fun clientFd => ?_) (.ret _)
  have hdial : Dials (requestRole order k request (some (clientIp, serverIp, destIp))) (.opened clientFd) clientFd
      serverIp (.connected clientFd) .done :=
    ⟨⟨_, rfl, rfl⟩, rfl, fun _ => ⟨rfl, rfl, rfl⟩, fun _ => rfl, fun _ => rfl⟩
  refine conforms_connectToServer hprint hdial ?_ ?_
  · rw [if_neg (by decide)]
    refine conforms_say hprint _ (conforms_print hprint _ ?_)
    have hsend : ClientStage.Allows order k request (some (clientIp, serverIp, destIp)) (.connected clientFd)
        (.send clientFd (wire k request (header order clientIp destIp ipProtocolTcp tcpFlagSyn))) :=
      ⟨rfl, _, rfl, rfl⟩
    refine conforms_step (.send clientFd _) hsend fun r => ?_
    have hresponse := conforms_clientResponse order k request (some (clientIp, serverIp, destIp)) clientFd
    cases r with
    | true => exact hresponse
    | false => exact conforms_say hprint _ hresponse
  · rw [if_pos rfl]
    exact conforms_step (s := ClientStage.done) (.close clientFd) trivial fun _ => .ret _

end Client

/-! ### Server -/

section Server

variable (order : ByteOrder) (k : Key)

lemma ignoresPrints_serverRole (host : Option CString) : IgnoresPrints (serverRole order k host) := by
  rintro s c ⟨out, rfl⟩
  cases s <;> exact ⟨trivial, fun _ => rfl⟩

lemma listens_serverRole (host : Option CString) : Listens (serverRole order k host) .listening where
  socket := ⟨trivial, fun _ => rfl⟩
  setsockopt _ := ⟨trivial, rfl⟩
  bind _ := ⟨rfl, rfl⟩
  listen _ := ⟨trivial, rfl⟩

/-- The server forwards the packet that it receives, or gives up. -/
lemma conforms_serverRelay (client : Fd) (serverIp : CString) {f : Option (Fd × UInt32) → VpnProg Int}
    (hf : ∀ request dest, (serverRole order k (some serverIp)).Conforms (.forwarded client request dest)
      (f (some (dest, (ipHdrAt order (decrypted k request) sizeofGreHdr).ipSrc))))
    (hnone : (serverRole order k (some serverIp)).Conforms .done (f none)) :
    (serverRole order k (some serverIp)).Conforms (.accepted client)
      (serverRelay order k client serverIp >>= f) := by
  have hprint := ignoresPrints_serverRole order k (some serverIp)
  have hrecv : ServerStage.Allows order k (some serverIp) (.accepted client) (.recv client pktSize) := ⟨rfl, rfl⟩
  rw [serverRelay_onPackets, OnPackets.serverRelay, bind_assoc]
  refine conforms_servRecFromCli k client hrecv (conforms_say hprint _ hnone) fun bytes p hdec hfield => ?_
  let request := received pktSize bytes
  change (serverRole order k (some serverIp)).Conforms (.requested client request) _
  have hip : ipHdrAt order (decrypted k request) sizeofGreHdr = p.ipHdr order := by
    rw [← hdec, p.ipHdrAt_bytes]
  dsimp only
  rw [bind_assoc]
  apply conforms_print hprint
  rw [bind_assoc]
  refine conforms_createClientSocket (s := ServerStage.requested client request) hprint trivial
    (fun dest => ?_) hnone
  dsimp only
  rw [bind_assoc]
  have htext : ipAddrText (p.ipHdr order).ipDst =
      ipAddrText (ipHdrAt order (decrypted k request) sizeofGreHdr).ipDst := by
    rw [hip]
  have hdial : Dials (serverRole order k (some serverIp)) (.requested client request) dest
      (ipAddrText (p.ipHdr order).ipDst) (.dialed client request dest) .done :=
    ⟨htext, rfl, fun _ => ⟨rfl, rfl⟩, fun _ => rfl, fun _ => rfl⟩
  refine conforms_connectToServer hprint hdial ?_ ?_
  · rw [if_neg (by decide), bind_assoc]
    have hsend : ServerStage.Allows order k (some serverIp) (.dialed client request dest)
        (.send dest (p.relayed order serverIp).inner) := by
      refine ⟨rfl, serverIp, rfl, ?_⟩
      rw [← hdec]
      exact forwarding_relayed order hfield serverIp
    refine conforms_step (.send dest _) hsend fun r => ?_
    cases r with
    | false => exact conforms_say hprint _ hnone
    | true =>
      apply conforms_say hprint
      rw [← hip]
      exact hf request dest
  · rw [if_pos rfl]
    exact conforms_step (s := ServerStage.done) (.close dest) trivial fun _ => hnone

/-- The server returns the answer that it receives, or stops. -/
lemma conforms_serverReply (host : Option CString) (client dest : Fd) (request : Buf) {f : Int → VpnProg Int}
    (hf : ∀ status, (serverRole order k host).Conforms .done (f status)) :
    (serverRole order k host).Conforms (.forwarded client request dest)
      (serverReply order k client dest (ipHdrAt order (decrypted k request) sizeofGreHdr).ipSrc >>= f) := by
  have hprint := ignoresPrints_serverRole order k host
  have hrecv : ServerStage.Allows order k host (.forwarded client request dest) (.recv dest pktSize) :=
    ⟨rfl, rfl⟩
  rw [serverReply_onPackets, OnPackets.serverReply, bind_assoc]
  refine conforms_step (.recv dest pktSize) hrecv fun r => ?_
  cases r with
  | none => exact .stop _
  | some bytes =>
    let answer := received pktSize bytes
    let clientIp := (ipHdrAt order (decrypted k request) sizeofGreHdr).ipSrc
    let q := (OnPackets.answered order bytes).returned order (ipAddrText clientIp)
    change (serverRole order k host).Conforms (.answered client request answer) ((if 0 ∈ q.field then _ else _) >>= f)
    split
    · rename_i hfield
      have hanswered : (OnPackets.answered order bytes).bytes = wrapped order answer := Packet.bytes_ofBytes _
      have hsend : ServerStage.Allows order k host (.answered client request answer)
          (.send client (wire k (.textOf q.field) (q.bytes.take 46))) :=
        ⟨rfl, answering_returned order hanswered k clientIp hfield⟩
      rw [bind_assoc]
      refine conforms_print hprint _ (.stray _ ?_)
      change (serverRole order k host).Conforms (.answered client request answer) ((Sock.send client _ >>= _) >>= f)
      rw [bind_assoc]
      refine conforms_step (.send client _) hsend fun r => ?_
      cases r with
      | true => exact hf 0
      | false => exact hf (-1)
    · exact .stop _

theorem conforms_serverSession (serverIp : CString) :
    (serverRole order k (some serverIp)).Conforms .listening (serverSession order k serverIp) := by
  have hprint := ignoresPrints_serverRole order k (some serverIp)
  unfold serverSession
  refine conforms_createListeningSocket hprint (listens_serverRole order k (some serverIp)) fun serverFd => ?_
  refine conforms_acceptConnection (s := ServerStage.listening) hprint trivial fun newSocket => ?_
  refine conforms_serverRelay order k newSocket serverIp (fun request dest => ?_) (.ret _)
  refine conforms_serverReply order k (some serverIp) newSocket dest request fun _ => ?_
  refine conforms_step (s := ServerStage.done) (.close newSocket) trivial fun _ => ?_
  exact conforms_step (s := ServerStage.done) (.shutdown serverFd) trivial fun _ => .ret _

end Server

/-! ### Destination -/

section Destination

variable (order : ByteOrder)

lemma ignoresPrints_responseRole (response : CString) (host : Option CString) :
    IgnoresPrints (responseRole order response host) := by
  rintro s c ⟨out, rfl⟩
  cases s <;> exact ⟨trivial, fun _ => rfl⟩

lemma listens_responseRole (response : CString) (host : Option CString) :
    Listens (responseRole order response host) .listening where
  socket := ⟨trivial, fun _ => rfl⟩
  setsockopt _ := ⟨trivial, rfl⟩
  bind _ := ⟨rfl, rfl⟩
  listen _ := ⟨trivial, rfl⟩

theorem conforms_destSession (hostIp : CString) {response : CString} (hresp : response.length ≤ 122) :
    (responseRole order response (some hostIp)).Conforms .listening (destSession order hostIp response) := by
  have hprint := ignoresPrints_responseRole order response (some hostIp)
  rw [destSession_onPackets order hostIp hresp]
  unfold OnPackets.destSession
  refine conforms_createListeningSocket hprint (listens_responseRole order response (some hostIp)) fun destFd => ?_
  refine conforms_acceptConnection (s := DestStage.listening) hprint trivial fun client => ?_
  have hrecv : DestStage.Allows order response (some hostIp) (.accepted client) (.recv client destPktSize) := ⟨rfl, rfl⟩
  refine conforms_step (.recv client destPktSize) hrecv fun r => ?_
  cases r with
  | none => exact conforms_say hprint _ (.ret _)
  | some bytes =>
    let packet := received destPktSize bytes
    let p : Packet := .ofInner packet (length_received bytes)
    have hip : p.ipHdr order = ipHdrAt order packet 0 := by
      rw [← p.ipHdrAt_inner, Packet.inner_ofInner]
    change (responseRole order response (some hostIp)).Conforms (.received client packet) _
    dsimp only
    split
    · refine conforms_print hprint _ (conforms_print hprint _ ?_)
      have hsend : DestStage.Allows order response (some hostIp) (.received client packet)
          (.send client ((freshIp order hostIp (ipAddrText (p.ipHdr order).ipSrc) ipProtocolTcp).toBytes order ++
            (freshTcp order tcpFlagAck).toBytes order ++ response.bytes ++ calloc 6)) := by
        rw [hip]
        exact ⟨rfl, _, rfl, rfl⟩
      refine conforms_step (.send client _) hsend fun r => ?_
      cases r with
      | false => exact .ret _
      | true =>
        rw [if_neg (by decide)]
        refine conforms_step (s := DestStage.done) (.close client) trivial fun _ => ?_
        exact conforms_step (s := DestStage.done) (.close destFd) trivial fun _ => .ret _
    · exact .stop _

end Destination

section Mains

variable (order : ByteOrder) (k : Key)

/-- A program that only prints plays the part of nobody. -/
lemma conforms_refusal {σ : Type} {R : Role (@SysReply Output) σ} (hprint : IgnoresPrints R) {s : σ}
    (out : Output) : R.Conforms s (Sock.print out >>= fun _ => pure 0 : VpnProg Int) :=
  conforms_print hprint out (.ret _)

lemma conforms_clientMain (argv : List CString) (input : Input) :
    (clientRole order k (namedHosts argv input)).Conforms (clientRole order k (namedHosts argv input)).start
      (clientMain order k argv input) := by
  have hprint := ignoresPrints_requestRole order k clientPayload (namedHosts argv input)
  unfold clientMain
  split
  · rename_i program clientHostName serverHostName
    refine conforms_say hprint _ ?_
    rcases readHostName_cases input with ⟨destHostName, hname⟩ | ⟨-, hfault⟩
    case inr =>
      rw [hfault]
      exact .stop _
    rw [hname, Prog.liftM_eq_ofMem, Prog.ofMem_pure, pure_bind]
    split
    · rename_i clientIp serverIp destIp hclient hserver hdest
      split
      · exact conforms_refusal hprint _
      · rename_i hne
        have hnamed : namedHosts [program, clientHostName, serverHostName] input =
            some (clientIp, serverIp, destIp) := by
          simp [namedHosts, hclient, hserver, hname, hdest, hne]
        rw [hnamed]
        exact conforms_clientSession order k clientIp serverIp destIp (by decide)
    · exact conforms_refusal hprint _
  · exact conforms_refusal hprint _

lemma conforms_serverMain (argv : List CString) :
    (serverRole order k (namedHost argv)).Conforms (serverRole order k (namedHost argv)).start
      (serverMain order k argv) := by
  have hprint := ignoresPrints_serverRole order k (namedHost argv)
  unfold serverMain
  split
  · rename_i program hostName
    cases hip : getHostIp hostName with
    | some serverIp =>
      have hnamed : namedHost [program, hostName] = some serverIp := hip
      rw [hnamed]
      exact conforms_serverSession order k serverIp
    | none => exact conforms_refusal hprint _
  · exact conforms_refusal hprint _

lemma conforms_destMain (argv : List CString) :
    (destRole order (namedHost argv)).Conforms (destRole order (namedHost argv)).start (destMain order argv) := by
  have hprint := ignoresPrints_responseRole order responseMsg (namedHost argv)
  unfold destMain
  split
  · rename_i program hostName
    cases hip : getHostIp hostName with
    | some hostIp =>
      have hnamed : namedHost [program, hostName] = some hostIp := hip
      rw [hnamed]
      exact conforms_destSession order hostIp (by decide)
    | none => exact conforms_refusal hprint _
  · exact conforms_refusal hprint _

/-- For all arguments and inputs the three main programs play their roles in every run, whatever the operating
system answers and whatever is received. -/
theorem mains_playRoles (clientArgv serverArgv destArgv : List CString) (input : Input) :
    (clientRole order k (namedHosts clientArgv input)).PlayedBy (clientMain order k clientArgv input) ∧
      (serverRole order k (namedHost serverArgv)).PlayedBy (serverMain order k serverArgv) ∧
      (destRole order (namedHost destArgv)).PlayedBy (destMain order destArgv) :=
  ⟨(conforms_clientMain order k clientArgv input).playedBy, (conforms_serverMain order k serverArgv).playedBy,
    (conforms_destMain order destArgv).playedBy⟩

end Mains

end SimpleVpn
