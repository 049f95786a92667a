import SimpleVpn.Lib.Errors
import SimpleVpn.Proofs.Mains
import SimpleVpn.Proofs.OnPackets

/-!
# The errors of the three programs

All memory errors and abnormal ends that a run of a main program can have, whatever the operating system
answers and whatever is received. What has been received decides which of them happens.
-/

namespace SimpleVpn

open CLang Prog

/-- The buffers that a program has received into, with `none` for a receive that failed, and the number of its
stores outside objects. -/
structure Progress where
  received : List (Option Buf)
  strays : Nat

namespace Progress

def start : Progress := ⟨[], 0⟩

def next (p : Progress) : VpnEvent → Progress
  | .call (.recv _ n) r => { p with received := p.received ++ [r.map (SimpleVpn.received n)] }
  | .call _ _ => p
  | .stray _ => { p with strays := p.strays + 1 }

end Progress

/-- The payload field of a reply, as the server cuts it out of its buffer. -/
def answerField (b : Buf) : List UInt8 := (b.drop 40).take 128

/-- The client never stores outside an object. It reads behind the array for the destination's name when its input
is at its end and nothing ends what the array holds, it reads the NULL pointer when its receive has failed, and it
reads behind a packet whose payload field holds no NUL. -/
def clientErrors (input : Input) : ErrorSpec Progress where
  continues p := match p.received with
    | [] => True
    | [some b] => 0 ∈ b.drop 46
    | _ => False
  strays _ _ := False
  stops p e := match p.received with
    | [] => input.Missing ∧ e = overread maxNameLength
    | [none] => e = .fault .null
    | [some b] => 0 ∉ b.drop 46 ∧ e = overread 174
    | _ => False

/-- The server exits while it sets up its socket, and checks its first receive. It reads the NULL pointer when
its second receive has failed, and behind a packet whose payload field holds no NUL. Every answer that it
returns is preceded by one store behind the ciphertext. -/
def serverErrors : ErrorSpec Progress where
  continues p := match p.received with
    | [] => p.strays = 0
    | [none] => p.strays = 0
    | [some a] => p.strays = 0 ∧ 0 ∈ a.drop 46
    | [some _, some b] => p.strays ≤ 1 ∧ 0 ∈ answerField b
    | _ => False
  strays p x := p.strays = 0 ∧ match p.received with
    | [some _, some b] => x = .store (46 + (CString.textOf (answerField b)).length : Nat)
        (46 + (CString.textOf (answerField b)).length)
    | _ => False
  stops p e := p.strays = 0 ∧ match p.received with
    | [] => e = .exit exitFailure
    | [some a] => 0 ∉ a.drop 46 ∧ e = overread 174
    | [some _, none] => e = .fault .null
    | [some _, some b] => 0 ∉ answerField b ∧ e = overread 174
    | _ => False

/-- The destination exits while it sets up its socket, checks its receive, and reads behind a packet whose
payload field holds no NUL. -/
def destErrors : ErrorSpec Progress where
  continues p := match p.received with
    | [] => True
    | [none] => True
    | [some b] => 0 ∈ b.drop 40
    | _ => False
  strays _ _ := False
  stops p e := match p.received with
    | [] => e = .exit exitFailure
    | [some b] => 0 ∉ b.drop 40 ∧ e = overread 168
    | _ => False

section Parts

variable {E : ErrorSpec Progress} {s : Progress} {α β : Type}

lemma behaves_step (c : SysCall Output) (h : E.continues s) {f : SysReply c → VpnProg α}
    (hf : ∀ r, Behaves Progress.next E (s.next (.call c r)) (f r)) :
    Behaves Progress.next E s ((.call c .ret : VpnProg (SysReply c)) >>= f) :=
  .step c h hf

variable (h : E.continues s)
include h

lemma behaves_print (out : Output) {f : Unit → VpnProg α} (hf : Behaves Progress.next E s (f ())) :
    Behaves Progress.next E s (Sock.print out >>= f) :=
  behaves_step (.print out) h fun _ => hf

lemma behaves_say (text : String) {f : Unit → VpnProg α} (hf : Behaves Progress.next E s (f ())) :
    Behaves Progress.next E s (say text >>= f) :=
  behaves_print h _ hf

lemma behaves_createClientSocket {f : Option Fd → VpnProg α} (hf : ∀ r, Behaves Progress.next E s (f r)) :
    Behaves Progress.next E s (createClientSocket >>= f) := by
  rw [createClientSocket, bind_assoc]
  apply behaves_step .socket h
  intro r
  cases r with
  | none => exact behaves_say h _ (hf none)
  | some fd => exact hf (some fd)

lemma behaves_connectToServer (fd : Fd) (serverIp : CString) {f : Int → VpnProg α}
    (hf : ∀ r, Behaves Progress.next E s (f r)) :
    Behaves Progress.next E s (connectToServer fd serverIp >>= f) := by
  rw [connectToServer, bind_assoc]
  apply behaves_step (.inetPton serverIp) h
  intro r
  cases r with
  | none => exact behaves_say h _ (hf (-1))
  | some address =>
    dsimp only
    rw [bind_assoc]
    apply behaves_step (.connect fd address port) h
    intro r
    cases r with
    | true => exact behaves_say h _ (hf 0)
    | false => exact behaves_say h _ (hf (-1))

lemma behaves_createListeningSocket (hexit : E.stops s (.exit exitFailure)) {f : Fd → VpnProg α}
    (hf : ∀ fd, Behaves Progress.next E s (f fd)) :
    Behaves Progress.next E s (createListeningSocket >>= f) := by
  rw [createListeningSocket, bind_assoc]
  apply behaves_step .socket h
  intro r
  cases r with
  | none => exact behaves_say h _ (.stop hexit)
  | some fd =>
    dsimp only
    rw [bind_assoc]
    apply behaves_step (.setsockopt fd) h
    intro r
    cases r with
    | false => exact behaves_say h _ (.stop hexit)
    | true =>
      rw [if_neg (by decide), bind_assoc]
      apply behaves_step (.bind fd port) h
      intro r
      cases r with
      | false => exact behaves_say h _ (.stop hexit)
      | true =>
        rw [if_neg (by decide), bind_assoc]
        apply behaves_step (.listen fd) h
        intro r
        cases r with
        | false => exact behaves_say h _ (.stop hexit)
        | true =>
          rw [if_neg (by decide)]
          exact hf fd

lemma behaves_acceptConnection (fd : Fd) (hexit : E.stops s (.exit exitFailure)) {f : Fd → VpnProg α}
    (hf : ∀ newSocket, Behaves Progress.next E s (f newSocket)) :
    Behaves Progress.next E s (acceptConnection fd >>= f) := by
  rw [acceptConnection, bind_assoc]
  apply behaves_step (.accept fd) h
  intro r
  cases r with
  | none => exact behaves_say h _ (.stop hexit)
  | some newSocket => exact hf newSocket

/-- `serv_rec_from_cli` returns NULL or a packet, or leaves its buffer when the payload is not terminated. -/
lemma behaves_servRecFromCli (k : Key) (sockfd : Fd) {f : Option Packet → VpnProg α}
    (hnone : Behaves Progress.next E ⟨s.received ++ [none], s.strays⟩ (f none))
    (hsome : ∀ (b : Buf) p, 0 ∈ b.drop 46 → Behaves Progress.next E ⟨s.received ++ [some b], s.strays⟩ (f (some p)))
    (hover : ∀ b : Buf, 0 ∉ b.drop 46 → E.stops ⟨s.received ++ [some b], s.strays⟩ (overread 174)) :
    Behaves Progress.next E s (OnPackets.servRecFromCli k sockfd >>= f) := by
  rw [OnPackets.servRecFromCli, bind_assoc]
  refine behaves_step (.recv sockfd pktSize) h fun r => ?_
  cases r with
  | none => exact hnone
  | some bytes =>
    dsimp only
    split
    · rename_i hnul
      exact hsome _ _ hnul
    · rename_i hnul
      exact .stop (hover _ hnul)

end Parts

section Sessions

variable (order : ByteOrder) (k : Key)

lemma behaves_clientResponse (input : Input) (clientFd : Fd) :
    Behaves Progress.next (clientErrors input) .start (OnPackets.clientResponse order k clientFd) := by
  refine behaves_servRecFromCli trivial k clientFd (.stop rfl) (fun b q hb => ?_) fun b hb => ⟨hb, rfl⟩
  have hgoes : (clientErrors input).continues ⟨[some b], 0⟩ := hb
  exact behaves_print hgoes _ (behaves_step (.close clientFd) hgoes fun _ => .ret 0 hgoes)

theorem behaves_clientSession (input : Input) (clientIp serverIp destIp : CString) {request : CString}
    (hreq : request.length ≤ 127) :
    Behaves Progress.next (clientErrors input) .start
      (clientSession order k clientIp serverIp destIp request) := by
  have hstart : (clientErrors input).continues .start := trivial
  obtain ⟨view, h⟩ := clientSession_onPackets order k clientIp serverIp destIp hreq
  rw [h]
  unfold OnPackets.clientSession
  refine behaves_createClientSocket hstart fun r => ?_
  cases r with
  | none => exact .ret _ hstart
  | some clientFd =>
    refine behaves_connectToServer hstart clientFd serverIp fun status => ?_
    split
    · exact behaves_step (.close clientFd) hstart fun _ => .ret _ hstart
    · refine behaves_say hstart _ (behaves_print hstart _ (behaves_step (.send clientFd _) hstart fun r => ?_))
      cases r with
      | true => exact behaves_clientResponse order k input clientFd
      | false => exact behaves_say hstart _ (behaves_clientResponse order k input clientFd)

/-- The server stops, or gives up, or has received a terminated packet. -/
lemma behaves_serverRelay (newSocket : Fd) (serverIp : CString) {f : Option (Fd × UInt32) → VpnProg Int}
    (hsome : ∀ (a : Buf) r, 0 ∈ a.drop 46 → Behaves Progress.next serverErrors ⟨[some a], 0⟩ (f (some r)))
    (hnone : ∀ s, serverErrors.continues s → Behaves Progress.next serverErrors s (f none)) :
    Behaves Progress.next serverErrors .start (serverRelay order k newSocket serverIp >>= f) := by
  have hstart : serverErrors.continues .start := rfl
  have hfailed : serverErrors.continues ⟨[none], 0⟩ := rfl
  rw [serverRelay_onPackets, OnPackets.serverRelay, bind_assoc]
  refine behaves_servRecFromCli hstart k newSocket (behaves_say hfailed _ (hnone _ hfailed))
    (fun a p ha => ?_) fun a ha => ⟨rfl, ha, rfl⟩
  have hgoes : serverErrors.continues ⟨[some a], 0⟩ := ⟨rfl, ha⟩
  dsimp only
  rw [bind_assoc]
  refine behaves_print hgoes _ ?_
  rw [bind_assoc]
  refine behaves_createClientSocket hgoes fun r => ?_
  cases r with
  | none => exact hnone _ hgoes
  | some clientFd =>
    dsimp only
    rw [bind_assoc]
    refine behaves_connectToServer hgoes clientFd _ fun status => ?_
    split
    · exact behaves_step (.close clientFd) hgoes fun _ => hnone _ hgoes
    · rw [bind_assoc]
      refine behaves_step (.send clientFd _) hgoes fun r => ?_
      cases r with
      | false => exact behaves_say hgoes _ (hnone _ hgoes)
      | true => exact behaves_say hgoes _ (hsome a _ ha)

/-- The server stores behind its ciphertext before it returns an answer. -/
lemma behaves_serverReply (newSocket clientFd : Fd) (clientIp : UInt32) {a : Buf} (ha : 0 ∈ a.drop 46)
    {f : Int → VpnProg Int} (hf : ∀ s status, serverErrors.continues s →
      Behaves Progress.next serverErrors s (f status)) :
    Behaves Progress.next serverErrors ⟨[some a], 0⟩
      (serverReply order k newSocket clientFd clientIp >>= f) := by
  have hgoes : serverErrors.continues ⟨[some a], 0⟩ := ⟨rfl, ha⟩
  have hnull : serverErrors.stops ⟨[some a, none], 0⟩ (.fault .null) := ⟨rfl, rfl⟩
  rw [serverReply_onPackets, OnPackets.serverReply, bind_assoc]
  refine behaves_step (.recv clientFd pktSize) hgoes fun r => ?_
  cases r with
  | none => exact .stop hnull
  | some bytes =>
    let b := received pktSize bytes
    let q := (OnPackets.answered order bytes).returned order (ipAddrText clientIp)
    have hq : q.field = answerField b :=
      field_of_wrapped (p := OnPackets.answered order bytes) order (Packet.bytes_ofBytes _)
    change Behaves Progress.next serverErrors ⟨[some a, some b], 0⟩ ((if 0 ∈ q.field then _ else _) >>= f)
    rw [hq]
    split
    · rename_i hnul
      have hbefore : serverErrors.continues ⟨[some a, some b], 0⟩ := ⟨Nat.zero_le 1, hnul⟩
      have hafter : serverErrors.continues ⟨[some a, some b], 1⟩ := ⟨Nat.le_refl 1, hnul⟩
      rw [bind_assoc]
      refine behaves_print hbefore _ (.stray ⟨rfl, rfl⟩ ?_)
      change Behaves Progress.next serverErrors ⟨[some a, some b], 1⟩ ((Sock.send newSocket _ >>= _) >>= f)
      rw [bind_assoc]
      refine behaves_step (.send newSocket _) hafter fun r => ?_
      cases r with
      | true => exact hf _ 0 hafter
      | false => exact hf _ (-1) hafter
    · rename_i hnul
      have hover : serverErrors.stops ⟨[some a, some b], 0⟩ (overread 174) := ⟨rfl, hnul, rfl⟩
      exact .stop hover

theorem behaves_serverSession (serverIp : CString) :
    Behaves Progress.next serverErrors .start (serverSession order k serverIp) := by
  have hstart : serverErrors.continues .start := rfl
  have hexit : serverErrors.stops .start (.exit exitFailure) := ⟨rfl, rfl⟩
  unfold serverSession
  refine behaves_createListeningSocket hstart hexit fun serverFd => ?_
  refine behaves_acceptConnection hstart serverFd hexit fun newSocket => ?_
  refine behaves_serverRelay order k newSocket serverIp (fun a r ha => ?_) fun s hs => .ret _ hs
  refine behaves_serverReply order k newSocket r.1 r.2 ha fun s status hs => ?_
  refine behaves_step (.close newSocket) hs fun _ => ?_
  exact behaves_step (.shutdown serverFd) hs fun _ => .ret 0 hs

theorem behaves_destSession (hostIp : CString) {response : CString} (hresp : response.length ≤ 122) :
    Behaves Progress.next destErrors .start (destSession order hostIp response) := by
  have hstart : destErrors.continues .start := trivial
  have hexit : destErrors.stops .start (.exit exitFailure) := rfl
  rw [destSession_onPackets order hostIp hresp]
  unfold OnPackets.destSession
  refine behaves_createListeningSocket hstart hexit fun destFd => ?_
  refine behaves_acceptConnection hstart destFd hexit fun newSocket => ?_
  refine behaves_step (.recv newSocket destPktSize) hstart fun r => ?_
  cases r with
  | none => exact behaves_say trivial _ (.ret _ trivial)
  | some bytes =>
    let b := received destPktSize bytes
    let p : Packet := .ofInner b (length_received bytes)
    have hp : p.field = b.drop 40 := by
      rw [← p.drop_inner, Packet.inner_ofInner]
      rfl
    change Behaves Progress.next destErrors ⟨[some b], 0⟩ (if 0 ∈ p.field then _ else _)
    rw [hp]
    split
    · rename_i hnul
      have hgoes : destErrors.continues ⟨[some b], 0⟩ := hnul
      refine behaves_print hgoes _ (behaves_print hgoes _ (behaves_step (.send newSocket _) hgoes fun r => ?_))
      cases r with
      | false => exact .ret _ hgoes
      | true =>
        refine behaves_step (.close newSocket) hgoes fun _ => ?_
        exact behaves_step (.close destFd) hgoes fun _ => .ret 0 hgoes
    · rename_i hnul
      have hover : destErrors.stops ⟨[some b], 0⟩ (overread 168) := ⟨hnul, rfl⟩
      exact .stop hover

end Sessions

section Mains

variable (order : ByteOrder) (k : Key)

end Mains

end SimpleVpn
