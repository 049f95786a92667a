import SimpleVpn.Proofs.Allocations

/-!
# Outcomes

A run of a program is summed up by the number of its sends and by the calls that failed. They
determine the exit status of the run and the number of blocks that it leaves allocated.
-/

namespace SimpleVpn

open CLang HeapProg

/-- The number of successful sends and the calls that failed. -/
structure Tally where
  sent : Nat
  failed : List (SysCall Output)

namespace Tally

def sends (t : Tally) : Tally := { t with sent := t.sent + 1 }

def fails (t : Tally) (c : SysCall Output) : Tally := { t with failed := t.failed ++ [c] }

def next (t : Tally) (c : SysCall Output) (r : SysReply c) : Tally :=
  if succeeds c r then
    match c with
    | .send _ _ => t.sends
    | _ => t
  else t.fails c

end Tally

/-- The sends and failures of a run. -/
def tally (es : List VpnEvent) : Tally := Prog.stateAfter Tally.next ⟨0, []⟩ es

def IsPrint (c : SysCall Output) : Prop := ∃ out, c = .print out

section Prints

lemma prints_print (out : Output) : Prog.Only IsPrint (Sock.print out : VpnProg Unit) :=
  Prog.only_call _ ⟨out, rfl⟩ fun _ => Prog.only_pure _

lemma prints_say (text : String) : Prog.Only IsPrint (say text) := prints_print _

lemma prints_showPacket (order : ByteOrder) (packet : Buf) :
    Prog.Only IsPrint (SimpleVpn.showPacket order packet) :=
  (Prog.only_ofMem _).bind fun _ => prints_print _

lemma prints_showPacketUnencap (order : ByteOrder) (packet : Buf) (i : Nat) :
    Prog.Only IsPrint (SimpleVpn.showPacketUnencap order packet i) :=
  (Prog.only_ofMem _).bind fun _ => prints_print _

end Prints

section Parts

variable {α β γ δ : Type} {S : Tally → α → β → Prop} {s : Tally}

abbrev Simulates (S : Tally → α → β → Prop) : Tally → VpnProg α → VpnProg β → Prop :=
  Prog.Simulates Tally.next S

lemma simulates_step (c : SysCall Output) {f : SysReply c → VpnProg α} {g : SysReply c → VpnProg β}
    (h : ∀ r, Simulates S (s.next c r) (f r) (g r)) :
    Simulates S s ((.call c .ret : VpnProg (SysReply c)) >>= f)
      ((.call c .ret : VpnProg (SysReply c)) >>= g) :=
  .step c h

lemma simulates_prints {p : VpnProg γ} (hp : Prog.Only IsPrint p) {f : γ → VpnProg α}
    {g : γ → VpnProg β} (h : ∀ c, Simulates S s (f c) (g c)) : Simulates S s (p >>= f) (p >>= g) := by
  refine .of_only hp ?_ h
  rintro c r ⟨out, rfl⟩
  rfl

lemma simulates_say (text : String) {f : Unit → VpnProg α} {g : Unit → VpnProg β}
    (h : Simulates S s (f ()) (g ())) : Simulates S s (say text >>= f) (say text >>= g) :=
  simulates_prints (prints_say text) fun _ => h

lemma simulates_createClientSocket {f : Option Fd → VpnProg α} {g : Option Fd → VpnProg β}
    (hsome : ∀ fd, Simulates S s (f (some fd)) (g (some fd)))
    (hnone : Simulates S (s.fails .socket) (f none) (g none)) :
    Simulates S s (createClientSocket >>= f) (createClientSocket >>= g) := by
  rw [createClientSocket, bind_assoc, bind_assoc]
  refine simulates_step .socket fun r => ?_
  cases r with
  | some fd => exact hsome fd
  | none => exact simulates_say _ hnone

lemma simulates_connectToServer (fd : Fd) (serverIp : CString) {f : Int → VpnProg α}
    {g : Int → VpnProg β} (hok : Simulates S s (f 0) (g 0))
    (htext : Simulates S (s.fails (.inetPton serverIp)) (f (-1)) (g (-1)))
    (hconnect : ∀ address, Simulates S (s.fails (.connect fd address port)) (f (-1)) (g (-1))) :
    Simulates S s (connectToServer fd serverIp >>= f) (connectToServer fd serverIp >>= g) := by
  rw [connectToServer, bind_assoc, bind_assoc]
  refine simulates_step (.inetPton serverIp) fun r => ?_
  cases r with
  | none => exact simulates_say _ htext
  | some address =>
    dsimp only
    rw [bind_assoc, bind_assoc]
    refine simulates_step (.connect fd address port) fun r => ?_
    cases r with
    | true => exact simulates_say _ hok
    | false => exact simulates_say _ (hconnect address)

lemma simulates_createListeningSocket {f : Fd → VpnProg α} {g : Fd → VpnProg β}
    (h : ∀ fd, Simulates S s (f fd) (g fd)) :
    Simulates S s (createListeningSocket >>= f) (createListeningSocket >>= g) := by
  rw [createListeningSocket, bind_assoc, bind_assoc]
  refine simulates_step .socket fun r => ?_
  cases r with
  | none => exact simulates_say _ (.stop _)
  | some fd =>
    dsimp only
    rw [bind_assoc, bind_assoc]
    refine simulates_step (.setsockopt fd) fun r => ?_
    cases r with
    | false => exact simulates_say _ (.stop _)
    | true =>
      rw [if_neg (by decide), bind_assoc, bind_assoc]
      refine simulates_step (.bind fd port) fun r => ?_
      cases r with
      | false => exact simulates_say _ (.stop _)
      | true =>
        rw [if_neg (by decide), bind_assoc, bind_assoc]
        refine simulates_step (.listen fd) fun r => ?_
        cases r with
        | false => exact simulates_say _ (.stop _)
        | true => exact h fd

lemma simulates_acceptConnection (fd : Fd) {f : Fd → VpnProg α} {g : Fd → VpnProg β}
    (h : ∀ newSocket, Simulates S s (f newSocket) (g newSocket)) :
    Simulates S s (acceptConnection fd >>= f) (acceptConnection fd >>= g) := by
  rw [acceptConnection, bind_assoc, bind_assoc]
  refine simulates_step (.accept fd) fun r => ?_
  cases r with
  | some newSocket => exact h newSocket
  | none => exact simulates_say _ (.stop _)

end Parts

section HeapParts

variable {α β : Type} {S : Tally → α → Option (β × Heap) → Prop} {s : Tally} {h : Heap}
  {t : List (Option Buf)} {n : Nat} {b : Buf} (order : ByteOrder) (k : Key) {junk : Ptr → Nat → Buf}

lemma simulates_showPacket (hjunk : ∀ i n, (junk i n).length = n) (hn : t[n]? = some (some b))
    {f : Unit → VpnProg α} {g : Unit → HeapProg (@SysReply Output) β}
    (hprint : Simulates S s (f ()) (g () (h ++ (t ++ [none, none])))) :
    Simulates S s (showPacket order b >>= f)
      ((OnHeap.showPacket order junk (h.length + n) >>= g) (h ++ t)) := by
  rw [bind_of_eq (OnHeap.showPacket_apply order hjunk ((getElem?_extended h t n).trans hn)),
    List.append_assoc]
  exact simulates_prints (prints_showPacket order b) fun _ => hprint

lemma simulates_showPacketUnencap (hjunk : ∀ i n, (junk i n).length = n)
    (hn : t[n]? = some (some b)) (i : Nat) {f : Unit → VpnProg α}
    {g : Unit → HeapProg (@SysReply Output) β}
    (hprint : Simulates S s (f ()) (g () (h ++ (t ++ [none, none])))) :
    Simulates S s (showPacketUnencap order b i >>= f)
      ((OnHeap.showPacketUnencap order junk (h.length + n) i >>= g) (h ++ t)) := by
  rw [bind_of_eq (OnHeap.showPacketUnencap_apply order hjunk ((getElem?_extended h t n).trans hn) i),
    List.append_assoc]
  exact simulates_prints (prints_showPacketUnencap order b i) fun _ => hprint

lemma simulates_createPackets (ipSrc ipDest : CString) (ipProtocol : UInt8) (payload : CString)
    (flags : UInt8) {f : Buf → VpnProg α} {g : Ptr → HeapProg (@SysReply Output) β}
    (hok : ∀ b, Simulates S s (f b) (g (h.length + (t.length + 1)) (h ++ (t ++ [none, some b])))) :
    Simulates S s
      (Prog.ofMem (createPackets order k ipSrc ipDest ipProtocol payload flags) >>= f)
      ((OnHeap.createPackets order k ipSrc ipDest ipProtocol payload flags >>= g) (h ++ t)) := by
  rw [bind_of_eq (OnHeap.createPackets_apply order k ipSrc ipDest ipProtocol payload flags (h ++ t))]
  refine .ofMem fun b => ?_
  rw [List.length_append, Nat.add_assoc, List.append_assoc]
  exact hok b

lemma simulates_createPacketsDes (ipSrc ipDest : CString) (ipProtocol : UInt8) (payload : CString)
    (flags : UInt8) {f : Buf → VpnProg α} {g : Ptr → HeapProg (@SysReply Output) β}
    (hok : ∀ b, Simulates S s (f b) (g (h.length + t.length) (h ++ (t ++ [some b])))) :
    Simulates S s
      (Prog.ofMem (createPacketsDes order ipSrc ipDest ipProtocol payload flags) >>= f)
      ((OnHeap.createPacketsDes order ipSrc ipDest ipProtocol payload flags >>= g) (h ++ t)) := by
  rw [bind_of_eq (OnHeap.createPacketsDes_apply order ipSrc ipDest ipProtocol payload flags (h ++ t))]
  refine .ofMem fun b => ?_
  rw [List.length_append, List.append_assoc]
  exact hok b

lemma simulates_sendAndFreePacketVpn (sockfd : Fd) (hn : t[n]? = some (some b))
    (ipProtocol payloadSize : UInt8) {f : Int → VpnProg α} {g : Int → HeapProg (@SysReply Output) β}
    (hok : Simulates S s.sends (f 0) (g 0 (h ++ t.set n none)))
    (hfail : ∀ bytes, Simulates S (s.fails (.send sockfd bytes)) (f (-1)) (g (-1) (h ++ t))) :
    Simulates S s (sendAndFreePacketVpn sockfd b ipProtocol payloadSize >>= f)
      ((OnHeap.sendAndFreePacketVpn sockfd (h.length + n) ipProtocol payloadSize >>= g) (h ++ t)) := by
  rw [sendAndFreePacketVpn, OnHeap.sendAndFreePacketVpn]
  simp only [bind_assoc]
  rw [contents_extended h hn, liftM_mem, lift_bind]
  refine .ofMem fun bytes => ?_
  rw [liftM_prog, lift_bind]
  refine simulates_step (.send sockfd bytes) fun r => ?_
  cases r with
  | false => exact hfail bytes
  | true =>
    rw [if_neg (by decide), if_neg (by decide), bind_assoc, free_extended h hn]
    exact hok

lemma simulates_servCliEncryptFree (sockfd : Fd) (hn : t[n]? = some (some b))
    (ipProtocol payloadSize : UInt8) {f : Int → VpnProg α} {g : Int → HeapProg (@SysReply Output) β}
    (hok : Simulates S s.sends (f 0) (g 0 (h ++ (t.set n none ++ [none]))))
    (hfail : ∀ bytes e,
      Simulates S (s.fails (.send sockfd bytes)) (f (-1)) (g (-1) (h ++ (t ++ [some e])))) :
    Simulates S s (servCliEncryptFree k sockfd b ipProtocol payloadSize >>= f)
      ((OnHeap.servCliEncryptFree k sockfd (h.length + n) ipProtocol payloadSize >>= g) (h ++ t)) := by
  have hlt : n < t.length := (List.getElem?_eq_some_iff.mp hn).1
  have hn' : ∀ x, (t ++ [x])[n]? = some (some b) := fun x => by
    rw [List.getElem?_append_left hlt, hn]
  have hnew : ∀ (t : List (Option Buf)) x, (t ++ [x])[t.length]? = some x := fun t x =>
    List.getElem?_concat_length
  rw [servCliEncryptFree, OnHeap.servCliEncryptFree]
  simp only [bind_assoc]
  rw [calloc_extended, contents_extended h (hn' _), update_extended h (hnew _ _)]
  refine .ofMem fun encryptPacket => ?_
  rw [List.set_append_right _ _ (Nat.le_refl _), Nat.sub_self, List.set_cons_zero,
    update_extended h (hnew _ _)]
  refine .ofMem fun encryptPacket => ?_
  rw [List.set_append_right _ _ (Nat.le_refl _), Nat.sub_self, List.set_cons_zero,
    contents_extended h (hnew _ _), liftM_mem, lift_bind]
  refine .ofMem fun bytes => ?_
  rw [liftM_prog, lift_bind]
  refine simulates_step (.send sockfd bytes) fun r => ?_
  cases r with
  | false => exact hfail bytes encryptPacket
  | true =>
    have hlen : t.length = (t.set n none).length := List.length_set.symm
    rw [if_neg (by decide), if_neg (by decide), bind_assoc, free_extended h (hn' _),
      List.set_append_left _ _ hlt, hlen, bind_assoc, free_extended h (hnew _ _),
      List.set_append_right _ _ (Nat.le_refl _), Nat.sub_self, List.set_cons_zero]
    exact hok

lemma simulates_servRecFromCli (sockfd : Fd) {f : Option Buf → VpnProg α}
    {g : Option Ptr → HeapProg (@SysReply Output) β}
    (hok : ∀ b, Simulates S s (f (some b))
      (g (some (h.length + (t.length + 1))) (h ++ (t ++ [none, some b]))))
    (hfail : Simulates S (s.fails (.recv sockfd pktSize)) (f none)
      (g none (h ++ (t ++ [some (CLang.calloc pktSize)])))) :
    Simulates S s (servRecFromCli k sockfd >>= f) ((OnHeap.servRecFromCli k sockfd >>= g) (h ++ t)) := by
  rw [servRecFromCli, OnHeap.servRecFromCli]
  simp only [bind_assoc]
  rw [calloc_bind, liftM_prog, lift_bind]
  refine simulates_step (.recv sockfd pktSize) fun r => ?_
  cases r with
  | none =>
    rw [List.append_assoc]
    exact hfail
  | some bytes =>
    dsimp only
    simp only [bind_assoc]
    rw [update_extended _ rfl, Prog.ofMem_pure, pure_bind, contents_extended _ rfl, liftM_mem, lift_bind]
    refine .ofMem fun len => ?_
    rw [calloc_extended, contents_extended _ rfl, update_extended _ rfl]
    refine .ofMem fun decryptPacket => ?_
    rw [update_extended _ rfl]
    refine .ofMem fun decryptPacket => ?_
    rw [free_extended _ rfl, List.append_assoc, List.length_append, Nat.add_assoc]
    exact hok decryptPacket

/-- `serv_rec_from_des` and `dest_rec_pkt`. -/
lemma simulates_receivePkt (sockfd : Fd) (m : Nat) {f : Option Buf → VpnProg α}
    {g : Option Ptr → HeapProg (@SysReply Output) β}
    (hok : ∀ b : Buf, Simulates S s (f (some b)) (g (some (h.length + t.length)) (h ++ (t ++ [some b]))))
    (hfail : Simulates S (s.fails (.recv sockfd m)) (f none)
      (g none (h ++ (t ++ [some (CLang.calloc m)])))) :
    Simulates S s ((Sock.recv sockfd m >>= fun r => pure (r.map (received m))) >>= f)
      ((OnHeap.receivePkt sockfd m >>= g) (h ++ t)) := by
  rw [OnHeap.receivePkt]
  simp only [bind_assoc]
  rw [calloc_bind, liftM_prog, lift_bind]
  refine simulates_step (.recv sockfd m) fun r => ?_
  cases r with
  | none =>
    rw [List.append_assoc]
    exact hfail
  | some bytes =>
    dsimp only
    simp only [bind_assoc]
    rw [update_extended _ rfl, Prog.ofMem_pure, pure_bind, pure_bind, List.append_assoc,
      List.length_append]
    exact hok _

end HeapParts

/-- The exit status of a run of the client that returns and the blocks it leaves allocated. A
failing send is ignored. -/
def clientOutcome (t : Tally) : Option (Int × Nat) :=
  match t.failed with
  | [] => some (0, 0)
  | [.socket] | [.inetPton _] | [.connect _ _ _] => some (-1, 0)
  | [.send _ _] => some (0, 1)
  | _ => none

/-- The server ignores that its second send fails. -/
def serverOutcome (t : Tally) : Option (Int × Nat) :=
  match t.failed with
  | [] => some (0, 0)
  | [.socket] | [.recv _ _] => some (-1, 1)
  | [.inetPton _] | [.connect _ _ _] => some (-1, 2)
  | [.send _ _] => if t.sent = 0 then some (-1, 1) else some (0, 2)
  | _ => none

def destOutcome (t : Tally) : Option (Int × Nat) :=
  match t.failed with
  | [] => some (0, 0)
  | [.recv _ _] => some (-1, 1)
  | [.send _ _] => some (-1, 3)
  | _ => none

/-- The program on the heap returns the same value and leaves `n` blocks more than `h` allocated,
as the outcome says. -/
def Leaves (outcome : Tally → Option (Int × Nat)) (h : Heap) (s : Tally) (status : Int)
    (r : Option (Int × Heap)) : Prop :=
  ∃ t n, r = some (status, h ++ t) ∧ outcome s = some (status, n) ∧ (Heap.live t).length = n

section Handlers

variable (order : ByteOrder)

/-- The handlers return the place behind the GRE header. -/
lemma ofMem_servHandlePkt_bind {α : Type} (packet : Buf) (serverIp : CString)
    (f : Buf × Nat → VpnProg α) :
    Prog.ofMem (servHandlePkt order packet serverIp) >>= f =
      Prog.ofMem (Prod.fst <$> servHandlePkt order packet serverIp) >>= fun b =>
        f (b, packetDecapsulate 0) := by
  simp only [servHandlePkt, map_bind, map_pure, Prog.ofMem_bind, Prog.ofMem_pure, bind_assoc, pure_bind]

lemma ofMem_servHandlePktDest_bind {α : Type} (packet : Buf) (clientIp : CString)
    (f : Buf × Nat → VpnProg α) :
    Prog.ofMem (servHandlePktDest order packet clientIp) >>= f =
      Prog.ofMem (Prod.fst <$> servHandlePktDest order packet clientIp) >>= fun b =>
        f (b, packetDecapsulate 0) := by
  simp only [servHandlePktDest, map_bind, map_pure, Prog.ofMem_bind, Prog.ofMem_pure, bind_assoc,
    pure_bind]

end Handlers

section Sessions

variable (order : ByteOrder) (k : Key) {junk : Ptr → Nat → Buf} (hjunk : ∀ i n, (junk i n).length = n)
  (h : Heap)
include hjunk

/-- The client from the reception of the reply on. -/
lemma simulates_clientSession_tail (clientFd : Fd) {s : Tally} {t : List (Option Buf)}
    (hs : clientOutcome s = some (0, (Heap.live t).length)) :
    Simulates (Leaves clientOutcome h) s
      (do
        let respPkt ← deref (← servRecFromCli k clientFd)
        showPacket order respPkt
        Sock.close clientFd
        return 0)
      ((do
        let respPkt ← deref (← OnHeap.servRecFromCli k clientFd)
        OnHeap.showPacket order junk respPkt
        free respPkt
        (Sock.close clientFd : VpnProg Unit)
        return 0 : HeapProg (@SysReply Output) Int) (h ++ t)) := by
  apply simulates_servRecFromCli
  case hfail => exact .stop _
  intro respPkt
  have hpkt : (t ++ [none, some respPkt])[t.length + 1]? = some (some respPkt) :=
    getElem?_extended t _ 1
  have hpkt' : (t ++ ([none, some respPkt] ++ [none, none]))[t.length + 1]? = some (some respPkt) :=
    getElem?_extended t _ 1
  simp only [deref, Prog.liftM_eq_ofMem, liftM_mem, Prog.ofMem_pure, pure_bind, lift_bind]
  apply simulates_showPacket order hjunk hpkt
  rw [List.append_assoc, free_extended h hpkt', set_extended, liftM_prog, lift_bind]
  refine simulates_step (.close clientFd) fun _ => .ret ⟨_, _, rfl, hs, ?_⟩
  rw [Heap.live_append]
  exact congrArg List.length (List.append_nil _)

theorem simulates_clientSession (clientIp serverIp destIp payload : CString) :
    Simulates (Leaves clientOutcome h) ⟨0, []⟩
      (clientSession order k clientIp serverIp destIp payload)
      (OnHeap.clientSession order k junk clientIp serverIp destIp payload (h ++ [])) := by
  rw [clientSession, OnHeap.clientSession, liftM_prog, lift_bind]
  apply simulates_createClientSocket
  case hnone => exact .ret ⟨[], 0, rfl, rfl, rfl⟩
  intro clientFd
  dsimp only
  rw [liftM_prog, lift_bind]
  apply simulates_connectToServer
  case htext =>
    rw [if_pos rfl, if_pos rfl, liftM_prog, lift_bind]
    exact simulates_step (.close clientFd) fun _ => .ret ⟨[], 0, rfl, rfl, rfl⟩
  case hconnect =>
    intro address
    rw [if_pos rfl, if_pos rfl, liftM_prog, lift_bind]
    exact simulates_step (.close clientFd) fun _ => .ret ⟨[], 0, rfl, rfl, rfl⟩
  rw [if_neg (by decide), if_neg (by decide), liftM_prog, lift_bind]
  apply simulates_say
  apply simulates_createPackets
  intro packet
  apply simulates_showPacket order hjunk rfl
  -- a failed send leaves the packet allocated and changes nothing else
  apply simulates_sendAndFreePacketVpn
  case hn => rfl
  case hok =>
    rw [if_neg (by decide), if_neg (by decide)]
    exact simulates_clientSession_tail order k hjunk h clientFd rfl
  case hfail =>
    intro bytes
    rw [if_pos rfl, if_pos rfl, liftM_prog, lift_bind]
    apply simulates_say
    exact simulates_clientSession_tail order k hjunk h clientFd rfl

/-- The blocks of the server when it has sent the packet to the destination: two packets, two texts
for the print and the text of the destination's address. -/
def relayBlocks : List (Option Buf) := [none, none, none, none, none]

lemma simulates_serverRelay {α β : Type} {S : Tally → α → Option (β × Heap) → Prop} (newSocket : Fd)
    (serverIp : CString) {f : Option (Fd × UInt32) → VpnProg α}
    {g : Option (Fd × UInt32) → HeapProg (@SysReply Output) β}
    (hok : ∀ r, Simulates S ⟨1, []⟩ (f (some r)) (g (some r) (h ++ relayBlocks)))
    (hfail : ∀ s t, serverOutcome s = some (-1, (Heap.live t).length) →
      Simulates S s (f none) (g none (h ++ t))) :
    Simulates S ⟨0, []⟩ (serverRelay order k newSocket serverIp >>= f)
      ((OnHeap.serverRelay order k junk newSocket serverIp >>= g) (h ++ [])) := by
  rw [serverRelay, OnHeap.serverRelay, bind_assoc, bind_assoc]
  apply simulates_servRecFromCli
  case hfail =>
    dsimp only
    rw [bind_assoc, bind_assoc, liftM_prog, lift_bind]
    exact simulates_say _ (hfail _ _ rfl)
  intro recPacket
  simp only [bind_assoc, Prog.liftM_eq_ofMem, liftM_mem, liftM_prog]
  apply simulates_showPacket order hjunk rfl
  rw [contents_extended h rfl, lift_bind]
  refine .ofMem fun clientIp => ?_
  rw [update_extended h rfl, ofMem_servHandlePkt_bind]
  refine .ofMem fun fixed => ?_
  rw [lift_bind]
  apply simulates_createClientSocket
  case hnone => exact hfail _ _ rfl
  intro clientFd
  simp only [bind_assoc]
  rw [malloc_extended, contents_extended h rfl, lift_bind]
  refine .ofMem fun fixedIp => ?_
  rw [update_extended h rfl, OnHeap.parseIpAddrToStr_of_length (length_calloc 16),
    OnHeap.parseIpAddrToStr_of_length (hjunk _ _), Prog.ofMem_pure, Prog.ofMem_pure, pure_bind, pure_bind,
    contents_extended h rfl, OnHeap.cstringAt_text, OnHeap.cstringAt_text, Prog.ofMem_pure, pure_bind,
    lift_bind, pure_bind, lift_bind]
  apply simulates_connectToServer
  case htext =>
    rw [if_pos rfl, if_pos rfl, bind_assoc, bind_assoc, lift_bind]
    exact simulates_step (.close clientFd) fun _ => hfail _ _ rfl
  case hconnect =>
    intro address
    rw [if_pos rfl, if_pos rfl, bind_assoc, bind_assoc, lift_bind]
    exact simulates_step (.close clientFd) fun _ => hfail _ _ rfl
  rw [if_neg (by decide), if_neg (by decide)]
  simp only [bind_assoc]
  rw [free_extended h rfl, contents_extended h rfl, lift_bind]
  refine .ofMem fun bytes => ?_
  rw [lift_bind]
  refine simulates_step (.send clientFd bytes) fun r => ?_
  cases r with
  | false =>
    rw [if_pos (by decide), if_pos (by decide), bind_assoc, bind_assoc, lift_bind]
    exact simulates_say _ (hfail _ _ rfl)
  | true =>
    rw [if_neg (by decide), if_neg (by decide), bind_assoc, bind_assoc, free_extended h rfl, bind_assoc,
      lift_bind]
    exact simulates_say _ (hok (clientFd, clientIp))

/-- The server's reply from the print of the packet for the client on. -/
lemma simulates_serverReply_tail {α β : Type} {S : Tally → α → Option (β × Heap) → Prop}
    (newSocket : Fd) (recPacketDest encPkt clientStrIp : Buf) {f : Int → VpnProg α}
    {g : Unit → HeapProg (@SysReply Output) β}
    (hend : ∀ s t status, serverOutcome s = some (0, (Heap.live t).length) →
      Simulates S s (f status) (g () (h ++ t))) :
    Simulates S ⟨1, []⟩
      (showPacket order encPkt >>= fun _ =>
        Prog.ofMem (strlen encPkt (getPayload 0)) >>= fun payloadLength =>
          servCliEncryptFree k newSocket encPkt ipProtocolTcp (UInt8.ofNat payloadLength) >>= f)
      ((do
        OnHeap.showPacket order junk (h.length + 6)
        let payloadLength ← strlen (← contents (h.length + 6)) (getPayload 0)
        let _ ← OnHeap.servCliEncryptFree k newSocket (h.length + 6) ipProtocolTcp
          (UInt8.ofNat payloadLength)
        free (h.length + 5)
        free (h.length + 7)
        g () : HeapProg (@SysReply Output) β)
        (h ++ (relayBlocks ++ [some recPacketDest, some encPkt, some clientStrIp]))) := by
  apply simulates_showPacket order hjunk
  case hn => rfl
  rw [contents_extended h (b := encPkt) rfl, liftM_mem, lift_bind]
  refine .ofMem fun payloadLength => ?_
  apply simulates_servCliEncryptFree
  case hn => rfl
  case hok =>
    rw [free_extended h (b := recPacketDest) rfl, free_extended h (b := clientStrIp) rfl]
    exact hend _ _ 0 rfl
  case hfail =>
    intro bytes e
    rw [free_extended h (b := recPacketDest) rfl, free_extended h (b := clientStrIp) rfl]
    exact hend _ _ (-1) rfl

lemma simulates_serverReply {α β : Type} {S : Tally → α → Option (β × Heap) → Prop}
    (newSocket clientFd : Fd) (clientIp : UInt32) {f : Int → VpnProg α}
    {g : Unit → HeapProg (@SysReply Output) β}
    (hend : ∀ s t status, serverOutcome s = some (0, (Heap.live t).length) →
      Simulates S s (f status) (g () (h ++ t))) :
    Simulates S ⟨1, []⟩ (serverReply order k newSocket clientFd clientIp >>= f)
      ((OnHeap.serverReply order k junk newSocket clientFd clientIp >>= g) (h ++ relayBlocks)) := by
  rw [serverReply, OnHeap.serverReply]
  simp only [bind_assoc, Prog.liftM_eq_ofMem, liftM_mem]
  rw [servRecFromDes_eq, OnHeap.servRecFromDes]
  apply simulates_receivePkt
  case hfail =>
    rw [calloc_extended, update_extended h rfl]
    exact .ofMem fun encPkt => .stop _
  intro recPacketDest
  rw [calloc_extended, update_extended h rfl]
  refine .ofMem fun encPkt => ?_
  simp only [deref, Prog.ofMem_pure, pure_bind]
  rw [lift_bind, pure_bind, contents_extended h rfl, update_extended h rfl]
  refine .ofMem fun encPkt => ?_
  rw [malloc_extended, update_extended h rfl, OnHeap.parseIpAddrToStr_of_length (length_calloc 16),
    OnHeap.parseIpAddrToStr_of_length (hjunk _ _), Prog.ofMem_pure, Prog.ofMem_pure, pure_bind, pure_bind,
    contents_extended h rfl, OnHeap.cstringAt_text, OnHeap.cstringAt_text, Prog.ofMem_pure, pure_bind,
    lift_bind, pure_bind, ofMem_servHandlePktDest_bind, update_extended h rfl]
  refine .ofMem fun encPkt => ?_
  exact simulates_serverReply_tail order k hjunk h newSocket recPacketDest encPkt _ hend

theorem simulates_serverSession (serverIp : CString) :
    Simulates (Leaves serverOutcome h) ⟨0, []⟩ (serverSession order k serverIp)
      (OnHeap.serverSession order k junk serverIp (h ++ [])) := by
  rw [serverSession, OnHeap.serverSession, liftM_prog, lift_bind]
  apply simulates_createListeningSocket
  intro serverFd
  rw [liftM_prog, lift_bind]
  apply simulates_acceptConnection
  intro newSocket
  apply simulates_serverRelay order k hjunk
  case hfail =>
    intro s t hs
    exact .ret ⟨t, _, rfl, hs, rfl⟩
  rintro ⟨clientFd, clientIp⟩
  apply simulates_serverReply order k hjunk
  intro s t status hs
  rw [liftM_prog, lift_bind]
  refine simulates_step (.close newSocket) fun _ => ?_
  rw [liftM_prog, lift_bind]
  exact simulates_step (.shutdown serverFd) fun _ => .ret ⟨t, _, rfl, hs, rfl⟩

theorem simulates_destSession (hostIp responseMsg : CString) :
    Simulates (Leaves destOutcome h) ⟨0, []⟩ (destSession order hostIp responseMsg)
      (OnHeap.destSession order junk hostIp responseMsg (h ++ [])) := by
  rw [destSession, OnHeap.destSession, liftM_prog, lift_bind]
  apply simulates_createListeningSocket
  intro destFd
  rw [liftM_prog, lift_bind]
  apply simulates_acceptConnection
  intro newSocket
  rw [destRecPkt_eq, OnHeap.destRecPkt]
  apply simulates_receivePkt
  case hfail =>
    dsimp only
    rw [liftM_prog, lift_bind]
    exact simulates_say _ (.ret ⟨_, _, rfl, rfl, rfl⟩)
  intro recPacket
  dsimp only
  apply simulates_showPacketUnencap order hjunk rfl
  rw [contents_extended h rfl, liftM_mem, lift_bind]
  refine .ofMem fun ipHeader => ?_
  rw [malloc_extended, update_extended h rfl, OnHeap.parseIpAddrToStr_of_length (length_calloc 16),
    OnHeap.parseIpAddrToStr_of_length (hjunk _ _), Prog.liftM_eq_ofMem, Prog.ofMem_pure, Prog.ofMem_pure,
    pure_bind, pure_bind,
    contents_extended h rfl, OnHeap.cstringAt_text, OnHeap.cstringAt_text, Prog.liftM_eq_ofMem,
    liftM_mem, Prog.ofMem_pure, pure_bind, lift_bind, pure_bind]
  apply simulates_createPacketsDes
  intro responsePkt
  apply simulates_showPacketUnencap order hjunk rfl
  rw [contents_extended h rfl, liftM_mem, lift_bind]
  refine .ofMem fun bytes => ?_
  rw [liftM_prog, lift_bind]
  refine simulates_step (.send newSocket bytes) fun r => ?_
  cases r with
  | false => exact .ret ⟨_, _, rfl, rfl, rfl⟩
  | true =>
    rw [if_neg (by decide), if_neg (by decide), free_extended h rfl, free_extended h rfl,
      free_extended h rfl, liftM_prog, lift_bind]
    refine simulates_step (.close newSocket) fun _ => ?_
    rw [liftM_prog, lift_bind]
    exact simulates_step (.close destFd) fun _ => .ret ⟨_, _, rfl, rfl, rfl⟩

end Sessions

/-- Every run from the empty heap that returns has the outcome of its sends and failures. -/
def EndsWith (outcome : Tally → Option (Int × Nat)) (m : HeapProg (@SysReply Output) Int) : Prop :=
  ∀ es r, Prog.Trace (m []) es (.ret r) → ∃ status h, r = some (status, h) ∧
    outcome (tally es) = some (status, (Heap.live h).length)

lemma EndsWith.of_simulates {outcome : Tally → Option (Int × Nat)} {p : VpnProg Int}
    {m : HeapProg (@SysReply Output) Int}
    (h : Simulates (Leaves outcome []) ⟨0, []⟩ p (m [])) : EndsWith outcome m := by
  intro es r ht
  obtain ⟨p', -, hp'⟩ := Prog.Simulates.of_trace h ht
  obtain ⟨status, -, t, n, rfl, houtcome, rfl⟩ := hp'.of_ret
  exact ⟨status, t, rfl, houtcome⟩

section Mains

variable (order : ByteOrder) (k : Key) {junk : Ptr → Nat → Buf} (hjunk : ∀ i n, (junk i n).length = n)
  (h : Heap)

/-- A program that prints a message and returns 0. -/
lemma simulates_refusal {outcome : Tally → Option (Int × Nat)} (houtcome : outcome ⟨0, []⟩ = some (0, 0))
    (out : Output) :
    Simulates (Leaves outcome h) ⟨0, []⟩ (Sock.print out >>= fun _ => pure 0)
      (((Sock.print out : VpnProg Unit) >>= fun _ => pure 0 : HeapProg (@SysReply Output) Int) h) := by
  rw [liftM_prog, lift_bind]
  exact simulates_prints (prints_print out) fun _ =>
    .ret ⟨[], 0, by rw [List.append_nil], houtcome, rfl⟩

include hjunk

lemma simulates_clientMain (argv : List CString) (input : Input) :
    Simulates (Leaves clientOutcome h) ⟨0, []⟩ (clientMain order k argv input)
      (OnHeap.clientMain order k junk argv input h) := by
  match argv with
  | [_, clientHostName, serverHostName] =>
    unfold clientMain OnHeap.clientMain
    dsimp only
    rw [liftM_prog, lift_bind]
    apply simulates_say
    rw [liftM_mem, lift_bind]
    refine .ofMem fun destHostName => ?_
    cases getHostIp clientHostName with
    | none => exact simulates_refusal h rfl _
    | some clientIp =>
      cases getHostIp serverHostName with
      | none => exact simulates_refusal h rfl _
      | some serverIp =>
        cases getHostIp destHostName with
        | none => exact simulates_refusal h rfl _
        | some destIp =>
          dsimp only
          split
          · exact simulates_refusal h rfl _
          · have hsession := simulates_clientSession order k hjunk h clientIp serverIp destIp clientPayload
            rw [List.append_nil] at hsession
            exact hsession
  | [] => exact simulates_refusal h rfl _
  | [_] => exact simulates_refusal h rfl _
  | [_, _] => exact simulates_refusal h rfl _
  | _ :: _ :: _ :: _ :: _ => exact simulates_refusal h rfl _

lemma simulates_serverMain (argv : List CString) :
    Simulates (Leaves serverOutcome h) ⟨0, []⟩ (serverMain order k argv)
      (OnHeap.serverMain order k junk argv h) := by
  match argv with
  | [_, serverHostName] =>
    unfold serverMain OnHeap.serverMain
    dsimp only
    cases getHostIp serverHostName with
    | none => exact simulates_refusal h rfl _
    | some serverIp =>
      have hsession := simulates_serverSession order k hjunk h serverIp
      rw [List.append_nil] at hsession
      exact hsession
  | [] => exact simulates_refusal h rfl _
  | [_] => exact simulates_refusal h rfl _
  | _ :: _ :: _ :: _ => exact simulates_refusal h rfl _

lemma simulates_destMain (argv : List CString) :
    Simulates (Leaves destOutcome h) ⟨0, []⟩ (destMain order argv)
      (OnHeap.destMain order junk argv h) := by
  match argv with
  | [_, destHostName] =>
    unfold destMain OnHeap.destMain
    dsimp only
    cases getHostIp destHostName with
    | none => exact simulates_refusal h rfl _
    | some hostIp =>
      have hsession := simulates_destSession order hjunk h hostIp responseMsg
      rw [List.append_nil] at hsession
      exact hsession
  | [] => exact simulates_refusal h rfl _
  | [_] => exact simulates_refusal h rfl _
  | _ :: _ :: _ :: _ => exact simulates_refusal h rfl _

omit h in
/-- With its packets and texts on a heap, each program makes the same calls with the same bytes and
returns the same status as without. No run uses or frees a block that is not allocated, and what a
block of `malloc` holds at first has no effect. -/
theorem mains_implement (clientArgv serverArgv destArgv : List CString) (input : Input) :
    Implements (OnHeap.clientMain order k junk clientArgv input) (clientMain order k clientArgv input) ∧
      Implements (OnHeap.serverMain order k junk serverArgv) (serverMain order k serverArgv) ∧
      Implements (OnHeap.destMain order junk destArgv) (destMain order destArgv) := by
  have hstatus : ∀ outcome h s status r, Leaves outcome h s status r → r.map Prod.fst = some status := by
    rintro outcome h s status r ⟨t, n, rfl, -, -⟩
    rfl
  exact ⟨.of_simulates (fun h => simulates_clientMain order k hjunk h clientArgv input) (hstatus _),
    .of_simulates (fun h => simulates_serverMain order k hjunk h serverArgv) (hstatus _),
    .of_simulates (fun h => simulates_destMain order hjunk h destArgv) (hstatus _)⟩

omit h in
/-- The exit status of every run that returns and the number of blocks that it leaves allocated follow
from its sends and failures. -/
theorem mains_end (clientArgv serverArgv destArgv : List CString) (input : Input) :
    EndsWith clientOutcome (OnHeap.clientMain order k junk clientArgv input) ∧
      EndsWith serverOutcome (OnHeap.serverMain order k junk serverArgv) ∧
      EndsWith destOutcome (OnHeap.destMain order junk destArgv) :=
  ⟨.of_simulates (simulates_clientMain order k hjunk [] clientArgv input),
    .of_simulates (simulates_serverMain order k hjunk [] serverArgv),
    .of_simulates (simulates_destMain order hjunk [] destArgv)⟩

end Mains

/-- Fresh blocks that hold no zero byte. -/
def poison (_ : Ptr) (n : Nat) : Buf := List.replicate n 0xA5

theorem mains_implement_poison :
    Implements (OnHeap.clientMain .little key poison [.lit "client", .lit "h1", .lit "h2"] (typed "h3\n"))
        (clientMain .little key [.lit "client", .lit "h1", .lit "h2"] (typed "h3\n")) ∧
      Implements (OnHeap.serverMain .little key poison [.lit "server", .lit "h2"])
        (serverMain .little key [.lit "server", .lit "h2"]) ∧
      Implements (OnHeap.destMain .little poison [.lit "destination", .lit "h3"])
        (destMain .little [.lit "destination", .lit "h3"]) :=
  mains_implement .little key (fun _ _ => List.length_replicate) _ _ _ _

theorem mains_end_poison :
    EndsWith clientOutcome
        (OnHeap.clientMain .little key poison [.lit "client", .lit "h1", .lit "h2"] (typed "h3\n")) ∧
      EndsWith serverOutcome
        (OnHeap.serverMain .little key poison [.lit "server", .lit "h2"]) ∧
      EndsWith destOutcome (OnHeap.destMain .little poison [.lit "destination", .lit "h3"]) :=
  mains_end .little key (fun _ _ => List.length_replicate) _ _ _ _

end SimpleVpn
