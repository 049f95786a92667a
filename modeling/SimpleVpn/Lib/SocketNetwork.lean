import SimpleVpn.Lib.Processes
import SimpleVpn.Lib.Sockets

/-!
# Hosts connected by sockets, as long as nothing fails

Hosts run programs that call each other's sockets. A `connect` waits for its listener, an `accept`
for its connection and a `recv` for the next send, which it takes whole. What was sent and received
on a connection is read off the events of its two ends. The network in which calls fail and streams are
cut is in `StreamNetwork`; `CalmRuns` shows when its runs without failures are the runs of this one.
-/

namespace CLang

open Prog

variable {Out : Type}

abbrev SockEvent (Out : Type) := Event (@SysReply Out)

abbrev SockLog (Out : Type) := List (SockEvent Out)

namespace SockLog

def opened (log : SockLog Out) : List Fd :=
  log.filterMap fun e => match e with
    | .call .socket (some fd) => some fd
    | .call (.accept _) (some fd) => some fd
    | _ => none

def accepted (log : SockLog Out) : List Fd :=
  log.filterMap fun e => match e with
    | .call (.accept _) (some fd) => some fd
    | _ => none

/-- The descriptors that were connected, with the addresses and ports. -/
def connected (log : SockLog Out) : List (Fd × List UInt8 × UInt16) :=
  log.filterMap fun e => match e with
    | .call (.connect fd address port) true => some (fd, address, port)
    | _ => none

def listening (log : SockLog Out) : List Fd :=
  log.filterMap fun e => match e with
    | .call (.listen fd) true => some fd
    | _ => none

def bound (log : SockLog Out) : List (Fd × UInt16) :=
  log.filterMap fun e => match e with
    | .call (.bind fd port) true => some (fd, port)
    | _ => none

def sentOn (fd : Fd) (log : SockLog Out) : List (List UInt8) :=
  log.filterMap fun e => match e with
    | .call (.send fd' bytes) true => if fd' = fd then some bytes else none
    | _ => none

def receivedOn (fd : Fd) (log : SockLog Out) : List (List UInt8) :=
  log.filterMap fun e => match e with
    | .call (.recv fd' _) (some bytes) => if fd' = fd then some bytes.val else none
    | _ => none

/-- The host accepts connections to a port. -/
def Listens (log : SockLog Out) (port : UInt16) : Prop :=
  ∃ fd ∈ log.listening, (fd, port) ∈ log.bound

instance (log : SockLog Out) (port : UInt16) : Decidable (log.Listens port) := by
  unfold Listens
  infer_instance

variable {log log' : SockLog Out}

lemma accepted_mono (h : log <+: log') : log.accepted <+: log'.accepted := h.filterMap _

lemma sentOn_mono (fd : Fd) (h : log <+: log') : sentOn fd log <+: sentOn fd log' :=
  h.filterMap _

lemma Listens.mono {port : UInt16} (h : log.Listens port) (hle : log <+: log') :
    log'.Listens port := by
  obtain ⟨fd, hlisten, hbound⟩ := h
  exact ⟨fd, (hle.filterMap _).subset hlisten, (hle.filterMap _).subset hbound⟩

end SockLog

/-- Where an address and a port lead from a host, and whose connections a host accepts. -/
structure Topology (Party : Type) where
  route : Party → List UInt8 → UInt16 → Option Party
  caller : Party → Party

namespace Topology

open SockLog

variable {Party : Type} [DecidableEq Party] (topology : Topology Party)

/-- The descriptors that a host has connected to another. -/
def dialed (i j : Party) (log : SockLog Out) : List Fd :=
  log.connected.filterMap fun c =>
    if topology.route i c.2.1 c.2.2 = some j then some c.1 else none

/-- The host that a descriptor was connected to, if the host accepts the connection. -/
def callee (i : Party) (log : SockLog Out) (fd : Fd) : Option Party :=
  match log.connected.find? fun c => c.1 = fd with
  | none => none
  | some c => (topology.route i c.2.1 c.2.2).filter fun j => topology.caller j = i

/-- The other end of a connection: connections are accepted in the order in which they are made. -/
def remote (l : Party → SockLog Out) (i : Party) (fd : Fd) : Option (Party × Fd) :=
  if fd ∈ (accepted (l i)) then
    (topology.dialed (topology.caller i) i (l (topology.caller i)))[(accepted (l i)).idxOf fd]?.map
      (topology.caller i, ·)
  else
    (topology.callee i (l i) fd).bind fun j =>
      (accepted (l j))[(topology.dialed i j (l i)).idxOf fd]?.map (j, ·)

/-- The next byte string for a descriptor. -/
def incoming (l : Party → SockLog Out) (i : Party) (fd : Fd) : Option (List UInt8) :=
  (topology.remote l i fd).bind fun r => (sentOn r.2 (l r.1))[(receivedOn fd (l i)).length]?

/-- The answer to a call of host `i`, which waits as long as the call cannot succeed. -/
def answer (i : Party) (l : Party → SockLog Out) : (c : SysCall Out) → Option (SysReply c)
  | .socket => some (some (3 + (opened (l i)).length))
  | .setsockopt _ => some true
  | .bind _ _ => some true
  | .listen _ => some true
  | .accept _ =>
    if (accepted (l i)).length <
        (topology.dialed (topology.caller i) i (l (topology.caller i))).length then
      some (some (3 + (opened (l i)).length))
    else none
  | .inetPton text => some (CLang.inetPton text)
  | .connect _ address port =>
    match topology.route i address port with
    | none => some false
    | some j => if Listens (l j) port then some true else none
  | .send _ _ => some true
  | .recv fd n => (topology.incoming l i fd).bind fun bytes =>
    if h : bytes.length ≤ n then some (some ⟨bytes, h⟩) else none
  | .close _ => some ()
  | .shutdown _ => some ()
  | .print _ => some ()

lemma getElem?_mono {β : Type} {a b : List β} (h : a <+: b) {n : Nat} {x : β}
    (hx : a[n]? = some x) : b[n]? = some x := by
  obtain ⟨hn, rfl⟩ := List.getElem?_eq_some_iff.mp hx
  exact List.prefix_iff_getElem?.mp h n hn

variable {l l' : Party → SockLog Out}

lemma dialed_mono (i j : Party) (hle : ∀ j, l j <+: l' j) :
    topology.dialed i j (l i) <+: topology.dialed i j (l' i) :=
  ((hle i).filterMap _).filterMap _

variable {topology}

lemma remote_stable {i : Party} {fd : Fd} {r : Party × Fd} (hi : l i = l' i)
    (hle : ∀ j, l j <+: l' j) (h : topology.remote l i fd = some r) :
    topology.remote l' i fd = some r := by
  unfold remote at h ⊢
  rw [← hi]
  by_cases hmem : fd ∈ (accepted (l i))
  · rw [if_pos hmem] at h ⊢
    obtain ⟨fd', hfd, rfl⟩ := Option.map_eq_some_iff.mp h
    rw [getElem?_mono (dialed_mono topology _ i hle) hfd]
    rfl
  · rw [if_neg hmem] at h ⊢
    obtain ⟨j, hj, h⟩ := Option.bind_eq_some_iff.mp h
    obtain ⟨fd', hfd, rfl⟩ := Option.map_eq_some_iff.mp h
    rw [hj, Option.bind_some, getElem?_mono (accepted_mono (hle j)) hfd]
    rfl

lemma incoming_stable {i : Party} {fd : Fd} {bytes : List UInt8} (hi : l i = l' i)
    (hle : ∀ j, l j <+: l' j) (h : topology.incoming l i fd = some bytes) :
    topology.incoming l' i fd = some bytes := by
  obtain ⟨r, hr, hbytes⟩ := Option.bind_eq_some_iff.mp h
  rw [incoming, remote_stable hi hle hr, Option.bind_some, ← hi]
  exact getElem?_mono (sentOn_mono r.2 (hle r.1)) hbytes

variable (topology) in
def service : Service Party (@SysReply Out) where
  answer := topology.answer
  stable := by
    intro i l l' c r hi hle h
    cases c with
    | socket => rw [answer, ← hi]; exact h
    | accept fd =>
      rw [answer] at h ⊢
      rw [← hi]
      have hlen := (dialed_mono topology (topology.caller i) i hle).length_le
      by_cases hlt : (accepted (l i)).length <
          (topology.dialed (topology.caller i) i (l (topology.caller i))).length
      · rw [if_pos hlt] at h
        rw [if_pos (hlt.trans_le hlen)]
        exact h
      · rw [if_neg hlt] at h
        cases h
    | connect fd address port =>
      rw [answer] at h ⊢
      cases hroute : topology.route i address port with
      | none => rw [hroute] at h; exact h
      | some j =>
        rw [hroute] at h
        dsimp only at h ⊢
        by_cases hlisten : Listens (l j) port
        · rw [if_pos hlisten] at h
          rw [if_pos (hlisten.mono (hle j))]
          exact h
        · rw [if_neg hlisten] at h
          cases h
    | recv fd n =>
      rw [answer] at h ⊢
      obtain ⟨bytes, hbytes, h⟩ := Option.bind_eq_some_iff.mp h
      rw [incoming_stable hi hle hbytes]
      exact h
    | setsockopt fd => exact h
    | bind fd port => exact h
    | listen fd => exact h
    | inetPton text => exact h
    | send fd bytes => exact h
    | close fd => exact h
    | shutdown fd => exact h
    | print out => exact h

lemma answer_connect {i j : Party} {fd : Fd} {address : List UInt8} {port : UInt16}
    (hroute : topology.route i address port = some j) (h : Listens (l j) port) :
    topology.answer i l (.connect fd address port) = some true := by
  rw [answer, hroute]
  exact if_pos h

lemma answer_recv {i j : Party} {fd fd' : Fd} {bytes : List UInt8} {rest : List (List UInt8)} {n : Nat}
    (hremote : topology.remote l i fd = some (j, fd')) (hsent : sentOn fd' (l j) = bytes :: rest)
    (hreceived : receivedOn fd (l i) = []) (h : bytes.length ≤ n) :
    topology.answer i l (.recv fd n) = some (some ⟨bytes, h⟩) := by
  rw [answer, incoming, hremote, Option.bind_some, hsent, hreceived, List.length_nil,
    List.getElem?_cons_zero, Option.bind_some, dif_pos h]

section Single

variable {i j : Party} {fd fd' : Fd} {address : List UInt8} {port : UInt16}
  (hroute : topology.route i address port = some j)
include hroute

lemma dialed_single {log : SockLog Out} (h : connected log = [(fd, address, port)]) :
    topology.dialed i j log = [fd] := by
  rw [dialed, h]
  exact List.filterMap_cons_some (if_pos hroute)

variable (hcaller : topology.caller j = i) (hdial : connected (l i) = [(fd, address, port)])
include hcaller hdial

lemma answer_accept (haccept : accepted (l j) = []) :
    topology.answer j l (.accept fd') = some (some (3 + (opened (l j)).length)) := by
  rw [answer, hcaller, dialed_single hroute hdial, haccept]
  exact if_pos Nat.one_pos

variable (haccept : accepted (l j) = [fd'])
include haccept

lemma remote_of_accepted : topology.remote l j fd' = some (i, fd) := by
  rw [remote, haccept, if_pos (List.mem_singleton_self fd'), hcaller, dialed_single hroute hdial,
    List.idxOf_cons_self]
  rfl

lemma remote_of_dialed (hfd : fd ∉ accepted (l i)) : topology.remote l i fd = some (j, fd') := by
  have hcallee : topology.callee i (l i) fd = some j := by
    rw [callee, hdial, List.find?_cons_of_pos (by simp)]
    simp [hroute, hcaller]
  rw [remote, if_neg hfd, hcallee, Option.bind_some, dialed_single hroute hdial, haccept,
    List.idxOf_cons_self]
  rfl

end Single

end Topology

end CLang
