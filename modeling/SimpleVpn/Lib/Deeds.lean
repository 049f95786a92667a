import SimpleVpn.Lib.Roles
import SimpleVpn.Lib.StreamNetwork

/-!
# The deeds of a host

What a host has done on its connections, in its order, and what a role says about it. Calls that failed and
calls that do not concern a connection are left out.
-/

namespace CLang

open Prog Relation

inductive Deed where
  | accepted (fd : Fd)
  | connected (fd : Fd) (address : List UInt8) (port : UInt16)
  | sent (fd : Fd) (bytes : List UInt8)
  | received (fd : Fd) (n : Nat) (bytes : Received n)

variable {Out Party α σ : Type}

def deedOf : SockEvent Out → Option Deed
  | .call (.accept _) (some fd) => some (.accepted fd)
  | .call (.connect fd address port) true => some (.connected fd address port)
  | .call (.send fd bytes) true => some (.sent fd bytes)
  | .call (.recv fd n) (some bytes) => some (.received fd n bytes)
  | _ => none

def deeds (log : SockLog Out) : List Deed := log.filterMap deedOf

namespace Deed

def acceptedFd : Deed → Option Fd
  | .accepted fd => some fd
  | _ => none

def connectedTo : Deed → Option (Fd × List UInt8 × UInt16)
  | .connected fd address port => some (fd, address, port)
  | _ => none

def sentOn (fd : Fd) : Deed → Option (List UInt8)
  | .sent fd' bytes => if fd' = fd then some bytes else none
  | _ => none

def receivedOn (fd : Fd) : Deed → Option (List UInt8)
  | .received fd' _ bytes => if fd' = fd then some bytes.val else none
  | _ => none

end Deed

section Deeds

variable (log : SockLog Out)

lemma deeds_append (es : SockLog Out) : deeds (log ++ es) = deeds log ++ deeds es := List.filterMap_append

lemma filterMap_deeds {β : Type} {f : SockEvent Out → Option β} {g : Deed → Option β}
    (h : ∀ e, f e = (deedOf e).bind g) : log.filterMap f = (deeds log).filterMap g := by
  rw [deeds, List.filterMap_filterMap, funext h]

lemma accepted_eq : log.accepted = (deeds log).filterMap Deed.acceptedFd := by
  refine filterMap_deeds log fun e => ?_
  rcases e with x | ⟨c, r⟩
  · rfl
  · cases c <;> rcases r with _ | _ <;> rfl

lemma connected_eq : log.connected = (deeds log).filterMap Deed.connectedTo := by
  refine filterMap_deeds log fun e => ?_
  rcases e with x | ⟨c, r⟩
  · rfl
  · cases c <;> rcases r with _ | _ <;> rfl

lemma sentOn_eq (fd : Fd) : log.sentOn fd = (deeds log).filterMap (Deed.sentOn fd) := by
  refine filterMap_deeds log fun e => ?_
  rcases e with x | ⟨c, r⟩
  · rfl
  · cases c <;> rcases r with _ | _ <;> rfl

lemma receivedOn_eq (fd : Fd) : log.receivedOn fd = (deeds log).filterMap (Deed.receivedOn fd) := by
  refine filterMap_deeds log fun e => ?_
  rcases e with x | ⟨c, r⟩
  · rfl
  · cases c <;> rcases r with _ | _ <;> rfl

/-- A call that fails is no deed. -/
lemma deedOf_of_failed {c : SysCall Out} {r : SysReply c} (h : ¬ succeeds c r = true) :
    deedOf (.call c r : SockEvent Out) = none := by
  cases c <;> rcases r with _ | _ <;> first | rfl | exact absurd rfl h

end Deeds

end CLang
