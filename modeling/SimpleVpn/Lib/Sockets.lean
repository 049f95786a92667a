import SimpleVpn.Lib.Prog

/-!
# Stream sockets

The socket calls of a POSIX program, their replies, and the operating system in which every
call succeeds and the successive `recv` calls return the successive chunks of a stream.
-/

namespace CLang

abbrev Fd := Nat

/-- The calls of a program that writes values of type `Out` to its standard output. -/
inductive SysCall (Out : Type) where
  | socket
  | setsockopt (fd : Fd)
  | bind (fd : Fd) (port : UInt16)
  | listen (fd : Fd)
  | accept (fd : Fd)
  | inetPton (text : CString)
  | connect (fd : Fd) (address : List UInt8) (port : UInt16)
  | send (fd : Fd) (bytes : List UInt8)
  | recv (fd : Fd) (size : Nat)
  | close (fd : Fd)
  | shutdown (fd : Fd)
  | print (out : Out)
  deriving DecidableEq

/-- What `recv` may write into a buffer of `n` bytes. -/
abbrev Received (n : Nat) := {bytes : List UInt8 // bytes.length ≤ n}

/-- The reply to a call; `none` and `false` are failures. -/
abbrev SysReply {Out : Type} : SysCall Out → Type
  | .socket => Option Fd
  | .setsockopt _ => Bool
  | .bind _ _ => Bool
  | .listen _ => Bool
  | .accept _ => Option Fd
  | .inetPton _ => Option (List UInt8)
  | .connect _ _ _ => Bool
  | .send _ _ => Bool
  | .recv _ n => Option (Received n)
  | .close _ => Unit
  | .shutdown _ => Unit
  | .print _ => Unit

def succeeds {Out : Type} : (c : SysCall Out) → SysReply c → Bool
  | .socket, r => r.isSome
  | .setsockopt _, r => r
  | .bind _ _, r => r
  | .listen _, r => r
  | .accept _, r => r.isSome
  | .inetPton _, r => r.isSome
  | .connect _ _ _, r => r
  | .send _ _, r => r
  | .recv _ _, r => r.isSome
  | .close _, _ => true
  | .shutdown _, _ => true
  | .print _, _ => true

abbrev SockProg (Out : Type) := Prog (@SysReply Out)

namespace Sock

variable {Out : Type}

def socket : SockProg Out (Option Fd) := .call .socket .ret

def setsockopt (fd : Fd) : SockProg Out Bool := .call (.setsockopt fd) .ret

def bind (fd : Fd) (port : UInt16) : SockProg Out Bool := .call (.bind fd port) .ret

def listen (fd : Fd) : SockProg Out Bool := .call (.listen fd) .ret

def accept (fd : Fd) : SockProg Out (Option Fd) := .call (.accept fd) .ret

def inetPton (text : CString) : SockProg Out (Option (List UInt8)) := .call (.inetPton text) .ret

def connect (fd : Fd) (address : List UInt8) (port : UInt16) : SockProg Out Bool :=
  .call (.connect fd address port) .ret

def send (fd : Fd) (bytes : List UInt8) : SockProg Out Bool := .call (.send fd bytes) .ret

def recv (fd : Fd) (n : Nat) : SockProg Out (Option (Received n)) := .call (.recv fd n) .ret

def close (fd : Fd) : SockProg Out Unit := .call (.close fd) .ret

def shutdown (fd : Fd) : SockProg Out Unit := .call (.shutdown fd) .ret

def print (out : Out) : SockProg Out Unit := .call (.print out) .ret

end Sock

lemma trace_call {Out α : Type} (c : SysCall Out) (r : SysReply c)
    {k : SysReply c → SockProg Out α} {p : SockProg Out α} {es : List (Prog.Event (@SysReply Out))}
    (h : Prog.Trace (k r) es p) : Prog.Trace (.call c k) (.call c r :: es) p :=
  .call c r h

lemma trace_step {Out α : Type} (c : SysCall Out) (r : SysReply c) {f : SysReply c → SockProg Out α}
    {p : SockProg Out α} {es : List (Prog.Event (@SysReply Out))} (h : Prog.Trace (f r) es p) :
    Prog.Trace ((.call c .ret : SockProg Out (SysReply c)) >>= f) (.call c r :: es) p :=
  .step c r h

lemma trace_print {Out : Type} (out : Out) :
    Prog.Trace (Sock.print out) [.call (.print out) ()] (pure ()) :=
  trace_call (.print out) () (.done _)

/-- `inet_pton`, from the octets read so far and the octet being read. -/
def inetPtonLoop : List UInt8 → Option Nat → List UInt8 → Option (List UInt8)
  | octets, some n, [] => if octets.length = 3 then some (octets ++ [UInt8.ofNat n]) else none
  | _, none, [] => none
  | octets, cur, c :: cs =>
    if 48 ≤ c.toNat ∧ c.toNat ≤ 57 then
      match cur with
      | none => inetPtonLoop octets (some (c.toNat - 48)) cs
      | some n =>
        if n = 0 ∨ 255 < 10 * n + (c.toNat - 48) then none
        else inetPtonLoop octets (some (10 * n + (c.toNat - 48))) cs
    else if c.toNat = 46 then
      match cur with
      | none => none
      | some n =>
        if octets.length = 3 then none
        else inetPtonLoop (octets ++ [UInt8.ofNat n]) none cs
    else none

/-- The four octets of a dotted quad without leading zeros, in network order. -/
def inetPton (text : CString) : Option (List UInt8) := inetPtonLoop [] none text.bytes

/-- The chunks still to be received, the next free descriptor and the calls made so far. -/
structure World (Out : Type) where
  incoming : List (List UInt8)
  nextFd : Fd
  calls : List (SysCall Out)

variable {Out α : Type}

namespace World

def start (incoming : List (List UInt8)) : World Out := ⟨incoming, 3, []⟩

def sent (w : World Out) : List (List UInt8) :=
  w.calls.filterMap fun c => match c with
    | .send _ bytes => some bytes
    | _ => none

/-- The calls that another host can see or influence. -/
def traffic (w : World Out) : List (SysCall Out) :=
  w.calls.filter fun c => match c with
    | .print _ => false
    | _ => true

def log (w : World Out) (c : SysCall Out) : World Out := { w with calls := w.calls ++ [c] }

/-- The chunks left after a `recv` of `n` bytes: what did not fit stays in the stream. -/
def rest (incoming : List (List UInt8)) (n : Nat) : List (List UInt8) :=
  match incoming with
  | [] => []
  | m :: ms => if m.length ≤ n then ms else m.drop n :: ms

/-- The bytes of the next `recv` of `n` bytes; none are left once the peer has closed. -/
def next (incoming : List (List UInt8)) (n : Nat) : Received n :=
  ⟨(incoming.headD []).take n, List.length_take_le _ _⟩

end World

/-- Every call succeeds, and each `recv` takes the next chunk. -/
def streamOs : Prog.Os (@SysReply Out) (World Out) := fun c w =>
  match c with
  | .socket => (some w.nextFd, { w.log c with nextFd := w.nextFd + 1 })
  | .setsockopt _ => (true, w.log c)
  | .bind _ _ => (true, w.log c)
  | .listen _ => (true, w.log c)
  | .accept _ => (some w.nextFd, { w.log c with nextFd := w.nextFd + 1 })
  | .inetPton text => (inetPton text, w.log c)
  | .connect _ _ _ => (true, w.log c)
  | .send _ _ => (true, w.log c)
  | .recv _ n => (some (World.next w.incoming n), { w.log c with incoming := World.rest w.incoming n })
  | .close _ => ((), w.log c)
  | .shutdown _ => ((), w.log c)
  | .print _ => ((), w.log c)

def receives (p : SockProg Out α) (incoming : List (List UInt8)) : Mem α :=
  Prod.fst <$> p.run streamOs (World.start incoming)

def sends (p : SockProg Out α) : Mem (List (List UInt8)) :=
  (fun r => r.2.sent) <$> p.run streamOs (World.start [])

/-- The messages that a program sends while it receives the given chunks. -/
def sendsOn (p : SockProg Out α) (incoming : List (List UInt8)) : Mem (List (List UInt8)) :=
  (fun r => r.2.sent) <$> p.run streamOs (World.start incoming)

/-- The calls of a program that receives the given chunks, apart from its prints. -/
def traffic (p : SockProg Out α) (incoming : List (List UInt8)) : Mem (List (SysCall Out)) :=
  (fun r => r.2.traffic) <$> p.run streamOs (World.start incoming)

lemma sends_ofMem_bind {β : Type} (m : Mem β) (f : β → SockProg Out α) :
    sends (Prog.ofMem m >>= f) = m >>= fun a => sends (f a) := by
  rw [sends, Prog.run_ofMem_bind, map_bind]
  rfl

section Traces

variable {p p' : SockProg Out α} {es : List (Prog.Event (@SysReply Out))} (h : Prog.Trace p es p')
  {incoming : List (List UInt8)} {w : World Out}
  (ha : Prog.Answers streamOs (World.start incoming) es w)
include h ha

lemma receives_of_trace :
    receives p incoming = Prod.fst <$> (⟨Prog.strayFaults es ++ (p'.run streamOs w).stray,
      (p'.run streamOs w).result⟩ : Mem (α × World Out)) := by
  rw [receives, Prog.run_of_trace streamOs h ha]

lemma traffic_of_trace :
    traffic p incoming = (fun r => r.2.traffic) <$>
      (⟨Prog.strayFaults es ++ (p'.run streamOs w).stray,
        (p'.run streamOs w).result⟩ : Mem (α × World Out)) := by
  rw [traffic, Prog.run_of_trace streamOs h ha]

lemma sendsOn_of_trace :
    sendsOn p incoming = (fun r => r.2.sent) <$>
      (⟨Prog.strayFaults es ++ (p'.run streamOs w).stray,
        (p'.run streamOs w).result⟩ : Mem (α × World Out)) := by
  rw [sendsOn, Prog.run_of_trace streamOs h ha]

end Traces

/-- The receiver's value when every send of the sender is delivered whole by one `recv`. -/
def tunnel {β : Type} (sender : SockProg Out α) (receiver : SockProg Out β) : Mem β := do
  receives receiver (← sends sender)

end CLang
