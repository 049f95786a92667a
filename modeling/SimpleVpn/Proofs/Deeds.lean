import SimpleVpn.Lib.Deeds
import SimpleVpn.Proofs.Roles

/-!
# What the hosts do on their connections

The deeds of the client, the server and the destination at every stage of their roles.
-/

namespace SimpleVpn

open CLang

variable (order : ByteOrder) (k : Key)

/-- The buffer that has been received into. -/
def buffer : Deed → Option Buf
  | .received _ n bytes => some (received n bytes)
  | _ => none

section Client

variable (request : CString) (hosts : Option (CString × CString × CString))

/-- What a client has done when it has come to a stage. It receives also when its `send` has failed. -/
inductive ClientDid : ClientStage → List Deed → Prop where
  | start : ClientDid .start []
  | opened (fd : Fd) : ClientDid (.opened fd) []
  | resolved (fd : Fd) (address : List UInt8) : ClientDid (.resolved fd address) []
  | connected (fd : Fd) (address : List UInt8) : ClientDid (.connected fd) [.connected fd address port]
  | sent {fd : Fd} (address : List UInt8) {bytes : List UInt8} :
      ClientStage.Allows order k request hosts (.connected fd) (.send fd bytes) →
      ClientDid (.sent fd) [.connected fd address port, .sent fd bytes]
  | unsent (fd : Fd) (address : List UInt8) : ClientDid (.sent fd) [.connected fd address port]
  | received {fd : Fd} (address : List UInt8) {bytes : List UInt8} (reply : Received pktSize) :
      ClientStage.Allows order k request hosts (.connected fd) (.send fd bytes) →
      ClientDid .done [.connected fd address port, .sent fd bytes, .received fd pktSize reply]
  | receivedUnsent (fd : Fd) (address : List UInt8) (reply : Received pktSize) :
      ClientDid .done [.connected fd address port, .received fd pktSize reply]
  | gaveUp {s : ClientStage} {ds : List Deed} : ClientDid s ds → ClientDid .done ds

variable {request hosts}

lemma ClientDid.next {s : ClientStage} {ds : List Deed} {c : SysCall Output}
    (h : ClientDid order k request hosts s ds) (hc : ClientStage.Allows order k request hosts s c)
    (r : SysReply c) : ClientDid order k request hosts (s.next c r) (ds ++ deeds [.call c r]) := by
  have hidle {s' : ClientStage} (hs : s' = s) : ClientDid order k request hosts s' (ds ++ []) := by
    rw [hs, List.append_nil]
    exact h
  have hfailed (hstage : s.next c r = .done) (hr : deeds ([.call c r] : SockLog Output) = []) :
      ClientDid order k request hosts (s.next c r) (ds ++ deeds [.call c r]) := by
    rw [hstage, hr, List.append_nil]
    exact .gaveUp h
  cases c with
  | print out => exact hidle (by cases s <;> rfl)
  | close fd => exact hidle (by cases s <;> rfl)
  | socket =>
    cases r with
    | none => exact hfailed (by cases s <;> rfl) rfl
    | some fd =>
      cases h with
      | start => exact .opened fd
      | _ => exact hc.elim
  | inetPton text =>
    cases r with
    | none => exact hfailed (by cases s <;> rfl) rfl
    | some address =>
      cases h with
      | opened fd => exact .resolved fd address
      | _ => exact hc.elim
  | connect fd address p =>
    cases r with
    | false => exact hfailed (by cases s <;> rfl) rfl
    | true =>
      cases h with
      | resolved fd' address' =>
        obtain ⟨rfl, rfl, rfl⟩ := hc
        exact .connected fd address
      | _ => exact hc.elim
  | send fd bytes =>
    cases h with
    | connected fd' address =>
      obtain ⟨rfl, hbytes⟩ := hc
      cases r with
      | true => exact .sent address ⟨rfl, hbytes⟩
      | false => exact .unsent fd address
    | _ => exact hc.elim
  | recv fd n =>
    cases r with
    | none => exact hfailed (by cases s <;> rfl) rfl
    | some reply =>
      cases h with
      | sent address hsend =>
        obtain ⟨rfl, rfl⟩ := hc
        exact .received address reply hsend
      | unsent fd' address =>
        obtain ⟨rfl, rfl⟩ := hc
        exact .receivedUnsent fd address reply
      | _ => exact hc.elim
  | _ => cases h <;> exact hc.elim

section Facts

variable {s : ClientStage} {ds : List Deed} (h : ClientDid order k request hosts s ds)
include h

lemma ClientDid.not_accepted : ds.filterMap Deed.acceptedFd = [] := by
  induction h with
  | gaveUp _ ih => exact ih
  | _ => rfl

lemma ClientDid.sentOn (fd : Fd) : ds.filterMap (Deed.sentOn fd) = [] ∨ ∃ h ∈ hosts,
    ds.filterMap (Deed.sentOn fd) = [wire k request (header order h.1 h.2.2 ipProtocolTcp tcpFlagSyn)] := by
  induction h with
  | gaveUp _ ih => exact ih
  | @sent fd' address bytes hc =>
    obtain ⟨-, named, hnamed, rfl⟩ := hc
    by_cases hfd : fd' = fd
    · exact .inr ⟨named, hnamed, by simp [List.filterMap_cons, Deed.sentOn, hfd]⟩
    · exact .inl (by simp [List.filterMap_cons, Deed.sentOn, hfd])
  | @received fd' address bytes reply hc =>
    obtain ⟨-, named, hnamed, rfl⟩ := hc
    by_cases hfd : fd' = fd
    · exact .inr ⟨named, hnamed, by simp [List.filterMap_cons, Deed.sentOn, hfd]⟩
    · exact .inl (by simp [List.filterMap_cons, Deed.sentOn, hfd])
  | _ => exact .inl rfl

lemma ClientDid.buffers : ds.filterMap buffer = [] ∨ ∃ fd reply, fd ∈ (ds.filterMap Deed.connectedTo).map Prod.fst ∧
    ds.filterMap (Deed.receivedOn fd) = [reply.val] ∧ ds.filterMap buffer = [SimpleVpn.received pktSize reply] := by
  induction h with
  | gaveUp _ ih => exact ih
  | @received fd address bytes reply hc =>
    refine .inr ⟨fd, reply, List.mem_singleton_self fd, ?_, rfl⟩
    simp [List.filterMap_cons, Deed.receivedOn]
  | receivedUnsent fd address reply =>
    refine .inr ⟨fd, reply, List.mem_singleton_self fd, ?_, rfl⟩
    simp [List.filterMap_cons, Deed.receivedOn]
  | _ => exact .inl rfl

lemma ClientDid.script : ∃ (fd : Fd) (address bytes : List UInt8) (reply : Received pktSize),
    ds <+: [.connected fd address port, .sent fd bytes, .received fd pktSize reply] ∨
      ds <+: [.connected fd address port, .received fd pktSize reply] := by
  have hempty : (Received pktSize) := ⟨[], Nat.zero_le _⟩
  induction h with
  | gaveUp _ ih => exact ih
  | connected fd address => exact ⟨fd, address, [], hempty, .inl ⟨_, rfl⟩⟩
  | @sent fd address bytes hc => exact ⟨fd, address, bytes, hempty, .inl ⟨_, rfl⟩⟩
  | unsent fd address => exact ⟨fd, address, [], hempty, .inl ⟨_, rfl⟩⟩
  | @received fd address bytes reply hc => exact ⟨fd, address, bytes, reply, .inl List.prefix_rfl⟩
  | receivedUnsent fd address reply => exact ⟨fd, address, [], reply, .inr List.prefix_rfl⟩
  | _ => exact ⟨3, [], [], hempty, .inl List.nil_prefix⟩

/-- The client receives when it has sent its request or has failed to. -/
lemma ClientDid.of_recv {fd : Fd} {n : Nat} (hc : ClientStage.Allows order k request hosts s (.recv fd n)) :
    s = .sent fd ∧ n = pktSize ∧ ∃ address, ds = [.connected fd address port] ∨
      ∃ bytes, bytes ≠ [] ∧ ds = [.connected fd address port, .sent fd bytes] := by
  cases h with
  | @sent fd' address bytes hsend =>
    obtain ⟨rfl, rfl⟩ := hc
    obtain ⟨-, named, -, rfl⟩ := hsend
    refine ⟨rfl, rfl, address, .inr ⟨_, fun hnil => ?_, rfl⟩⟩
    have hlen := length_wire k request (length_header order named.1 named.2.2 ipProtocolTcp tcpFlagSyn)
    rw [hnil, List.length_nil] at hlen
    omega
  | unsent fd' address =>
    obtain ⟨rfl, rfl⟩ := hc
    exact ⟨rfl, rfl, address, .inl rfl⟩
  | _ => exact hc.elim

end Facts

/-- What a client has done in a run. -/
theorem ClientDid.of_trace {α : Type} {p q : VpnProg α} {es : List VpnEvent}
    (h : (requestRole order k request hosts).PlayedBy p) (ht : Prog.Trace p es q) :
    ClientDid order k request hosts
      (Prog.stateAfter ClientStage.next (requestRole order k request hosts).start es) (deeds es) := by
  refine h.invariant (I := fun s es => ClientDid order k request hosts s (deeds es)) ?_ ?_ ?_ ht
  · change ClientDid order k request hosts (if hosts.isSome then .start else .done) []
    split
    · exact .start
    · exact .gaveUp .start
  · intro s es x hs
    rw [deeds_append]
    exact (List.append_nil _).symm ▸ hs
  · intro s es c r hs hc
    rw [deeds_append]
    exact hs.next order k hc r

end Client

section Server

variable (host : Option CString)

/-- What the server has done when it has come to a stage. -/
inductive ServerDid : ServerStage → List Deed → Prop where
  | listening : ServerDid .listening []
  | accepted (c : Fd) : ServerDid (.accepted c) [.accepted c]
  | requested (c : Fd) (a : Received pktSize) :
      ServerDid (.requested c (received pktSize a)) [.accepted c, .received c pktSize a]
  | resolved (c : Fd) (a : Received pktSize) (address : List UInt8) :
      ServerDid (.resolved c (received pktSize a) address) [.accepted c, .received c pktSize a]
  | dialed (c : Fd) (a : Received pktSize) (dest : Fd) (address : List UInt8) :
      ServerDid (.dialed c (received pktSize a) dest)
        [.accepted c, .received c pktSize a, .connected dest address port]
  | forwarded {c : Fd} {a : Received pktSize} {dest : Fd} (address : List UInt8) {bytes : List UInt8} :
      ServerStage.Allows order k host (.dialed c (received pktSize a) dest) (.send dest bytes) →
      ServerDid (.forwarded c (received pktSize a) dest)
        [.accepted c, .received c pktSize a, .connected dest address port, .sent dest bytes]
  | answered {c : Fd} {a : Received pktSize} {dest : Fd} (address : List UInt8) {bytes : List UInt8}
      (b : Received pktSize) :
      ServerStage.Allows order k host (.dialed c (received pktSize a) dest) (.send dest bytes) →
      ServerDid (.answered c (received pktSize a) (received pktSize b))
        [.accepted c, .received c pktSize a, .connected dest address port, .sent dest bytes,
          .received dest pktSize b]
  | returned {c : Fd} {a : Received pktSize} {dest : Fd} (address : List UInt8) {bytes : List UInt8}
      {b : Received pktSize} {reply : List UInt8} :
      ServerStage.Allows order k host (.dialed c (received pktSize a) dest) (.send dest bytes) →
      ServerStage.Allows order k host (.answered c (received pktSize a) (received pktSize b)) (.send c reply) →
      ServerDid .done
        [.accepted c, .received c pktSize a, .connected dest address port, .sent dest bytes,
          .received dest pktSize b, .sent c reply]
  | gaveUp {s : ServerStage} {ds : List Deed} : ServerDid s ds → ServerDid .done ds

variable {host}

lemma ServerDid.next {s : ServerStage} {ds : List Deed} {c : SysCall Output} (h : ServerDid order k host s ds)
    (hc : ServerStage.Allows order k host s c) (r : SysReply c) :
    ServerDid order k host (s.next c r) (ds ++ deeds [.call c r]) := by
  have hidle {s' : ServerStage} (hs : s' = s) : ServerDid order k host s' (ds ++ []) := by
    rw [hs, List.append_nil]
    exact h
  by_cases hr : succeeds c r = true
  case neg =>
    have hstage : s.next c r = .done := if_neg hr
    have hnone : deeds ([.call c r] : SockLog Output) = [] := List.filterMap_cons_none (deedOf_of_failed hr)
    rw [hstage, hnone, List.append_nil]
    exact .gaveUp h
  rw [ServerStage.next, if_pos hr]
  cases c with
  | print out => exact hidle (by cases s <;> rfl)
  | close fd => exact hidle (by cases s <;> rfl)
  | shutdown fd => exact hidle (by cases s <;> rfl)
  | setsockopt fd => exact hidle (by cases s <;> rfl)
  | bind fd p => exact hidle (by cases s <;> rfl)
  | listen fd => exact hidle (by cases s <;> rfl)
  | socket =>
    obtain ⟨fd, rfl⟩ := Option.isSome_iff_exists.mp hr
    exact hidle (by cases s <;> rfl)
  | accept fd =>
    obtain ⟨client, rfl⟩ := Option.isSome_iff_exists.mp hr
    cases h with
    | listening => exact .accepted client
    | _ => exact hc.elim
  | inetPton text =>
    obtain ⟨address, rfl⟩ := Option.isSome_iff_exists.mp hr
    cases h with
    | requested client a => exact .resolved client a address
    | _ => exact hc.elim
  | connect dest address p =>
    obtain rfl : r = true := hr
    cases h with
    | resolved client a address' =>
      obtain ⟨rfl, rfl⟩ := hc
      exact .dialed client a dest address
    | _ => exact hc.elim
  | recv fd n =>
    obtain ⟨bytes, rfl⟩ := Option.isSome_iff_exists.mp hr
    cases h with
    | accepted client =>
      obtain ⟨rfl, rfl⟩ := hc
      exact .requested fd bytes
    | forwarded address hsend =>
      obtain ⟨rfl, rfl⟩ := hc
      exact .answered address bytes hsend
    | _ => exact hc.elim
  | send fd bytes =>
    obtain rfl : r = true := hr
    cases h with
    | dialed client a dest address =>
      obtain ⟨rfl, hbytes⟩ := hc
      exact .forwarded address ⟨rfl, hbytes⟩
    | answered address b hsend =>
      obtain ⟨rfl, hbytes⟩ := hc
      exact .returned address hsend ⟨rfl, hbytes⟩
    | _ => exact hc.elim

section Facts

variable {s : ServerStage} {ds : List Deed} (h : ServerDid order k host s ds)
  (hseparate : ∀ c ∈ ds.filterMap Deed.connectedTo, c.1 ∉ ds.filterMap Deed.acceptedFd)

include h in
lemma ServerDid.of_accept {fd : Fd} (hc : ServerStage.Allows order k host s (.accept fd)) : ds = [] := by
  cases h with
  | listening => rfl
  | _ => exact hc.elim

include h in
/-- The server receives when it has accepted a connection, and when it has forwarded a request. -/
lemma ServerDid.of_recv {fd : Fd} {n : Nat} (hc : ServerStage.Allows order k host s (.recv fd n)) :
    n = pktSize ∧ (ds = [.accepted fd] ∨ ∃ (c : Fd) (a : Received pktSize) (address bytes : List UInt8),
      bytes ≠ [] ∧ ds = [.accepted c, .received c pktSize a, .connected fd address port, .sent fd bytes]) := by
  cases h with
  | accepted c =>
    obtain ⟨rfl, rfl⟩ := hc
    exact ⟨rfl, .inl rfl⟩
  | @forwarded c a dest address bytes hsend =>
    obtain ⟨rfl, rfl⟩ := hc
    obtain ⟨-, serverIp, -, hforward⟩ := hsend
    refine ⟨rfl, .inr ⟨c, a, address, bytes, fun hnil => ?_, rfl⟩⟩
    have hlen := hforward.length
    rw [hnil] at hlen
    cases hlen
  | _ => exact hc.elim

include h hseparate

/-- What the server has sent on the connection that it has accepted: the answer to the client. -/
lemma ServerDid.sentOn_accepted {fd : Fd} (hfd : fd ∈ ds.filterMap Deed.acceptedFd) :
    ds.filterMap (Deed.sentOn fd) = [] ∨ ∃ (a b : Received pktSize) (dest : Fd) (reply : List UInt8),
      a.val ∈ ds.filterMap (Deed.receivedOn fd) ∧ b.val ∈ ds.filterMap (Deed.receivedOn dest) ∧
      dest ∈ (ds.filterMap Deed.connectedTo).map Prod.fst ∧
      Answering order k (ipHdrAt order (decrypted k (received pktSize a)) sizeofGreHdr).ipSrc (received pktSize b)
        reply ∧ ds.filterMap (Deed.sentOn fd) = [reply] := by
  induction h with
  | gaveUp _ ih => exact ih hseparate hfd
  | @forwarded c a dest address bytes hsend =>
    have hne : dest ≠ c := fun heq => hseparate _ (List.mem_singleton_self _) (List.mem_singleton.mpr heq)
    obtain rfl := List.mem_singleton.mp hfd
    exact .inl (by simp [List.filterMap_cons, Deed.sentOn, hne])
  | @answered c a dest address bytes b hsend =>
    have hne : dest ≠ c := fun heq => hseparate _ (List.mem_singleton_self _) (List.mem_singleton.mpr heq)
    obtain rfl := List.mem_singleton.mp hfd
    exact .inl (by simp [List.filterMap_cons, Deed.sentOn, hne])
  | @returned c a dest address bytes b reply hsend hreturn =>
    have hne : dest ≠ c := fun heq => hseparate _ (List.mem_singleton_self _) (List.mem_singleton.mpr heq)
    obtain rfl := List.mem_singleton.mp hfd
    refine .inr ⟨a, b, dest, reply, ?_, ?_, List.mem_singleton_self dest, hreturn.2, ?_⟩
    · simp [List.filterMap_cons, Deed.receivedOn]
    · simp [List.filterMap_cons, Deed.receivedOn, hne.symm]
    · simp [List.filterMap_cons, Deed.sentOn, hne]
  | _ => exact .inl rfl

/-- What the server has sent on the connection that it has dialed: the packet for the destination. -/
lemma ServerDid.sentOn_connected {fd : Fd} (hfd : fd ∈ (ds.filterMap Deed.connectedTo).map Prod.fst) :
    ds.filterMap (Deed.sentOn fd) = [] ∨ ∃ (a : Received pktSize) (bytes : List UInt8), ∃ serverIp ∈ host,
      Forwarding order serverIp (decrypted k (received pktSize a)) bytes ∧
      ds.filterMap (Deed.sentOn fd) = [bytes] := by
  induction h with
  | gaveUp _ ih => exact ih hseparate hfd
  | @forwarded c a dest address bytes hsend =>
    obtain rfl := List.mem_singleton.mp hfd
    obtain ⟨-, serverIp, hhost, hforward⟩ := hsend
    exact .inr ⟨a, bytes, serverIp, hhost, hforward, by simp [List.filterMap_cons, Deed.sentOn]⟩
  | @answered c a dest address bytes b hsend =>
    obtain rfl := List.mem_singleton.mp hfd
    obtain ⟨-, serverIp, hhost, hforward⟩ := hsend
    exact .inr ⟨a, bytes, serverIp, hhost, hforward, by simp [List.filterMap_cons, Deed.sentOn]⟩
  | @returned c a dest address bytes b reply hsend hreturn =>
    have hne : c ≠ dest := fun heq => hseparate _ (List.mem_singleton_self _) (List.mem_singleton.mpr heq.symm)
    obtain rfl := List.mem_singleton.mp hfd
    obtain ⟨-, serverIp, hhost, hforward⟩ := hsend
    exact .inr ⟨a, bytes, serverIp, hhost, hforward, by simp [List.filterMap_cons, Deed.sentOn, hne]⟩
  | _ => exact .inl rfl

lemma ServerDid.buffers : ds.filterMap buffer = [] ∨ ∃ c a, c ∈ ds.filterMap Deed.acceptedFd ∧
    ds.filterMap (Deed.receivedOn c) = [a.val] ∧ (ds.filterMap buffer = [received pktSize a] ∨
      ∃ dest b, dest ∈ (ds.filterMap Deed.connectedTo).map Prod.fst ∧
        ds.filterMap (Deed.receivedOn dest) = [b.val] ∧
        ds.filterMap buffer = [received pktSize a, received pktSize b]) := by
  have hmem (c : Fd) (a : Received pktSize) (ds : List Deed) (hds : ds.filterMap (Deed.receivedOn c) = []) :
      (Deed.accepted c :: .received c pktSize a :: ds).filterMap (Deed.receivedOn c) = [a.val] := by
    simp [List.filterMap_cons, Deed.receivedOn, hds]
  induction h with
  | gaveUp _ ih => exact ih hseparate
  | requested c a => exact .inr ⟨c, a, List.mem_singleton_self c, hmem c a [] rfl, .inl rfl⟩
  | resolved c a address => exact .inr ⟨c, a, List.mem_singleton_self c, hmem c a [] rfl, .inl rfl⟩
  | dialed c a dest address => exact .inr ⟨c, a, List.mem_singleton_self c, hmem c a [_] rfl, .inl rfl⟩
  | @forwarded c a dest address bytes hsend =>
    exact .inr ⟨c, a, List.mem_singleton_self c, hmem c a [_, _] rfl, .inl rfl⟩
  | @answered c a dest address bytes b hsend =>
    have hne : dest ≠ c := fun heq => hseparate _ (List.mem_singleton_self _) (List.mem_singleton.mpr heq)
    refine .inr ⟨c, a, List.mem_singleton_self c, ?_, .inr ⟨dest, b, List.mem_singleton_self dest, ?_, rfl⟩⟩
    · simp [List.filterMap_cons, Deed.receivedOn, hne]
    · simp [List.filterMap_cons, Deed.receivedOn, hne.symm]
  | @returned c a dest address bytes b reply hsend hreturn =>
    have hne : dest ≠ c := fun heq => hseparate _ (List.mem_singleton_self _) (List.mem_singleton.mpr heq)
    refine .inr ⟨c, a, List.mem_singleton_self c, ?_, .inr ⟨dest, b, List.mem_singleton_self dest, ?_, rfl⟩⟩
    · simp [List.filterMap_cons, Deed.receivedOn, hne]
    · simp [List.filterMap_cons, Deed.receivedOn, hne.symm]
  | _ => exact .inl rfl

lemma ServerDid.script : ∃ (c dest : Fd) (a b : Received pktSize) (address bytes reply : List UInt8), c ≠ dest ∧
    ds <+: [.accepted c, .received c pktSize a, .connected dest address port, .sent dest bytes,
      .received dest pktSize b, .sent c reply] := by
  have hempty : (Received pktSize) := ⟨[], Nat.zero_le _⟩
  have hne {c dest : Fd} {address : List UInt8}
      (h : ∀ c' ∈ [(dest, address, port)], c'.1 ∉ [c]) : c ≠ dest :=
    fun heq => h _ (List.mem_singleton_self _) (List.mem_singleton.mpr heq.symm)
  induction h with
  | gaveUp _ ih => exact ih hseparate
  | listening => exact ⟨4, 5, hempty, hempty, [], [], [], by decide, List.nil_prefix⟩
  | accepted c => exact ⟨c, c + 1, hempty, hempty, [], [], [], Nat.ne_of_lt (Nat.lt_succ_self c), ⟨_, rfl⟩⟩
  | requested c a => exact ⟨c, c + 1, a, hempty, [], [], [], Nat.ne_of_lt (Nat.lt_succ_self c), ⟨_, rfl⟩⟩
  | resolved c a address => exact ⟨c, c + 1, a, hempty, [], [], [], Nat.ne_of_lt (Nat.lt_succ_self c), ⟨_, rfl⟩⟩
  | dialed c a dest address => exact ⟨c, dest, a, hempty, address, [], [], hne hseparate, ⟨_, rfl⟩⟩
  | @forwarded c a dest address bytes _ => exact ⟨c, dest, a, hempty, address, bytes, [], hne hseparate, ⟨_, rfl⟩⟩
  | @answered c a dest address bytes b _ => exact ⟨c, dest, a, b, address, bytes, [], hne hseparate, ⟨_, rfl⟩⟩
  | @returned c a dest address bytes b reply _ _ =>
    exact ⟨c, dest, a, b, address, bytes, reply, hne hseparate, List.prefix_rfl⟩

end Facts

/-- What the server has done in a run. -/
theorem ServerDid.of_trace {α : Type} {p q : VpnProg α} {es : List VpnEvent}
    (h : (serverRole order k host).PlayedBy p) (ht : Prog.Trace p es q) :
    ServerDid order k host (Prog.stateAfter ServerStage.next (serverRole order k host).start es) (deeds es) := by
  refine h.invariant (I := fun s es => ServerDid order k host s (deeds es)) ?_ ?_ ?_ ht
  · change ServerDid order k host (if host.isSome then .listening else .done) []
    split
    · exact .listening
    · exact .gaveUp .listening
  · intro s es x hs
    rw [deeds_append]
    exact (List.append_nil _).symm ▸ hs
  · intro s es c r hs hc
    rw [deeds_append]
    exact hs.next order k hc r

end Server

section Destination

variable (response : CString) (host : Option CString)

/-- What a destination has done when it has come to a stage. -/
inductive DestDid : DestStage → List Deed → Prop where
  | listening : DestDid .listening []
  | accepted (c : Fd) : DestDid (.accepted c) [.accepted c]
  | received (c : Fd) (a : Received destPktSize) :
      DestDid (.received c (SimpleVpn.received destPktSize a)) [.accepted c, .received c destPktSize a]
  | answered {c : Fd} {a : Received destPktSize} {bytes : List UInt8} :
      DestStage.Allows order response host (.received c (SimpleVpn.received destPktSize a)) (.send c bytes) →
      DestDid .done [.accepted c, .received c destPktSize a, .sent c bytes]
  | gaveUp {s : DestStage} {ds : List Deed} : DestDid s ds → DestDid .done ds

variable {response host}

lemma DestDid.next {s : DestStage} {ds : List Deed} {c : SysCall Output} (h : DestDid order response host s ds)
    (hc : DestStage.Allows order response host s c) (r : SysReply c) :
    DestDid order response host (s.next c r) (ds ++ deeds [.call c r]) := by
  have hidle {s' : DestStage} (hs : s' = s) : DestDid order response host s' (ds ++ []) := by
    rw [hs, List.append_nil]
    exact h
  by_cases hr : succeeds c r = true
  case neg =>
    have hstage : s.next c r = .done := if_neg hr
    have hnone : deeds ([.call c r] : SockLog Output) = [] := List.filterMap_cons_none (deedOf_of_failed hr)
    rw [hstage, hnone, List.append_nil]
    exact .gaveUp h
  rw [DestStage.next, if_pos hr]
  cases c with
  | print out => exact hidle (by cases s <;> rfl)
  | close fd => exact hidle (by cases s <;> rfl)
  | setsockopt fd => exact hidle (by cases s <;> rfl)
  | bind fd p => exact hidle (by cases s <;> rfl)
  | listen fd => exact hidle (by cases s <;> rfl)
  | socket =>
    obtain ⟨fd, rfl⟩ := Option.isSome_iff_exists.mp hr
    exact hidle (by cases s <;> rfl)
  | accept fd =>
    obtain ⟨client, rfl⟩ := Option.isSome_iff_exists.mp hr
    cases h with
    | listening => exact .accepted client
    | _ => exact hc.elim
  | recv fd n =>
    obtain ⟨bytes, rfl⟩ := Option.isSome_iff_exists.mp hr
    cases h with
    | accepted client =>
      obtain ⟨rfl, rfl⟩ := hc
      exact .received fd bytes
    | _ => exact hc.elim
  | send fd bytes =>
    obtain rfl : r = true := hr
    cases h with
    | received client a =>
      obtain ⟨rfl, hbytes⟩ := hc
      exact .answered ⟨rfl, hbytes⟩
    | _ => exact hc.elim
  | _ => cases h <;> exact hc.elim

section Facts

variable {s : DestStage} {ds : List Deed} (h : DestDid order response host s ds)
include h

lemma DestDid.sentOn (fd : Fd) : ds.filterMap (Deed.sentOn fd) = [] ∨ ∃ (packet : Buf), ∃ hostIp ∈ host,
    ds.filterMap (Deed.sentOn fd) =
      [(freshIp order hostIp (ipAddrText (ipHdrAt order packet 0).ipSrc) ipProtocolTcp).toBytes order ++
        (freshTcp order tcpFlagAck).toBytes order ++ response.bytes ++ calloc 6] := by
  induction h with
  | gaveUp _ ih => exact ih
  | @answered c a bytes hsend =>
    obtain ⟨-, hostIp, hhost, rfl⟩ := hsend
    by_cases hfd : c = fd
    · exact .inr ⟨SimpleVpn.received destPktSize a, hostIp, hhost, by simp [List.filterMap_cons, Deed.sentOn, hfd]⟩
    · exact .inl (by simp [List.filterMap_cons, Deed.sentOn, hfd])
  | _ => exact .inl rfl

lemma DestDid.buffers : ds.filterMap buffer = [] ∨ ∃ c a, c ∈ ds.filterMap Deed.acceptedFd ∧
    ds.filterMap (Deed.receivedOn c) = [a.val] ∧ ds.filterMap buffer = [SimpleVpn.received destPktSize a] := by
  induction h with
  | gaveUp _ ih => exact ih
  | received c a =>
    exact .inr ⟨c, a, List.mem_singleton_self c, by simp [List.filterMap_cons, Deed.receivedOn], rfl⟩
  | @answered c a bytes hsend =>
    exact .inr ⟨c, a, List.mem_singleton_self c, by simp [List.filterMap_cons, Deed.receivedOn], rfl⟩
  | _ => exact .inl rfl

lemma DestDid.script : ∃ (c : Fd) (a : Received destPktSize) (bytes : List UInt8),
    ds <+: [.accepted c, .received c destPktSize a, .sent c bytes] := by
  have hempty : (Received destPktSize) := ⟨[], Nat.zero_le _⟩
  induction h with
  | gaveUp _ ih => exact ih
  | listening => exact ⟨4, hempty, [], List.nil_prefix⟩
  | accepted c => exact ⟨c, hempty, [], ⟨_, rfl⟩⟩
  | received c a => exact ⟨c, a, [], ⟨_, rfl⟩⟩
  | @answered c a bytes _ => exact ⟨c, a, bytes, List.prefix_rfl⟩

lemma DestDid.of_accept {fd : Fd} (hc : DestStage.Allows order response host s (.accept fd)) : ds = [] := by
  cases h with
  | listening => rfl
  | _ => exact hc.elim

lemma DestDid.of_recv {fd : Fd} {n : Nat} (hc : DestStage.Allows order response host s (.recv fd n)) :
    n = destPktSize ∧ ds = [.accepted fd] := by
  cases h with
  | accepted c =>
    obtain ⟨rfl, rfl⟩ := hc
    exact ⟨rfl, rfl⟩
  | _ => exact hc.elim

end Facts

/-- What a destination has done in a run. -/
theorem DestDid.of_trace {α : Type} {p q : VpnProg α} {es : List VpnEvent}
    (h : (responseRole order response host).PlayedBy p) (ht : Prog.Trace p es q) :
    DestDid order response host
      (Prog.stateAfter DestStage.next (responseRole order response host).start es) (deeds es) := by
  refine h.invariant (I := fun s es => DestDid order response host s (deeds es)) ?_ ?_ ?_ ht
  · change DestDid order response host (if host.isSome then .listening else .done) []
    split
    · exact .listening
    · exact .gaveUp .listening
  · intro s es x hs
    rw [deeds_append]
    exact (List.append_nil _).symm ▸ hs
  · intro s es c r hs hc
    rw [deeds_append]
    exact hs.next order hc r

end Destination

end SimpleVpn
