import SimpleVpn.Proofs.Legs

/-!
# Safety of the exchange

Whatever fails on the network, no program reads behind a buffer, and the server's store behind its last ciphertext
is the only store outside an object.
-/

namespace SimpleVpn

open CLang Prog

/-- What a receive has returned, with `none` for one that failed. -/
def receipt : VpnEvent → Option (Option Buf)
  | .call (.recv _ n) r => some (r.map (received n))
  | _ => none

lemma received_foldl (p : Progress) (es : List VpnEvent) :
    (es.foldl Progress.next p).received = p.received ++ es.filterMap receipt := by
  induction es generalizing p with
  | nil => exact (List.append_nil _).symm
  | cons e es ih =>
    rw [List.foldl_cons, ih, List.filterMap_cons]
    rcases e with x | ⟨c, r⟩
    · rfl
    · cases c with
      | recv fd n => exact List.append_assoc _ [_] _
      | _ => rfl

lemma strays_foldl (p : Progress) (es : List VpnEvent) :
    (es.foldl Progress.next p).strays = p.strays + (strayFaults es).length := by
  induction es generalizing p with
  | nil => rfl
  | cons e es ih =>
    rw [List.foldl_cons, ih]
    rcases e with x | ⟨c, r⟩
    · rw [strayFaults, List.length_cons, ← Nat.add_assoc, Nat.add_right_comm]
      rfl
    · cases c <;> rfl

/-- The receives that have succeeded. -/
lemma reduceOption_receipts (log : List VpnEvent) :
    (log.filterMap receipt).reduceOption = (deeds log).filterMap buffer := by
  change (log.filterMap receipt).filterMap id = _
  rw [List.filterMap_filterMap]
  refine filterMap_deeds log fun e => ?_
  rcases e with x | ⟨c, r⟩
  · rfl
  · cases c <;> rcases r with _ | _ <;> rfl

lemma exists_recv_none {log : List VpnEvent} (h : none ∈ log.filterMap receipt) :
    ∃ fd n, (.call (.recv fd n) none : VpnEvent) ∈ log := by
  obtain ⟨e, he, hr⟩ := List.mem_filterMap.mp h
  rcases e with x | ⟨c, r⟩
  · cases hr
  · cases c with
    | recv fd n =>
      cases r with
      | none => exact ⟨fd, n, he⟩
      | some bytes => cases hr
    | _ => cases hr

lemma not_mem_recv {log : List VpnEvent} (h : log.filterMap receipt = []) (fd : Fd) (n : Nat)
    (r : Option (Received n)) : (.call (.recv fd n) r : VpnEvent) ∉ log := by
  intro hmem
  have hnone := List.filterMap_eq_nil_iff.mp h _ hmem
  cases hnone

section Strays

variable {α : Type} {p q : VpnProg α} {es : List VpnEvent} {E : ErrorSpec Progress}

lemma strayFaults_of_behaves (h : Behaves Progress.next E .start p) (hnone : ∀ s x, ¬ E.strays s x)
    (ht : Trace p es q) : strayFaults es = [] := by
  by_contra hne
  obtain ⟨before, x, after, rfl, -⟩ := exists_first_stray hne
  obtain ⟨p', hp'⟩ := ht.of_stray
  exact hnone _ x (h.errorsOf.strays before x p' hp')

/-- The server stores outside an object once, when it has received an answer. -/
lemma strayFaults_of_serverErrors (h : Behaves Progress.next serverErrors .start p) (ht : Trace p es q) :
    strayFaults es = [] ∨ ∃ a b rest, es.filterMap receipt = some a :: some b :: rest ∧
      strayFaults es = [.store (46 + (CString.textOf (answerField b)).length : Nat)
        (46 + (CString.textOf (answerField b)).length)] := by
  by_cases hne : strayFaults es = []
  · exact .inl hne
  obtain ⟨before, x, after, rfl, hbefore⟩ := exists_first_stray hne
  obtain ⟨p', hp'⟩ := ht.of_stray
  obtain ⟨-, hstray⟩ := h.errorsOf.strays before x p' hp'
  have hafter : strayFaults after = [] := by
    by_contra hmore
    obtain ⟨before', y, after', rfl, -⟩ := exists_first_stray hmore
    rw [← List.cons_append, ← List.append_assoc] at ht
    obtain ⟨p'', hp''⟩ := ht.of_stray
    obtain ⟨hfirst, -⟩ := h.errorsOf.strays _ y p'' hp''
    rw [strays_foldl, strayFaults_append, strayFaults, List.length_append, List.length_cons] at hfirst
    omega
  rw [received_foldl, show Progress.start.received = [] from rfl, List.nil_append] at hstray
  split at hstray
  · rename_i a b hreceipts
    refine .inr ⟨a, b, (Event.stray x :: after).filterMap receipt, ?_, ?_⟩
    · rw [List.filterMap_append, hreceipts]
      rfl
    · rw [strayFaults_append, hbefore, strayFaults, hafter, hstray]
      rfl
  · exact hstray.elim

end Strays

/-- How a host may have stopped: by a signal, or with status 1 before it receives, or by reading the NULL pointer
after a receive that failed. -/
def MayStop (i : Host) (log : List VpnEvent) : Stop → Prop
  | .signal => True
  | .exit status => i ≠ .client ∧ status = exitFailure ∧ ∀ fd n r, (.call (.recv fd n) r : VpnEvent) ∉ log
  | .fault x => i ≠ .destination ∧ x = .null ∧ ∃ fd n, (.call (.recv fd n) none : VpnEvent) ∈ log

/-- Nothing has been read behind a buffer, and the server's terminator behind its last ciphertext is the only store
outside an object. The text of this ciphertext is no longer than the response. -/
structure Safe (response : CString) (t : Network Host (@SysReply Output) Int) : Prop where
  stops : ∀ i e, (t i).prog = .stop e → MayStop i (t i).log e
  client : strayFaults (t .client).log = []
  destination : strayFaults (t .destination).log = []
  server : strayFaults (t .server).log = [] ∨ ∃ b ∈ (deeds (t .server).log).filterMap buffer,
    (CString.textOf (answerField b)).length ≤ response.length ∧
    strayFaults (t .server).log = [.store (46 + (CString.textOf (answerField b)).length : Nat)
      (46 + (CString.textOf (answerField b)).length)]

section Exchange

variable (order : ByteOrder) (k : Key) (c s d : UInt32) {request response : CString}
  (hreq : request.length ≤ 127) (hresp : response.length ≤ 122)

section Network

variable {t : Network Host (@SysReply Output) Int}
  (ht : Relation.ReflTransGen (vpnNetwork s d).Moves (exchange order k c s d request response) t)
include ht

lemma trace_or_signal {i : Host} {e : Stop} (hstop : (t i).prog = .stop e) :
    Trace (exchange order k c s d request response i).prog (t i).log (.stop e) ∨ e = .signal := by
  rcases runOf_exchange order k c s d ht i with htrace | ⟨hsignal, -⟩
  · rw [hstop] at htrace
    exact .inl htrace
  · rw [hstop] at hsignal
    cases hsignal
    exact .inr rfl

include hreq in
lemma mayStop_client {e : Stop} (hstop : (t .client).prog = .stop e) : MayStop .client (t .client).log e := by
  rcases trace_or_signal order k c s d ht hstop with htrace | rfl
  case inr => trivial
  have hbehaves := behaves_clientSession order k (typed "h3") (ipAddrText c) (ipAddrText s) (ipAddrText d) hreq
  have hstops := hbehaves.errorsOf.stops _ e htrace
  have hbuffers := reduceOption_receipts (t .client).log
  have hzero := zero_mem_buffer_client order k c s d hreq ht
  rw [clientErrors] at hstops
  dsimp only at hstops
  rw [received_foldl, show Progress.start.received = [] from rfl, List.nil_append] at hstops
  split at hstops
  · have hline : (typed "h3").stdin ≠ [] := by decide +kernel
    exact absurd hstops.1.1 hline
  · rename_i hreceipts
    rw [hstops]
    exact ⟨by decide, rfl, exists_recv_none (hreceipts ▸ List.mem_singleton_self none)⟩
  · rename_i b hreceipts
    rw [hreceipts] at hbuffers
    exact absurd (hzero b (hbuffers ▸ List.mem_singleton_self b)) hstops.1
  · exact hstops.elim

include hreq hresp in
lemma mayStop_server {e : Stop} (hstop : (t .server).prog = .stop e) : MayStop .server (t .server).log e := by
  rcases trace_or_signal order k c s d ht hstop with htrace | rfl
  case inr => trivial
  obtain ⟨-, hstops⟩ := (behaves_serverSession order k (ipAddrText s)).errorsOf.stops _ e htrace
  have hbuffers := reduceOption_receipts (t .server).log
  have hserver := buffers_server order k c s d hreq hresp ht
  rw [received_foldl, show Progress.start.received = [] from rfl, List.nil_append] at hstops
  split at hstops
  · rename_i hreceipts
    rw [hstops]
    exact ⟨by decide, rfl, not_mem_recv hreceipts⟩
  · rename_i a hreceipts
    rw [hreceipts] at hbuffers
    rcases hserver with hnone | ⟨a', ha, hone | ⟨b, hb, hboth⟩⟩
    · cases hbuffers.trans hnone
    · obtain rfl := List.singleton_inj.mp (hbuffers.trans hone)
      exact absurd ha hstops.1
    · cases hbuffers.trans hboth
  · rename_i a hreceipts
    rw [hstops]
    refine ⟨by decide, rfl, exists_recv_none (hreceipts ▸ ?_)⟩
    exact List.mem_cons_of_mem _ (List.mem_singleton_self none)
  · rename_i a b hreceipts
    rw [hreceipts] at hbuffers
    rcases hserver with hnone | ⟨a', ha, hone | ⟨b', hb, hboth⟩⟩
    · cases hbuffers.trans hnone
    · cases hbuffers.trans hone
    · obtain ⟨-, rfl⟩ := List.cons_eq_cons.mp (hbuffers.trans hboth) |>.imp id List.singleton_inj.mp
      exact absurd (List.mem_of_getElem? hb) hstops.1
  · exact hstops.elim

include hresp in
lemma mayStop_destination {e : Stop} (hstop : (t .destination).prog = .stop e) :
    MayStop .destination (t .destination).log e := by
  rcases trace_or_signal order k c s d ht hstop with htrace | rfl
  case inr => trivial
  have hstops := (behaves_destSession order (ipAddrText d) hresp).errorsOf.stops _ e htrace
  have hbuffers := reduceOption_receipts (t .destination).log
  have hzero := zero_mem_buffer_destination order k c s d hresp ht
  rw [destErrors] at hstops
  dsimp only at hstops
  rw [received_foldl, show Progress.start.received = [] from rfl, List.nil_append] at hstops
  split at hstops
  · rename_i hreceipts
    rw [hstops]
    exact ⟨by decide, rfl, not_mem_recv hreceipts⟩
  · rename_i b hreceipts
    rw [hreceipts] at hbuffers
    exact absurd (hzero b (hbuffers ▸ List.mem_singleton_self b)) hstops.1
  · exact hstops.elim

include hreq hresp in
lemma safe_exchange : Safe response t := by
  obtain ⟨client, hclient⟩ := (runOf_exchange order k c s d ht .client).exists_trace
  obtain ⟨server, hserver⟩ := (runOf_exchange order k c s d ht .server).exists_trace
  obtain ⟨destination, hdest⟩ := (runOf_exchange order k c s d ht .destination).exists_trace
  refine ⟨fun i e hstop => ?_,
    strayFaults_of_behaves (behaves_clientSession order k (typed "h3") _ _ _ hreq) (fun _ _ h => h) hclient,
    strayFaults_of_behaves (behaves_destSession order _ hresp) (fun _ _ h => h) hdest, ?_⟩
  · cases i with
    | client => exact mayStop_client order k c s d hreq ht hstop
    | server => exact mayStop_server order k c s d hreq hresp ht hstop
    | destination => exact mayStop_destination order k c s d hresp ht hstop
  rcases strayFaults_of_serverErrors (behaves_serverSession order k _) hserver with
    hnone | ⟨a, b, rest, hreceipts, hstore⟩
  · exact .inl hnone
  have hbuffers := reduceOption_receipts (t .server).log
  rw [hreceipts] at hbuffers
  have hbuffers : a :: b :: rest.reduceOption = (deeds (t .server).log).filterMap buffer := hbuffers
  rcases buffers_server order k c s d hreq hresp ht with hnone | ⟨a', -, hone | ⟨b', hb, hboth⟩⟩
  · cases hbuffers.trans hnone
  · cases hbuffers.trans hone
  · have hsame : b = b' := (List.cons_eq_cons.mp (List.cons_eq_cons.mp (hbuffers.trans hboth)).2).1
    refine .inr ⟨b, hbuffers ▸ List.mem_cons_of_mem _ List.mem_cons_self, ?_, hstore⟩
    rw [hsame]
    exact CString.length_textOf_le hb

end Network

include hreq hresp in
/-- Whatever fails on the network and however its streams are cut, every state is safe. As long as nothing fails no
program stops, and the server stores behind its ciphertext once. -/
theorem exchange_safe :
    (∀ t, Relation.ReflTransGen (vpnNetwork s d).Moves (exchange order k c s d request response) t →
      Safe response t) ∧
    ∀ t, Relation.ReflTransGen (calmNetwork s d).Moves (exchange order k c s d request response) t →
      (∀ i e, (t i).prog ≠ .stop e) ∧
      strayFaults (t .server).log <+: [.store (46 + response.length : Nat) (46 + response.length)] ∧
      ((∀ i, (t i).prog = .ret 0) →
        strayFaults (t .server).log = [.store (46 + response.length : Nat) (46 + response.length)]) := by
  refine ⟨fun t ht => safe_exchange order k c s d hreq hresp ht, fun t ht => ?_⟩
  obtain ⟨view, f, -, hlogs, hf⟩ := endsCalmly_exchange order k c s d hreq hresp
  have hreach := Topology.reaches_of_calm ht
  obtain ⟨rest, hrest⟩ := (hf.reaches.of_ended hf.ended hreach).log .server
  have hserver : (f .server).log = serverLog order k c s d hreq hresp := congrFun hlogs .server
  rw [hserver] at hrest
  have hstore := strayFaults_serverLog order k c s d hreq hresp
  refine ⟨fun i e => hf.reaches.not_stopped hf.ended hreach e, ?_, fun hret => ?_⟩
  · rw [← hstore, ← hrest, strayFaults_append]
    exact List.prefix_append _ _
  · obtain ⟨view', hret⟩ := logs_of_returned order k c s d hreq hresp ht hret
    rw [← hstore]
    exact congrArg strayFaults (congrFun hret .server)

end Exchange

/-- At the end of a run for three hosts the server has stored behind a ciphertext of 72 bytes. -/
theorem exchange_safe_hosts : ∃ t : Network Host (@SysReply Output) Int, (∀ i, (t i).prog = .ret 0) ∧
    Safe responseMsg t ∧ strayFaults (t .server).log = [.store (72 : Nat) 72] := by
  obtain ⟨view, f, hend, -, hf⟩ := endsCalmly_exchange .little key 0x0A000001 0x0A000002 0x0A000003
    (show clientPayload.length ≤ 127 by decide) (show responseMsg.length ≤ 122 by decide)
  obtain ⟨hsafe, hcalm⟩ := exchange_safe .little key 0x0A000001 0x0A000002 0x0A000003
    (show clientPayload.length ≤ 127 by decide) (show responseMsg.length ≤ 122 by decide)
  have hreach := hf.calm_iff_reaches.mpr hf.reaches
  exact ⟨f, hend, hsafe f (Topology.network_of_calm hreach),
    (hcalm f hreach).2.2 hend⟩

end SimpleVpn
