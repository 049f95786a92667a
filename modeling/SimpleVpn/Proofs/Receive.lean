import SimpleVpn.Model.Programs
import SimpleVpn.Proofs.Cipher
import SimpleVpn.Proofs.Headers

/-!
# Receiving from the tunnel

What `serv_rec_from_cli` makes of the bytes that it receives, and which of its results the
two print functions can read.
-/

namespace SimpleVpn

open CLang

lemma received_eq {n : Nat} (bytes : Received n) :
    received n bytes = bytes.val ++ calloc (n - bytes.val.length) := by
  have h := bytes.property
  simp [received, overwrite, calloc]

@[simp] lemma length_received {n : Nat} (bytes : Received n) : (received n bytes).length = n := by
  have h := bytes.property
  rw [received_eq, List.length_append, length_calloc]
  omega

/-- The part of `serv_rec_from_cli` after the bytes have been received. -/
def recover (k : Key) (newRecPkt : Buf) : Mem Buf := do
  let len := toInt (← strlen newRecPkt (getPayload 0))
  let decryptPacket ← xorEncryptDecrypt k newRecPkt (calloc pktSize) pktSize
  let len := if len > maxPayloadSize - 1 then (maxPayloadSize - 1 : Int) else len
  store decryptPacket (getPayload 0 + len) 0

lemma servRecFromCli_eq (k : Key) (sockfd : Fd) :
    servRecFromCli k sockfd = .call (.recv sockfd pktSize) fun r => match r with
      | none => .ret none
      | some bytes => some <$> Prog.ofMem (recover k (received pktSize bytes)) := by
  unfold servRecFromCli Sock.recv
  rw [Prog.call_bind]
  congr 1
  funext r
  rw [Prog.ret_bind]
  cases r with
  | none => rfl
  | some bytes =>
    simp only [recover, Prog.ofMem_bind, Prog.monadLift_eq_ofMem, ← bind_pure_comp, bind_assoc]

lemma servRecFromDes_eq (sockfd : Fd) :
    servRecFromDes sockfd = Sock.recv sockfd pktSize >>= fun r => pure (r.map (received pktSize)) :=
  bind_congr fun r => by cases r <;> rfl

lemma destRecPkt_eq (sockfd : Fd) :
    destRecPkt sockfd = Sock.recv sockfd destPktSize >>= fun r => pure (r.map (received destPktSize)) :=
  bind_congr fun r => by cases r <;> rfl

def textLength (packet : Buf) : Nat := (CString.textOf (packet.drop 46)).length

lemma textLength_lt {packet : Buf} (h : 0 ∈ packet.drop 46) :
    textLength packet < packet.length - 46 := by
  rw [← List.length_drop]
  exact CString.length_textOf_lt h

lemma strlen_of_mem {packet : Buf} (h : 0 ∈ packet.drop 46) :
    strlen packet 46 = pure (textLength packet) := by
  rw [strlen, cstringAt_of_mem h, map_pure]
  rfl

/-- The decrypted packet, cut where the ciphertext payload has its first NUL. -/
def decrypted (k : Key) (packet : Buf) : Buf :=
  (xorFrom k 0 packet).set (46 + textLength packet) 0

@[simp] lemma length_decrypted (k : Key) (packet : Buf) :
    (decrypted k packet).length = packet.length := by
  rw [decrypted, List.length_set, length_xorFrom]

theorem recover_of_mem (k : Key) {packet : Buf} (hlen : packet.length = pktSize)
    (h : 0 ∈ packet.drop 46) : recover k packet = pure (decrypted k packet) := by
  have hlen' : packet.length = 174 := hlen
  have ht := textLength_lt h
  have hindex : ((getPayload 0 : Nat) : Int) + (textLength packet : Nat) =
      ((46 + textLength packet : Nat) : Int) := rfl
  have hclamp : (if toInt (textLength packet) > maxPayloadSize - 1 then (maxPayloadSize - 1 : Int)
      else toInt (textLength packet)) = (textLength packet : Nat) := by
    rw [toInt_of_lt (by omega), maxPayloadSize, if_neg (by omega)]
  unfold recover
  rw [show getPayload 0 = 46 from rfl, strlen_of_mem h, pure_bind,
    xorEncryptDecrypt_eq k _ _ hlen.ge, pure_bind, List.take_of_length_le hlen.le]
  dsimp only
  rw [hclamp]
  exact store_of_lt (by rw [length_xorFrom]; omega) 0

/-- Without a NUL in the ciphertext payload the scan leaves the buffer. -/
theorem recover_of_not_mem (k : Key) {packet : Buf} (hlen : packet.length = pktSize)
    (h : 0 ∉ packet.drop 46) : recover k packet = .fault (.load 174 174) := by
  have hlen' : packet.length = 174 := hlen
  rw [recover, strlen, show getPayload 0 = 46 from rfl, cstringAt_of_not_mem h, hlen']
  rfl

lemma receives_servRecFromCli (k : Key) (sockfd : Fd) (incoming : List (List UInt8)) :
    receives (servRecFromCli k sockfd) incoming =
      some <$> recover k (received pktSize (World.next incoming pktSize)) := by
  rw [receives, servRecFromCli_eq, Prog.run_call]
  change Prod.fst <$> Prog.run streamOs (some <$> Prog.ofMem _) _ = _
  rw [← bind_pure_comp (m := Prog _), Prog.run_ofMem_bind, map_bind, ← bind_pure_comp]
  rfl

lemma next_singleton {n : Nat} (bytes : Received n) : World.next [bytes.val] n = bytes := by
  apply Subtype.ext
  exact List.take_of_length_le bytes.property

lemma received_of_length {n : Nat} {bytes : List UInt8} (h : bytes.length = n) :
    received n ⟨bytes, h.le⟩ = bytes := by
  rw [received_eq]
  simp [h, calloc]

section Printing

variable (order : ByteOrder)

/-- The bytes that the server sends to the destination for a decrypted packet. -/
def forwarded (packet : Buf) (serverIp : CString) : Mem (List UInt8) := do
  let (packet, fixedPkt) ← servHandlePkt order packet serverIp
  loadRange packet fixedPkt (maxPayloadSize + sizeofTcpHdr + sizeofIpHdr)

def destShow (sockfd : Fd) : VpnProg Unit := do
  match ← destRecPkt sockfd with
  | none => return ()
  | some recPacket => showPacketUnencap order recPacket 0

theorem forwarded_bytes (p : Packet) (serverIp : CString) :
    forwarded order p.bytes serverIp = pure (p.relayed order serverIp).inner := by
  rw [forwarded, servHandlePkt_bytes, pure_bind]
  exact loadRange_inner _

lemma receives_destShow_eq (bytes : List UInt8) (sockfd : Fd) :
    receives (destShow order sockfd) [bytes] =
      Prod.fst <$> (showPacketUnencap order
        (received destPktSize (World.next [bytes] destPktSize)) 0).run streamOs
        { (World.start []).log (.recv sockfd destPktSize) with
          incoming := World.rest [bytes] destPktSize } := rfl

lemma safe_destShow (p : Packet) (sockfd : Fd) (h : 0 ∈ p.field) :
    (receives (destShow order sockfd) [p.inner]).Safe := by
  have hrec : received destPktSize (World.next [p.inner] destPktSize) = p.inner := by
    rw [next_singleton ⟨p.inner, p.length_inner.le⟩]
    exact received_of_length p.length_inner
  rw [receives_destShow_eq, hrec, showPacketUnencap, Prog.liftM_eq_ofMem,
    printPacketUnencap_inner order p h, Prog.ofMem_pure, pure_bind]
  exact Mem.safe_pure _

/-- The server receives `bytes` from the tunnel with every access inside its buffers, and the
packet that it gets has a terminated payload: the server's print and the destination's print
of the forwarded bytes stay inside the packet. -/
def ReceiveSafe (k : Key) (sockfd : Fd) (serverIp : CString) (bytes : Received pktSize) : Prop :=
  ∃ packet, receives (servRecFromCli k sockfd) [bytes.val] = pure (some packet) ∧
    packet.length = pktSize ∧ 0 ∈ packet.drop (getPayload 0) ∧
    (printPacket order packet).Safe ∧
    ∃ sent, forwarded order packet serverIp = pure sent ∧
      (receives (destShow order sockfd) [sent]).Safe

lemma zero_mem_decrypted (k : Key) {packet : Buf} (h : 0 ∈ packet.drop 46) :
    0 ∈ (decrypted k packet).drop 46 := by
  have ht := textLength_lt h
  have hlt : textLength packet < ((xorFrom k 0 packet).drop 46).length := by
    rw [List.length_drop, length_xorFrom]
    exact ht
  rw [decrypted, List.drop_set, if_neg (by omega), Nat.add_sub_cancel_left]
  exact List.mem_set hlt 0

lemma zero_mem_received (bytes : Received pktSize) :
    0 ∈ (received pktSize bytes).drop 46 ↔ bytes.val.length < 174 ∨ 0 ∈ bytes.val.drop 46 := by
  have hle : bytes.val.length ≤ 174 := bytes.property
  have hpad : pktSize - bytes.val.length = 174 - bytes.val.length := rfl
  rw [received_eq, List.drop_append, List.mem_append, hpad, calloc, List.drop_replicate,
    List.mem_replicate]
  constructor
  · rintro (hmem | ⟨hne, -⟩)
    · exact .inr hmem
    · exact .inl (by omega)
  · rintro (hlt | hmem)
    · exact .inr ⟨by omega, rfl⟩
    · exact .inl hmem

/-- A transmission with a NUL in its ciphertext payload field is recovered as a packet whose
payload is terminated. -/
lemma exists_recovered (k : Key) {packet : Buf} (hlen : packet.length = pktSize)
    (h : 0 ∈ packet.drop 46) :
    ∃ p : Packet, p.bytes = decrypted k packet ∧ recover k packet = pure p.bytes ∧ 0 ∈ p.field := by
  obtain ⟨p, hp⟩ := Packet.exists_bytes ((length_decrypted k _).trans hlen)
  refine ⟨p, hp, ?_, ?_⟩
  · rw [hp]
    exact recover_of_mem k hlen h
  · rw [← p.drop_bytes, hp]
    exact zero_mem_decrypted k h

/-- Receiving is safe exactly when the ciphertext payload field holds a NUL, because the
bytes do not fill the buffer or because one of them is a NUL. -/
theorem receiveSafe_iff (k : Key) (sockfd : Fd) (serverIp : CString) (bytes : Received pktSize) :
    ReceiveSafe order k sockfd serverIp bytes ↔
      bytes.val.length < 174 ∨ 0 ∈ bytes.val.drop 46 := by
  have hlen := length_received bytes
  rw [← zero_mem_received]
  unfold ReceiveSafe
  rw [receives_servRecFromCli, next_singleton]
  constructor
  · rintro ⟨packet, hpacket, -⟩
    by_contra hnul
    rw [recover_of_not_mem k hlen hnul, Mem.fault_map] at hpacket
    exact Mem.fault_ne_pure _ _ hpacket
  · intro hnul
    obtain ⟨p, -, hp, hfield⟩ := exists_recovered k hlen hnul
    have hdrop : 0 ∈ p.bytes.drop (getPayload 0) := by
      rw [p.drop_bytes]
      exact hfield
    rw [hp, map_pure]
    refine ⟨_, rfl, p.length_bytes, hdrop, ?_⟩
    rw [printPacket_bytes order p hfield, forwarded_bytes]
    exact ⟨Mem.safe_pure _, _, rfl, safe_destShow order _ sockfd hfield⟩

def unterminated : Received pktSize := ⟨List.replicate pktSize 0x41, List.length_replicate.le⟩

theorem not_receiveSafe_unterminated :
    receives (servRecFromCli key 4) [unterminated.val] = .fault (.load 174 174) ∧
    ¬ ReceiveSafe .little key 4 (.lit "10.0.0.2") unterminated := by
  have h : receives (servRecFromCli key 4) [unterminated.val] = .fault (.load 174 174) := by
    decide +kernel
  refine ⟨h, ?_⟩
  rintro ⟨packet, hpacket, -⟩
  rw [h] at hpacket
  exact Mem.fault_ne_pure _ _ hpacket

end Printing

end SimpleVpn
