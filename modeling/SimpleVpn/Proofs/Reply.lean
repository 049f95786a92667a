import SimpleVpn.Proofs.Sessions

/-!
# The server's reply

What the server does with the bytes that it receives from the destination, byte by byte up to
the size of its buffers. Every run leaves a buffer: either the payload has a NUL and the
terminator is written one byte behind the ciphertext, or the scan for the NUL leaves the packet.
-/

namespace SimpleVpn

open CLang

variable (order : ByteOrder) (k : Key) (newSocket clientFd : Fd) (clientIp : UInt32)

/-- The server answers the client with every access inside its buffers. -/
def ReplySafe (bytes : Received pktSize) : Prop :=
  (receives (serverReply order k newSocket clientFd clientIp) [bytes.val]).Safe

/-- The 128 bytes that the server takes for the payload field of the reply. -/
def replyField (bytes : Received pktSize) : List UInt8 := ((received pktSize bytes).drop 40).take 128

lemma length_wrapped (bytes : Received pktSize) : (wrapped order (received pktSize bytes)).length = pktSize := by
  have hlen : (received pktSize bytes).length = 174 := length_received bytes
  rw [wrapped, List.length_append, GreHdr.length_toBytes, List.length_take_of_le (by omega)]
  rfl

lemma exists_wrapped (bytes : Received pktSize) : ∃ p : Packet,
    p.bytes = wrapped order (received pktSize bytes) ∧ p.field = replyField bytes := by
  obtain ⟨p, hp⟩ := Packet.exists_bytes (length_wrapped order bytes)
  refine ⟨p, hp, ?_⟩
  rw [← p.drop_bytes, hp, wrapped, List.drop_append, GreHdr.length_toBytes,
    List.drop_of_length_le (by rw [GreHdr.length_toBytes]; decide), List.nil_append]
  exact List.drop_take

/-- A terminated reply is sent, after a store one byte behind its ciphertext. -/
lemma receives_serverReply_of_mem {bytes : Received pktSize} (h : 0 ∈ replyField bytes) :
    receives (serverReply order k newSocket clientFd clientIp) [bytes.val] =
      ⟨[.store (46 + (CString.textOf (replyField bytes)).length : Nat)
        (46 + (CString.textOf (replyField bytes)).length)], .value 0⟩ := by
  obtain ⟨p, hp, hfield⟩ := exists_wrapped order bytes
  rw [← hfield] at h
  have ht := trace_serverReply order k newSocket clientFd clientIp hp h
  rw [receives_of_trace ht ⟨congrArg some (next_singleton bytes), rfl, rfl, rfl⟩, ← hfield]
  rfl

/-- A reply without a NUL is not sent: the print leaves the packet. -/
lemma receives_serverReply_of_not_mem {bytes : Received pktSize} (h : 0 ∉ replyField bytes) :
    receives (serverReply order k newSocket clientFd clientIp) [bytes.val] =
      .fault (.load 174 174) := by
  obtain ⟨p, hp, hfield⟩ := exists_wrapped order bytes
  rw [← hfield] at h
  have ht := trace_serverReply_head order k newSocket clientFd clientIp hp
  rw [showPacket, printPacket_bytes_of_not_mem order (p.returned order (ipAddrText clientIp)) h] at ht
  rw [receives_of_trace ht ⟨congrArg some (next_singleton bytes), rfl⟩]
  rfl

/-- Whatever the destination sends, the reply path leaves its buffers. -/
theorem not_replySafe (bytes : Received pktSize) :
    ¬ ReplySafe order k newSocket clientFd clientIp bytes := by
  unfold ReplySafe
  by_cases h : 0 ∈ replyField bytes
  · rw [receives_serverReply_of_mem order k newSocket clientFd clientIp h]
    rintro ⟨hstray, -⟩
    exact absurd hstray (List.cons_ne_nil _ _)
  · rw [receives_serverReply_of_not_mem order k newSocket clientFd clientIp h]
    exact Mem.not_safe_fault _

/-- The bytes that the destination `h3` sends to the server `h2`. -/
def destinationBytes : Received pktSize :=
  ⟨((plainPacket .little (.lit "10.0.0.3") (.lit "10.0.0.2") ipProtocolTcp responseMsg
    tcpFlagAck).drop 6).take 72, (List.length_take_le _ _).trans (by decide)⟩

/-- The terminator of the reply of 26 bytes is written at index 72 of a buffer of 72 bytes. -/
theorem not_replySafe_responseMsg :
    receives (serverReply .little key 4 5 0x0A000001) [destinationBytes.val] =
      ⟨[.store 72 72], .value 0⟩ ∧
    ¬ ReplySafe .little key 4 5 0x0A000001 destinationBytes := by
  have h : receives (serverReply .little key 4 5 0x0A000001) [destinationBytes.val] =
      ⟨[.store 72 72], .value 0⟩ := by
    have hnul : 0 ∈ replyField destinationBytes := by decide +kernel
    have htext : (CString.textOf (replyField destinationBytes)).length = 26 := by decide +kernel
    rw [receives_serverReply_of_mem .little key 4 5 0x0A000001 hnul, htext]
    rfl
  refine ⟨h, ?_⟩
  rintro ⟨hstray, -⟩
  rw [h] at hstray
  cases hstray

end SimpleVpn
