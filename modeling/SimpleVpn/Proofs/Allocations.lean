import SimpleVpn.Model.OnHeap
import SimpleVpn.Proofs.Sessions

/-!
# Allocations
-/

namespace SimpleVpn.OnHeap

open CLang HeapProg

variable (order : ByteOrder) (k : Key) (junk : Ptr → Nat → Buf)

lemma parseIpAddrToStr_of_length {b : Buf} (hb : b.length = 16) (v : UInt32) :
    parseIpAddrToStr b v =
      pure ((ipAddrText v).bytes ++ 0 :: b.drop ((ipAddrText v).bytes.length + 1)) := by
  have hlen : (ipAddrText v).bytes.length ≤ 15 := length_ipAddrText v
  have hfit : 0 + ((ipAddrText v).bytes ++ [0]).length ≤ b.length := by
    rw [List.length_append, List.length_singleton]
    omega
  rw [parseIpAddrToStr, storeRange_of_le hfit, overwrite, List.take_zero, List.nil_append, Nat.zero_add,
    List.length_append, List.length_singleton, List.append_assoc, List.singleton_append]

lemma cstringAt_text (v : UInt32) (c : List UInt8) :
    cstringAt ((ipAddrText v).bytes ++ 0 :: c) 0 = pure (ipAddrText v) :=
  cstringAt_append [] (ipAddrText v) c rfl

variable {junk} (hjunk : ∀ i n, (junk i n).length = n)
include hjunk

lemma printIpHeader_apply {packet : Ptr} {b : Buf} {h : Heap} (hp : h[packet]? = some (some b)) (i : Nat) :
    printIpHeader order junk packet i h = Prog.ofMem (loadIpHdr order b i) >>= fun ip =>
      pure (some ((ip, ipAddrText ip.ipSrc, ipAddrText ip.ipDst), h ++ [none, none])) := by
  rw [printIpHeader, contents_bind hp, liftM_mem, lift_bind]
  refine bind_congr fun ip => ?_
  rw [malloc_bind, malloc_extended, update_extended h rfl, parseIpAddrToStr_of_length (hjunk _ _),
    Prog.ofMem_pure, pure_bind, update_extended h rfl, parseIpAddrToStr_of_length (hjunk _ _),
    Prog.ofMem_pure, pure_bind, contents_extended h rfl, cstringAt_text, liftM_mem, Prog.ofMem_pure,
    lift_bind, pure_bind, contents_extended h rfl, cstringAt_text, liftM_mem, Prog.ofMem_pure, lift_bind,
    pure_bind, free_extended h rfl, free_extended h rfl]
  rfl

/-- What both print functions do from the IP header on. -/
lemma printed_apply (gre : Option GreHdr) {packet : Ptr} {b : Buf} {h : Heap}
    (hp : h[packet]? = some (some b)) (i : Nat) :
    (do
      let (ip, src, dst) ← printIpHeader order junk packet i
      let tcp ← loadTcpHdr order (← contents packet) (i + sizeofIpHdr)
      let payload ← cstringAt (← contents packet) (i + sizeofIpHdr + sizeofTcpHdr)
      (Sock.print (.packet ⟨gre, ip, src, dst, tcp, payload⟩) : VpnProg Unit) : HeapVpn Unit) h =
    Prog.ofMem (printHeaders order gre b i) >>= fun view =>
      Sock.print (.packet view) >>= fun _ => pure (some ((), h ++ [none, none])) := by
  have hp' : (h ++ [none, none])[packet]? = some (some b) := by
    rw [List.getElem?_append_left (List.getElem?_eq_some_iff.mp hp).1, hp]
  rw [bind_of_eq (printIpHeader_apply order hjunk hp i), printHeaders, Prog.ofMem_bind, bind_assoc]
  refine bind_congr fun ip => ?_
  dsimp only
  rw [printIpAddr_eq, printIpAddr_eq, pure_bind, pure_bind, contents_bind hp', liftM_mem, lift_bind,
    Prog.ofMem_bind, bind_assoc]
  refine bind_congr fun tcp => ?_
  rw [contents_bind hp', liftM_mem, lift_bind, Prog.ofMem_bind, bind_assoc]
  rfl

/-- Printing reads the packet and frees the two texts. -/
lemma showPacket_apply {packet : Ptr} {b : Buf} {h : Heap} (hp : h[packet]? = some (some b)) :
    showPacket order junk packet h =
      SimpleVpn.showPacket order b >>= fun _ => pure (some ((), h ++ [none, none])) := by
  rw [showPacket, contents_bind hp, liftM_mem, lift_bind, SimpleVpn.showPacket, printPacket,
    Prog.liftM_eq_ofMem, Prog.ofMem_bind, bind_assoc, bind_assoc]
  refine bind_congr fun gre => ?_
  exact printed_apply order hjunk (some gre) hp (getIpHdr 0)

lemma showPacketUnencap_apply {packet : Ptr} {b : Buf} {h : Heap} (hp : h[packet]? = some (some b))
    (i : Nat) :
    showPacketUnencap order junk packet i h =
      SimpleVpn.showPacketUnencap order b i >>= fun _ => pure (some ((), h ++ [none, none])) := by
  rw [SimpleVpn.showPacketUnencap, printPacketUnencap, Prog.liftM_eq_ofMem, bind_assoc]
  exact printed_apply order hjunk none hp i

omit hjunk

section Builders

variable (ipSrc ipDest : CString) (ipProtocol : UInt8) (payload : CString) (flags : UInt8) (h : Heap)

lemma fillPacket_apply (t : List (Option Buf)) :
    fillPacket order (h.length + 0) ipSrc ipDest ipProtocol payload flags
        (h ++ some (CLang.calloc (getPacketSize ipProtocol (UInt8.ofNat maxPayloadSize)).toNat) :: t) =
      Prog.ofMem (newPacket order ipSrc ipDest ipProtocol payload flags) >>= fun r =>
        pure (some (r.2, h ++ some r.1 :: t)) := by
  rw [fillPacket, update_extended h rfl, newPacket, Prog.ofMem_bind, bind_assoc]
  refine bind_congr fun packet => ?_
  rw [update_extended h rfl, Prog.ofMem_bind, bind_assoc, Prog.ofMem_bind, bind_assoc]
  refine bind_congr fun newIp => ?_
  rw [Prog.ofMem_bind, bind_assoc]
  refine bind_congr fun packet => ?_
  rw [update_extended h rfl, Prog.ofMem_bind, bind_assoc, Prog.ofMem_bind, bind_assoc]
  refine bind_congr fun newTcp => ?_
  rw [Prog.ofMem_bind, bind_assoc]
  refine bind_congr fun packet => ?_
  rw [update_extended h rfl, Prog.ofMem_bind, bind_assoc]
  refine bind_congr fun packet => ?_
  rw [update_extended h rfl, Prog.ofMem_bind, bind_assoc]
  refine bind_congr fun packet => ?_
  simp only [pure_apply, Prog.ofMem_pure, pure_bind, List.set_cons_zero]

lemma createPackets_apply :
    createPackets order k ipSrc ipDest ipProtocol payload flags h =
      Prog.ofMem (SimpleVpn.createPackets order k ipSrc ipDest ipProtocol payload flags) >>= fun b =>
        pure (some (h.length + 1, h ++ [none, some b])) := by
  rw [createPackets, calloc_bind, calloc_extended, List.singleton_append, List.length_singleton,
    bind_of_eq (fillPacket_apply order ipSrc ipDest ipProtocol payload flags h _),
    SimpleVpn.createPackets, Prog.ofMem_bind, bind_assoc]
  refine bind_congr fun r => ?_
  rw [contents_extended h rfl, update_extended h rfl, Prog.ofMem_bind, bind_assoc]
  refine bind_congr fun encryptPacket => ?_
  rw [update_extended h rfl]
  refine bind_congr fun encryptPacket => ?_
  rw [free_extended h rfl]
  rfl

lemma createPacketsDes_apply :
    createPacketsDes order ipSrc ipDest ipProtocol payload flags h =
      Prog.ofMem (SimpleVpn.createPacketsDes order ipSrc ipDest ipProtocol payload flags) >>= fun b =>
        pure (some (h.length + 0, h ++ [some b])) := by
  rw [createPacketsDes, calloc_bind, bind_of_eq (fillPacket_apply order ipSrc ipDest ipProtocol payload
    flags h []), SimpleVpn.createPacketsDes, Prog.ofMem_bind, bind_assoc]
  rfl

end Builders

end SimpleVpn.OnHeap
