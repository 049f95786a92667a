import SimpleVpn.Model.Packet
import SimpleVpn.Proofs.Address

/-!
# Headers inside a packet

A packet is split into the bytes before a header, the header and the bytes after it. Loading,
storing, printing and rewriting a header are described on such a split.
-/

namespace SimpleVpn

open CLang

section Parts

variable (order : ByteOrder) {a b : List UInt8} (c : List UInt8) {i : Nat}

lemma loadGreHdr_append (hi : i = a.length) (hb : b.length = sizeofGreHdr) :
    loadGreHdr order (a ++ b ++ c) i = pure (GreHdr.ofBytes order b) := by
  rw [loadGreHdr, hi, ← hb, loadRange_append, map_pure]

lemma storeGreHdr_append (h : GreHdr) (hi : i = a.length) (hb : b.length = sizeofGreHdr) :
    storeGreHdr order (a ++ b ++ c) i h = pure (a ++ h.toBytes order ++ c) := by
  rw [storeGreHdr, hi, storeRange_append a c (by rw [GreHdr.length_toBytes, hb])]

lemma loadIpHdr_append (hi : i = a.length) (hb : b.length = sizeofIpHdr) :
    loadIpHdr order (a ++ b ++ c) i = pure (IpHdr.ofBytes order b) := by
  rw [loadIpHdr, hi, ← hb, loadRange_append, map_pure]

lemma storeIpHdr_append (h : IpHdr) (hi : i = a.length) (hb : b.length = sizeofIpHdr) :
    storeIpHdr order (a ++ b ++ c) i h = pure (a ++ h.toBytes order ++ c) := by
  rw [storeIpHdr, hi, storeRange_append a c (by rw [IpHdr.length_toBytes, hb])]

lemma loadTcpHdr_append (hi : i = a.length) (hb : b.length = sizeofTcpHdr) :
    loadTcpHdr order (a ++ b ++ c) i = pure (TcpHdr.ofBytes order b) := by
  rw [loadTcpHdr, hi, ← hb, loadRange_append, map_pure]

lemma storeTcpHdr_append (h : TcpHdr) (hi : i = a.length) (hb : b.length = sizeofTcpHdr) :
    storeTcpHdr order (a ++ b ++ c) i h = pure (a ++ h.toBytes order ++ c) := by
  rw [storeTcpHdr, hi, storeRange_append a c (by rw [TcpHdr.length_toBytes, hb])]

end Parts

section Rewriting

variable (order : ByteOrder)

/-- The header in the byte order in which the rewriting functions checksum it. -/
def swapped (h : IpHdr) : IpHdr :=
  { h with
    ipLen := ntohs order h.ipLen
    ipSum := 0
    ipSrc := ntohl order h.ipSrc
    ipDst := ntohl order h.ipDst }

/-- The header with the checksum that the rewriting functions compute. -/
def resum (h : IpHdr) : IpHdr :=
  { h with ipSum := htons order (cksum order ((swapped order h).toBytes order)) }

variable {a b : List UInt8} (c : List UInt8) (serverIp : CString)

theorem servHandlePkt_append (ha : a.length = sizeofGreHdr) (hb : b.length = sizeofIpHdr) :
    servHandlePkt order (a ++ b ++ c) serverIp =
      pure (a ++ (resum order { IpHdr.ofBytes order b with ipSrc := parseIpAddr serverIp }).toBytes
        order ++ c, sizeofGreHdr) := by
  have hi : getIpHdr 0 = a.length := by rw [ha, getIpHdr, Nat.zero_add]
  unfold servHandlePkt
  rw [loadIpHdr_append order c hi hb, pure_bind]
  simp only [htonl_ntohl, htons_ntohs]
  rw [storeIpHdr_append order c _ hi hb, pure_bind, packetDecapsulate, Nat.zero_add]
  rfl

theorem servHandlePktDest_append (ha : a.length = sizeofGreHdr) (hb : b.length = sizeofIpHdr) :
    servHandlePktDest order (a ++ b ++ c) serverIp =
      pure (a ++ (resum order { IpHdr.ofBytes order b with ipDst := parseIpAddr serverIp }).toBytes
        order ++ c, sizeofGreHdr) := by
  have hi : getIpHdr 0 = a.length := by rw [ha, getIpHdr, Nat.zero_add]
  unfold servHandlePktDest
  rw [loadIpHdr_append order c hi hb, pure_bind]
  simp only [htonl_ntohl, htons_ntohs]
  rw [storeIpHdr_append order c _ hi hb, pure_bind, packetDecapsulate, Nat.zero_add]
  rfl

end Rewriting

def AgreeOutside (hidden : List Nat) (b b' : Buf) : Prop := ∀ i : Nat, i ∉ hidden → b[i]? = b'[i]?

lemma AgreeOutside.drop {hidden : List Nat} {b b' : Buf} (h : AgreeOutside hidden b b') {n : Nat}
    (hn : ∀ i ∈ hidden, i < n) : b.drop n = b'.drop n := by
  apply List.ext_getElem?
  intro i
  rw [List.getElem?_drop, List.getElem?_drop]
  apply h (n + i)
  intro hmem
  exact absurd (hn _ hmem) (by omega)

/-- A packet of the size that the programs exchange. -/
structure Packet where
  gre : List UInt8
  ip : List UInt8
  tcp : List UInt8
  field : List UInt8
  length_gre : gre.length = sizeofGreHdr
  length_ip : ip.length = sizeofIpHdr
  length_tcp : tcp.length = sizeofTcpHdr
  length_field : field.length = maxPayloadSize

namespace Packet

/-- The packet without its GRE header, which the destination receives. -/
def inner (p : Packet) : Buf := p.ip ++ (p.tcp ++ p.field)

def bytes (p : Packet) : Buf := p.gre ++ p.inner

lemma length_inner (p : Packet) : p.inner.length = destPktSize := by
  rw [inner, List.length_append, List.length_append, p.length_ip, p.length_tcp, p.length_field]
  rfl

lemma length_bytes (p : Packet) : p.bytes.length = pktSize := by
  rw [bytes, List.length_append, p.length_gre, p.length_inner]
  rfl

/-- The four parts of a buffer. -/
def ofBytes (b : Buf) (h : b.length = pktSize) : Packet where
  gre := b.take 6
  ip := (b.drop 6).take 20
  tcp := (b.drop 26).take 20
  field := b.drop 46
  length_gre := by
    have hlen : b.length = 174 := h
    rw [List.length_take_of_le (by omega)]
    rfl
  length_ip := by
    have hlen : b.length = 174 := h
    rw [List.length_take_of_le (by rw [List.length_drop]; omega)]
    rfl
  length_tcp := by
    have hlen : b.length = 174 := h
    rw [List.length_take_of_le (by rw [List.length_drop]; omega)]
    rfl
  length_field := by
    rw [List.length_drop, h]
    rfl

lemma bytes_ofBytes {b : Buf} (h : b.length = pktSize) : (ofBytes b h).bytes = b := by
  have htcp : (b.drop 26).take 20 ++ b.drop 46 = b.drop 26 := by
    rw [show b.drop 46 = (b.drop 26).drop 20 by rw [List.drop_drop], List.take_append_drop]
  have hip : (b.drop 6).take 20 ++ b.drop 26 = b.drop 6 := by
    rw [show b.drop 26 = (b.drop 6).drop 20 by rw [List.drop_drop], List.take_append_drop]
  change b.take 6 ++ ((b.drop 6).take 20 ++ ((b.drop 26).take 20 ++ b.drop 46)) = b
  rw [htcp, hip, List.take_append_drop]

lemma exists_bytes {b : Buf} (h : b.length = pktSize) : ∃ p : Packet, p.bytes = b := ⟨ofBytes b h, bytes_ofBytes h⟩

/-- A packet without its GRE header, for which zeros stand. -/
def ofInner (b : Buf) (h : b.length = destPktSize) : Packet :=
  ofBytes (calloc sizeofGreHdr ++ b) (by rw [List.length_append, length_calloc, h]; rfl)

lemma inner_ofInner {b : Buf} (h : b.length = destPktSize) : (ofInner b h).inner = b := by
  have hbytes : (ofInner b h).bytes = calloc sizeofGreHdr ++ b := bytes_ofBytes _
  exact (List.append_inj hbytes ((ofInner b h).length_gre.trans (length_calloc _).symm)).2

lemma length_headers (p : Packet) : (p.gre ++ (p.ip ++ p.tcp)).length = 46 := by
  rw [List.length_append, List.length_append, p.length_gre, p.length_ip, p.length_tcp]
  rfl

lemma bytes_eq (p : Packet) : p.bytes = p.gre ++ (p.ip ++ p.tcp) ++ p.field := by
  simp only [bytes, inner, List.append_assoc]

lemma take_bytes (p : Packet) : p.bytes.take 46 = p.gre ++ (p.ip ++ p.tcp) := by
  rw [bytes_eq, List.take_left' p.length_headers]

lemma drop_bytes (p : Packet) : p.bytes.drop (getPayload 0) = p.field := by
  rw [bytes_eq]
  exact List.drop_left' p.length_headers

lemma drop_inner (p : Packet) : p.inner.drop (sizeofIpHdr + sizeofTcpHdr) = p.field := by
  have hhead : (p.ip ++ p.tcp).length = sizeofIpHdr + sizeofTcpHdr := by
    rw [List.length_append, p.length_ip, p.length_tcp]
  rw [inner, ← List.append_assoc, List.drop_left' hhead]

variable (order : ByteOrder)

def ipHdr (p : Packet) : IpHdr := IpHdr.ofBytes order p.ip

def withIp (p : Packet) (h : IpHdr) : Packet :=
  { p with ip := h.toBytes order, length_ip := h.length_toBytes order }

@[simp] lemma ipHdr_withIp (p : Packet) (h : IpHdr) : (p.withIp order h).ipHdr order = h :=
  IpHdr.ofBytes_toBytes order h

/-- The packet that the server forwards to the destination. -/
def relayed (p : Packet) (serverIp : CString) : Packet :=
  p.withIp order (resum order { p.ipHdr order with ipSrc := parseIpAddr serverIp })

lemma ipSrc_relayed (p : Packet) (serverIp : CString) :
    ((p.relayed order serverIp).ipHdr order).ipSrc = parseIpAddr serverIp := by
  rw [relayed, ipHdr_withIp]
  rfl

lemma ipDst_relayed (p : Packet) (serverIp : CString) :
    ((p.relayed order serverIp).ipHdr order).ipDst = (p.ipHdr order).ipDst := by
  rw [relayed, ipHdr_withIp]
  rfl

/-- The packet that the server returns to the client. -/
def returned (p : Packet) (clientIp : CString) : Packet :=
  p.withIp order (resum order { p.ipHdr order with ipDst := parseIpAddr clientIp })

lemma ipSrc_returned (p : Packet) (clientIp : CString) :
    ((p.returned order clientIp).ipHdr order).ipSrc = (p.ipHdr order).ipSrc := by
  rw [returned, ipHdr_withIp]
  rfl

lemma ipDst_returned (p : Packet) (clientIp : CString) :
    ((p.returned order clientIp).ipHdr order).ipDst = parseIpAddr clientIp := by
  rw [returned, ipHdr_withIp]
  rfl

def withField (p : Packet) (field : List UInt8) (h : field.length = 128) : Packet :=
  { p with field := field, length_field := h }

lemma bytes_withField (p : Packet) (field : List UInt8) (h : field.length = 128) :
    (p.withField field h).bytes = p.bytes.take 46 ++ field := by
  rw [bytes_eq, take_bytes]
  rfl

end Packet

variable (order : ByteOrder) (p : Packet) (serverIp : CString)

/-- The server's rewriting of the source changes the IP header only. -/
theorem servHandlePkt_bytes : servHandlePkt order p.bytes serverIp =
    pure ((p.relayed order serverIp).bytes, sizeofGreHdr) := by
  rw [Packet.bytes, Packet.inner, ← List.append_assoc,
    servHandlePkt_append order (p.tcp ++ p.field) serverIp p.length_gre p.length_ip,
    List.append_assoc]
  rfl

theorem servHandlePktDest_bytes : servHandlePktDest order p.bytes serverIp =
    pure ((p.returned order serverIp).bytes, sizeofGreHdr) := by
  rw [Packet.bytes, Packet.inner, ← List.append_assoc,
    servHandlePktDest_append order (p.tcp ++ p.field) serverIp p.length_gre p.length_ip,
    List.append_assoc]
  rfl

lemma loadIpHdr_bytes : loadIpHdr order p.bytes sizeofGreHdr = pure (p.ipHdr order) := by
  rw [Packet.bytes, Packet.inner, ← List.append_assoc]
  exact loadIpHdr_append order _ p.length_gre.symm p.length_ip

lemma loadIpHdr_inner : loadIpHdr order p.inner 0 = pure (p.ipHdr order) := by
  have h := loadIpHdr_append order (a := []) (p.tcp ++ p.field) (i := 0) rfl p.length_ip
  exact h

lemma saveClientIp_bytes : saveClientIp order p.bytes = pure (p.ipHdr order).ipSrc := by
  rw [saveClientIp, loadIpHdr_bytes, pure_bind]

lemma loadRange_inner :
    loadRange p.bytes sizeofGreHdr (maxPayloadSize + sizeofTcpHdr + sizeofIpHdr) = pure p.inner := by
  have h := loadRange_append p.gre p.inner []
  rw [List.append_nil, p.length_gre, p.length_inner] at h
  exact h

lemma printIpAddr_eq (v : UInt32) : printIpAddr v = pure (ipAddrText v) := by
  rw [printIpAddr, parseIpAddrToStr_eq, pure_bind, cstringAt_addrBuf]

lemma cstringAt_getPayload (h : 0 ∈ p.field) : cstringAt p.bytes (getPayload 0) = pure (.textOf p.field) := by
  rw [cstringAt_of_mem (by rw [p.drop_bytes]; exact h), p.drop_bytes]

/-- What the print functions show of a packet. -/
def viewOf (gre : Option GreHdr) : PacketView :=
  ⟨gre, p.ipHdr order, ipAddrText (p.ipHdr order).ipSrc, ipAddrText (p.ipHdr order).ipDst,
    TcpHdr.ofBytes order p.tcp, .textOf p.field⟩

lemma printHeaders_append (gre : Option GreHdr) (a : List UInt8) {i : Nat} (hi : i = a.length) :
    printHeaders order gre (a ++ p.inner) i =
      (fun payload => { viewOf order p gre with payload }) <$>
        cstringAt (a ++ p.inner) (i + sizeofIpHdr + sizeofTcpHdr) := by
  have hip : loadIpHdr order (a ++ p.inner) i = pure (p.ipHdr order) := by
    rw [Packet.inner, ← List.append_assoc]
    exact loadIpHdr_append order _ hi p.length_ip
  have htcp : loadTcpHdr order (a ++ p.inner) (i + sizeofIpHdr) =
      pure (TcpHdr.ofBytes order p.tcp) := by
    rw [Packet.inner, ← List.append_assoc, ← List.append_assoc]
    exact loadTcpHdr_append order _ (by rw [List.length_append, p.length_ip, hi]) p.length_tcp
  rw [printHeaders, hip, pure_bind, printIpAddr_eq, pure_bind, printIpAddr_eq, pure_bind, htcp,
    pure_bind, ← bind_pure_comp]
  rfl

lemma drop_printed : p.bytes.drop (getIpHdr 0 + sizeofIpHdr + sizeofTcpHdr) = p.field :=
  p.drop_bytes

lemma printPacket_eq : printPacket order p.bytes =
    (fun payload => { viewOf order p (some (GreHdr.ofBytes order p.gre)) with payload }) <$>
      cstringAt p.bytes (getIpHdr 0 + sizeofIpHdr + sizeofTcpHdr) := by
  have hgre : loadGreHdr order p.bytes (getGreHdr 0) = pure (GreHdr.ofBytes order p.gre) :=
    loadGreHdr_append order (a := []) p.inner rfl p.length_gre
  rw [printPacket, hgre, pure_bind, Packet.bytes]
  exact printHeaders_append order p _ p.gre (by rw [p.length_gre]; rfl)

theorem printPacket_bytes (h : 0 ∈ p.field) :
    printPacket order p.bytes = pure (viewOf order p (some (GreHdr.ofBytes order p.gre))) := by
  rw [printPacket_eq, cstringAt_of_mem (by rw [drop_printed]; exact h), drop_printed, map_pure]
  rfl

/-- Without a NUL the print leaves the packet. -/
theorem printPacket_bytes_of_not_mem (h : 0 ∉ p.field) :
    printPacket order p.bytes = .fault (.load 174 174) := by
  rw [printPacket_eq, cstringAt_of_not_mem (by rw [drop_printed]; exact h), p.length_bytes]
  rfl

lemma drop_printed_inner : p.inner.drop (0 + sizeofIpHdr + sizeofTcpHdr) = p.field := by
  rw [Nat.zero_add]
  exact p.drop_inner

lemma printPacketUnencap_inner_eq : printPacketUnencap order p.inner 0 =
    (fun payload => { viewOf order p none with payload }) <$>
      cstringAt p.inner (0 + sizeofIpHdr + sizeofTcpHdr) := by
  have hprint := printHeaders_append order p none (i := 0) [] rfl
  rw [List.nil_append] at hprint
  rw [printPacketUnencap, hprint]

theorem printPacketUnencap_inner (h : 0 ∈ p.field) :
    printPacketUnencap order p.inner 0 = pure (viewOf order p none) := by
  rw [printPacketUnencap_inner_eq, cstringAt_of_mem (by rw [drop_printed_inner]; exact h), drop_printed_inner,
    map_pure]
  rfl

/-- Without a NUL the destination's print leaves the packet. -/
theorem printPacketUnencap_inner_of_not_mem (h : 0 ∉ p.field) :
    printPacketUnencap order p.inner 0 = .fault (.load 168 168) := by
  rw [printPacketUnencap_inner_eq, cstringAt_of_not_mem (by rw [drop_printed_inner]; exact h), p.length_inner]
  rfl

theorem printPacketUnencap_bytes (h : 0 ∈ p.field) :
    printPacketUnencap order p.bytes sizeofGreHdr = pure (viewOf order p none) := by
  have hdrop : p.bytes.drop (sizeofGreHdr + sizeofIpHdr + sizeofTcpHdr) = p.field := p.drop_bytes
  rw [printPacketUnencap, Packet.bytes, printHeaders_append order p none p.gre p.length_gre.symm,
    ← Packet.bytes, cstringAt_of_mem (by rw [hdrop]; exact h), hdrop, map_pure]
  rfl

end SimpleVpn
