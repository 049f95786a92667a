import SimpleVpn.Lib.ByteOrder
import SimpleVpn.Lib.Mem
import Mathlib.Tactic.IntervalCases

/-!
# Headers

The packed structures of `protocol.h` with their representation in memory, and the
constants shared by the three programs.
-/

namespace SimpleVpn

open CLang

def ipVersion : BitVec 4 := 4

def port : UInt16 := 17350

def maxPayloadSize : Nat := 128

def ipProtocolTcp : UInt8 := 0x06

def ethertypeIpv4 : UInt16 := 0x0800

def tcpFlagAck : UInt8 := 0x16

def tcpFlagSyn : UInt8 := 0x02

def joinNibbles (h l : BitVec 4) : UInt8 := UInt8.ofNat (16 * h.toNat + l.toNat)

def hiNibble (b : UInt8) : BitVec 4 := BitVec.ofNat 4 (b.toNat / 16)

def loNibble (b : UInt8) : BitVec 4 := BitVec.ofNat 4 b.toNat

/-- Two 4-bit fields in one byte: a little-endian compiler fills the low bits first. -/
def bitFields : ByteOrder → BitVec 4 → BitVec 4 → UInt8
  | .little, first, second => joinNibbles second first
  | .big, first, second => joinNibbles first second

@[simp] lemma joinNibbles_hi_lo (b : UInt8) : joinNibbles (hiNibble b) (loNibble b) = b := by
  apply UInt8.toNat.inj
  have := b.toNat_lt
  simp only [joinNibbles, hiNibble, loNibble, BitVec.toNat_ofNat, UInt8.toNat_ofNat']
  omega

@[simp] lemma hiNibble_joinNibbles (h l : BitVec 4) : hiNibble (joinNibbles h l) = h := by
  apply BitVec.eq_of_toNat_eq
  have := h.isLt
  have := l.isLt
  simp only [joinNibbles, hiNibble, BitVec.toNat_ofNat, UInt8.toNat_ofNat']
  omega

@[simp] lemma loNibble_joinNibbles (h l : BitVec 4) : loNibble (joinNibbles h l) = l := by
  apply BitVec.eq_of_toNat_eq
  have := h.isLt
  have := l.isLt
  simp only [joinNibbles, loNibble, BitVec.toNat_ofNat, UInt8.toNat_ofNat']
  omega

structure GreHdr where
  c : UInt16
  protocol : UInt16
  greSum : UInt16
  deriving DecidableEq, Repr

def sizeofGreHdr : Nat := 6

namespace GreHdr

def toBytes (order : ByteOrder) (h : GreHdr) : List UInt8 :=
  bytes16 order h.c ++ bytes16 order h.protocol ++ bytes16 order h.greSum

def ofBytes (order : ByteOrder) (l : List UInt8) : GreHdr where
  c := read16 order (l.getD 0 0) (l.getD 1 0)
  protocol := read16 order (l.getD 2 0) (l.getD 3 0)
  greSum := read16 order (l.getD 4 0) (l.getD 5 0)

@[simp] lemma length_toBytes (order : ByteOrder) (h : GreHdr) :
    (h.toBytes order).length = sizeofGreHdr := by
  simp [toBytes, sizeofGreHdr]

end GreHdr

structure IpHdr where
  ipHl : BitVec 4
  ipV : BitVec 4
  ipTos : UInt8
  ipLen : UInt16
  ipId : UInt16
  ipOff : UInt16
  ipTtl : UInt8
  ipP : UInt8
  ipSum : UInt16
  ipSrc : UInt32
  ipDst : UInt32
  deriving DecidableEq, Repr

def sizeofIpHdr : Nat := 20

namespace IpHdr

/-- `ip_hl` and `ip_v` are declared in the opposite order on the two kinds of machine. -/
def versionByte : ByteOrder → IpHdr → UInt8
  | .little, h => bitFields .little h.ipHl h.ipV
  | .big, h => bitFields .big h.ipV h.ipHl

def toBytes (order : ByteOrder) (h : IpHdr) : List UInt8 :=
  [h.versionByte order, h.ipTos] ++ bytes16 order h.ipLen ++ bytes16 order h.ipId ++
    bytes16 order h.ipOff ++ [h.ipTtl, h.ipP] ++ bytes16 order h.ipSum ++
    bytes32 order h.ipSrc ++ bytes32 order h.ipDst

def ofBytes (order : ByteOrder) (l : List UInt8) : IpHdr where
  ipHl := loNibble (l.getD 0 0)
  ipV := hiNibble (l.getD 0 0)
  ipTos := l.getD 1 0
  ipLen := read16 order (l.getD 2 0) (l.getD 3 0)
  ipId := read16 order (l.getD 4 0) (l.getD 5 0)
  ipOff := read16 order (l.getD 6 0) (l.getD 7 0)
  ipTtl := l.getD 8 0
  ipP := l.getD 9 0
  ipSum := read16 order (l.getD 10 0) (l.getD 11 0)
  ipSrc := read32 order (l.getD 12 0) (l.getD 13 0) (l.getD 14 0) (l.getD 15 0)
  ipDst := read32 order (l.getD 16 0) (l.getD 17 0) (l.getD 18 0) (l.getD 19 0)

lemma versionByte_eq (order : ByteOrder) (h : IpHdr) :
    h.versionByte order = joinNibbles h.ipV h.ipHl := by
  cases order <;> rfl

@[simp] lemma length_toBytes (order : ByteOrder) (h : IpHdr) :
    (h.toBytes order).length = sizeofIpHdr := by
  simp [toBytes, sizeofIpHdr]

end IpHdr

/-- `unused` are the four bits of the byte of `data_offset` that no field covers. -/
structure TcpHdr where
  srcPort : UInt16
  dstPort : UInt16
  seqNum : UInt32
  ackNum : UInt32
  dataOffset : BitVec 4
  unused : BitVec 4
  flags : UInt8
  window : UInt16
  tcpSum : UInt16
  urgentPointer : UInt16
  deriving DecidableEq, Repr

def sizeofTcpHdr : Nat := 20

namespace TcpHdr

def toBytes (order : ByteOrder) (h : TcpHdr) : List UInt8 :=
  bytes16 order h.srcPort ++ bytes16 order h.dstPort ++ bytes32 order h.seqNum ++
    bytes32 order h.ackNum ++ [bitFields order h.dataOffset h.unused, h.flags] ++
    bytes16 order h.window ++ bytes16 order h.tcpSum ++ bytes16 order h.urgentPointer

def ofBytes (order : ByteOrder) (l : List UInt8) : TcpHdr where
  srcPort := read16 order (l.getD 0 0) (l.getD 1 0)
  dstPort := read16 order (l.getD 2 0) (l.getD 3 0)
  seqNum := read32 order (l.getD 4 0) (l.getD 5 0) (l.getD 6 0) (l.getD 7 0)
  ackNum := read32 order (l.getD 8 0) (l.getD 9 0) (l.getD 10 0) (l.getD 11 0)
  dataOffset := match order with
    | .little => loNibble (l.getD 12 0)
    | .big => hiNibble (l.getD 12 0)
  unused := match order with
    | .little => hiNibble (l.getD 12 0)
    | .big => loNibble (l.getD 12 0)
  flags := l.getD 13 0
  window := read16 order (l.getD 14 0) (l.getD 15 0)
  tcpSum := read16 order (l.getD 16 0) (l.getD 17 0)
  urgentPointer := read16 order (l.getD 18 0) (l.getD 19 0)

@[simp] lemma length_toBytes (order : ByteOrder) (h : TcpHdr) :
    (h.toBytes order).length = sizeofTcpHdr := by
  simp [toBytes, sizeofTcpHdr]

end TcpHdr

lemma bytes16_cases (order : ByteOrder) (v : UInt16) :
    ∃ x y, bytes16 order v = [x, y] ∧ read16 order x y = v := by
  cases order with
  | little => exact ⟨lo16 v, hi16 v, rfl, join16_hi_lo v⟩
  | big => exact ⟨hi16 v, lo16 v, rfl, join16_hi_lo v⟩

lemma bytes32_cases (order : ByteOrder) (v : UInt32) :
    ∃ x y z w, bytes32 order v = [x, y, z, w] ∧ read32 order x y z w = v := by
  cases order with
  | little => exact ⟨octet v 0, octet v 1, octet v 2, octet v 3, rfl, join32_octets v⟩
  | big => exact ⟨octet v 3, octet v 2, octet v 1, octet v 0, rfl, join32_octets v⟩

theorem IpHdr.ofBytes_toBytes (order : ByteOrder) (h : IpHdr) :
    IpHdr.ofBytes order (h.toBytes order) = h := by
  obtain ⟨l0, l1, hl, hl'⟩ := bytes16_cases order h.ipLen
  obtain ⟨i0, i1, hi, hi'⟩ := bytes16_cases order h.ipId
  obtain ⟨o0, o1, ho, ho'⟩ := bytes16_cases order h.ipOff
  obtain ⟨c0, c1, hc, hc'⟩ := bytes16_cases order h.ipSum
  obtain ⟨s0, s1, s2, s3, hs, hs'⟩ := bytes32_cases order h.ipSrc
  obtain ⟨d0, d1, d2, d3, hd, hd'⟩ := bytes32_cases order h.ipDst
  simp [toBytes, ofBytes, versionByte_eq, hl, hi, ho, hc, hs, hd, hl', hi', ho', hc', hs', hd']

theorem IpHdr.toBytes_ofBytes (order : ByteOrder) {l : List UInt8} (hl : l.length = sizeofIpHdr) :
    (IpHdr.ofBytes order l).toBytes order = l := by
  apply List.ext_getElem
  · rw [length_toBytes, hl]
  · intro i hi hi'
    rw [length_toBytes] at hi
    simp only [sizeofIpHdr] at hi hl
    simp only [toBytes, ofBytes, versionByte_eq, bytes16_read16, bytes32_read32, joinNibbles_hi_lo]
    interval_cases i <;> simp [hl]

theorem GreHdr.ofBytes_toBytes (order : ByteOrder) (h : GreHdr) :
    GreHdr.ofBytes order (h.toBytes order) = h := by
  obtain ⟨c0, c1, hc, hc'⟩ := bytes16_cases order h.c
  obtain ⟨p0, p1, hp, hp'⟩ := bytes16_cases order h.protocol
  obtain ⟨g0, g1, hg, hg'⟩ := bytes16_cases order h.greSum
  simp [toBytes, ofBytes, hc, hp, hg, hc', hp', hg']

end SimpleVpn
