import SimpleVpn.Lib.Decimal

/-!
# Host addresses

The functions of `host_info.c`. A `char` is a signed byte and an `int` wraps around.
-/

namespace SimpleVpn

open CLang

def hosts : List (CString × CString) :=
  [(.lit "h1", .lit "10.0.0.1"), (.lit "h2", .lit "10.0.0.2"), (.lit "h3", .lit "10.0.0.3"),
    (.lit "h4", .lit "10.0.0.4"), (.lit "h5", .lit "10.0.0.5"), (.lit "h6", .lit "10.0.0.6"),
    (.lit "h7", .lit "10.0.0.7")]

/-- The inner loop of `parse_ip_addr`: the octet read and the rest of the text. -/
def parseOctet (octet : Int32) : List UInt8 → Int32 × List UInt8
  | [] => (octet, [])
  | c :: start =>
    if c = charByte '.' then (octet, c :: start)
    else parseOctet (octet * 10 + (c.toInt8.toInt32 - 48)) start

def skipDot : List UInt8 → List UInt8
  | [] => []
  | c :: start => if c = charByte '.' then start else c :: start

/-- The remaining `n` rounds of the outer loop of `parse_ip_addr`. -/
def parseIpAddrLoop : Nat → UInt32 → List UInt8 → UInt32
  | 0, val, _ => val
  | n + 1, val, start =>
    let (octet, start) := parseOctet 0 start
    parseIpAddrLoop n ((val <<< 8) ||| octet.toUInt32) (skipDot start)

def parseIpAddr (ip : CString) : UInt32 := parseIpAddrLoop 4 0 ip.bytes

/-- The text that `parse_ip_addr_to_str` prints. -/
def ipAddrText (ipAddr : UInt32) : CString where
  bytes := decimal (ipAddr >>> 24).toNat ++ [charByte '.'] ++
    decimal ((ipAddr >>> 16) % 256).toNat ++ [charByte '.'] ++
    decimal ((ipAddr >>> 8) % 256).toNat ++ [charByte '.'] ++ decimal (ipAddr % 256).toNat
  nonzero := by
    intro c hc
    have hdot : charByte '.' ≠ 0 := by decide
    simp only [List.mem_append, List.mem_singleton] at hc
    rcases hc with (((((h | rfl) | h) | rfl) | h) | rfl) | h
    all_goals first
      | exact (isDigitByte_of_mem_decimal h).ne_zero
      | exact hdot

def parseIpAddrToStr (strIpAddr : Buf) (ipAddr : UInt32) : Mem Buf :=
  storeRange strIpAddr 0 ((ipAddrText ipAddr).bytes ++ [0])

def getHostIpLoop (hostName : CString) : List (CString × CString) → Option CString
  | [] => none
  | (name, ip) :: rest => if name = hostName then some ip else getHostIpLoop hostName rest

def getHostIp (hostName : CString) : Option CString := getHostIpLoop hostName hosts

end SimpleVpn
