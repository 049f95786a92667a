import SimpleVpn.Lib.Mem

/-!
# The cipher

The key and the function of `encrypt.c`. The functions of the model take the key as an
argument; the programs use `key`.
-/

namespace SimpleVpn

open CLang

abbrev Key := Vector UInt8 4

def key : Key := #v[0x12, 0x34, 0x56, 0x78]

def Key.at (k : Key) (i : Nat) : UInt8 := k.get (Fin.ofNat 4 i)

/-- The loop of `xor_encrypt_decrypt` from index `i` on, with `n` rounds left. -/
def xorLoop (k : Key) (input : Buf) (i : Nat) : Nat → Buf → Mem Buf
  | 0, output => pure output
  | n + 1, output => do
    let b ← load input i
    let output ← store output i (b ^^^ k.at i)
    xorLoop k input (i + 1) n output

def xorEncryptDecrypt (k : Key) (input output : Buf) (length : Nat) : Mem Buf :=
  xorLoop k input 0 length output

end SimpleVpn
