import CertApproval.Bytes
import CertApproval.Crypto.Digest
import CertApproval.Crypto.Modular

/-!
Signatures by exponentiation modulo a product of primes, with the padding that names
the hash function in front of the hash value.
-/

namespace CertApproval.Crypto.Rsa

/-- What stands before a hash value: the structure that names the hash function, up to
the value itself. -/
def digestHeader (digest : Digest) : Bytes :=
  let (arc, size) : UInt8 × UInt8 := match digest with
    | .sha224 => (4, 28)
    | .sha256 => (1, 32)
    | .sha384 => (2, 48)
    | .sha512 => (3, 64)
  [0x30, 17 + size, 0x30, 13, 0x06, 9, 0x60, 0x86, 0x48, 0x01, 0x65, 0x03, 0x04, 0x02, arc,
    0x05, 0, 0x04, size]

/-- The padded hash value of a message in a given number of bytes, if it fits. -/
def encode? (digest : Digest) (message : Bytes) (size : Nat) : Option Bytes :=
  let body := digestHeader digest ++ digest.hash message
  if size < body.length + 11 then none
  else some ([0, 1] ++ List.replicate (size - body.length - 3) 0xFF ++ [0] ++ body)

/-- Whether a key can be used at all: an odd exponent of at least three, below the
modulus. -/
def acceptable (modulus exponent : Nat) : Bool :=
  3 ≤ modulus && 3 ≤ exponent && exponent < modulus && exponent % 2 = 1

/-- The widest modulus that is worked with, in bits. -/
def modulusBitLimit : Nat := 16384

/-- Above this many bits of the modulus, only short exponents are worked with. -/
def wideModulusBits : Nat := 3072

/-- The widest exponent that goes with a wide modulus, in bits. -/
def exponentBitLimit : Nat := 64

/-- Whether a signature signs a message under a key. -/
def verify (digest : Digest) (modulus exponent : Nat) (message signature : Bytes) : Bool :=
  let bits := Nat.log2 modulus + 1
  let size := (bits + 7) / 8
  let value := Bytes.toNat signature
  let exponentBits := Nat.log2 exponent + 1
  if modulusBitLimit < bits ∨ (wideModulusBits < bits ∧ exponentBitLimit < exponentBits) then false
  else if signature.length ≠ size ∨ modulus ≤ value then false
  else
    match encode? digest message size with
    | some expected => Bytes.ofNat size (modExp modulus value exponent) = expected
    | none => false

end CertApproval.Crypto.Rsa
