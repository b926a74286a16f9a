import CertApproval.Crypto.Edwards
import CertApproval.Crypto.Rsa
import CertApproval.Crypto.Weierstrass
import CertApproval.Request.Algorithm

/-!
The key of a subject: its encoding, loading it, and checking a signature under it.
-/

namespace CertApproval.Request

open CertApproval.Der
open CertApproval.Crypto

/-- A key as it is encoded. -/
structure KeyInfo where
  algorithm : Algorithm
  key : BitString
  deriving DecidableEq, Repr

/-- A key that has been loaded. -/
inductive PublicKey where
  | curve (curve : Curve) (x y : Nat)
  | rsa (modulus exponent : Nat)
  | ed25519 (code : Bytes)
  /-- A key that loads but under which no signature is checked. -/
  | other
  deriving DecidableEq

namespace KeyInfo

def read? (element : Element) : Option KeyInfo :=
  match element.sequence? with
  | some [algorithm, key] =>
    match Algorithm.read? algorithm, key.bits? with
    | some algorithm, some key => some ⟨algorithm, key⟩
    | _, _ => none
  | _ => none

def write (info : KeyInfo) : Element :=
  .ofSequence [info.algorithm.write, .ofBits info.key]

def namedCurves : List (Oid × Curve) :=
  [(⟨[1, 2, 840, 10045, 3, 1, 1]⟩, p192), (⟨[1, 3, 132, 0, 33]⟩, p224),
   (⟨[1, 2, 840, 10045, 3, 1, 7]⟩, p256), (⟨[1, 3, 132, 0, 34]⟩, p384),
   (⟨[1, 3, 132, 0, 35]⟩, p521), (⟨[1, 3, 132, 0, 10]⟩, secp256k1)]

def namedCurve? (parameters : Option Element) : Option Curve :=
  match parameters.bind Element.oid? with
  | some id => namedCurves.lookup id
  | none => none

/-- A key that is a pair of a modulus and an exponent. -/
def loadRsa? (bytes : Bytes) : Option PublicKey :=
  match (Element.readOne? bytes).bind Element.sequence? with
  | some [modulus, exponent] =>
    match modulus.nat?, exponent.nat? with
    | some modulus, some exponent =>
      if Rsa.acceptable modulus exponent then some (.rsa modulus exponent) else none
    | _, _ => none
  | _ => none

/-- A key of a fixed number of bytes. -/
def loadFixed? (size : Nat) (key : PublicKey) (bytes : Bytes) : Option PublicKey :=
  if bytes.length = size then some key else none

/-- Loads a key, all bits of which count. -/
def load? (info : KeyInfo) : Option PublicKey :=
  let bytes := info.key.bytes
  let id := info.algorithm.id
  if info.key.unused ≠ 0 then none
  else if id = Algorithm.ellipticCurve then
    match namedCurve? info.algorithm.parameters with
    | none => none
    | some curve => (curve.readPoint? bytes).map fun (x, y) => .curve curve x y
  else if id = Algorithm.rsa ∨ id = Algorithm.rsaPss then loadRsa? bytes
  else if id = Algorithm.ed25519 then loadFixed? 32 (.ed25519 bytes) bytes
  else if id = Algorithm.x25519 then loadFixed? 32 .other bytes
  else if id = Algorithm.x448 then loadFixed? 56 .other bytes
  else if id = Algorithm.ed448 then loadFixed? 57 .other bytes
  else if id = Algorithm.dsa then
    ((Element.readOne? bytes).bind Element.nat?).map fun _ => .other
  else none

end KeyInfo

namespace PublicKey

/-- The two numbers of a signature on a curve. They must be encoded without any choice. -/
def readPair? (signature : Bytes) : Option (Nat × Nat) :=
  match (Element.readOne? signature).bind Element.sequence? with
  | some [r, s] =>
    match r.nat?, s.nat? with
    | some r, some s => some (r, s)
    | _, _ => none
  | _ => none

/-- Whether a signature by an algorithm signs a message under a key. The kinds of the key and of
the algorithm have to agree. -/
def verifies (key : PublicKey) (algorithm : Algorithm) (message signature : Bytes) : Bool :=
  match key with
  | .curve group x y =>
    match Algorithm.curveSignatures.lookup algorithm.id, readPair? signature with
    | some digest, some (r, s) => group.verify x y (digest.hash message) r s
    | _, _ => false
  | .rsa modulus exponent =>
    match Algorithm.rsaSignatures.lookup algorithm.id with
    | some digest => Rsa.verify digest modulus exponent message signature
    | none => false
  | .ed25519 code => algorithm.id = Algorithm.ed25519 && Edwards.verify code message signature
  | .other => false

end PublicKey

end CertApproval.Request
