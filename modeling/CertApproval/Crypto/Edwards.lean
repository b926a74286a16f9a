import CertApproval.Bytes
import CertApproval.Crypto.Digest
import CertApproval.Crypto.Modular

/-!
Signatures on the twisted Edwards curve `-x² + y² = 1 + d x² y²` over the field of
`2²⁵⁵ - 19` elements.
-/

namespace CertApproval.Crypto.Edwards

def prime : Nat := Nat.pow 2 255 - 19

def order : Nat := Nat.pow 2 252 + 27742317777372353535851937790883648493

/-- The coefficient `d = -121665 / 121666`. -/
def d : Nat := (prime - 121665) * invMod prime 121666 % prime

/-- A square root of minus one. -/
def sqrtMinusOne : Nat := modExp prime 2 ((prime - 1) / 4)

/-- A point in extended coordinates: `x = X / Z`, `y = Y / Z` and `x y = T / Z`. -/
structure Point where
  x : Nat
  y : Nat
  z : Nat
  t : Nat

def zero : Point := ⟨0, 1, 1, 0⟩

/-- The sum of two points; the formula is complete. -/
def add (p q : Point) : Point :=
  let a := subMod prime p.y p.x * subMod prime q.y q.x % prime
  let b := (p.y + p.x) * (q.y + q.x) % prime
  let c := 2 * p.t * q.t % prime * d % prime
  let e := 2 * p.z * q.z % prime
  let f := subMod prime b a
  let g := subMod prime e c
  let h := (e + c) % prime
  let i := (b + a) % prime
  ⟨f * g % prime, h * i % prime, g * h % prime, f * i % prime⟩

/-- A multiple of a point, over the bits of the factor from the highest down. -/
def multiple (p : Point) (factor : Nat) : (bits : Nat) → Point → Point
  | 0, sum => sum
  | bits + 1, sum =>
    let sum := add sum sum
    multiple p factor bits (if factor.testBit bits then add sum p else sum)

/-- Reads a point: `y` with the parity of `x` in the highest bit. -/
def readPoint? (bytes : Bytes) : Option Point :=
  let code := Bytes.toNatReversed bytes
  let parity := code / Nat.pow 2 255 % 2
  let y := code % Nat.pow 2 255 % prime
  let yy := y * y % prime
  let numerator := subMod prime yy 1
  let denominator := (d * yy + 1) % prime
  let square := numerator * invMod prime denominator % prime
  let candidate := modExp prime square ((prime + 3) / 8)
  let root? :=
    if candidate * candidate % prime = square then some candidate
    else
      let other := candidate * sqrtMinusOne % prime
      if other * other % prime = square then some other else none
  root?.map fun root =>
    let x := if root % 2 = parity then root else (prime - root) % prime
    ⟨x, y, 1, x * y % prime⟩

def writePoint (p : Point) : Bytes :=
  let inverse := invMod prime p.z
  let x := p.x * inverse % prime
  let y := p.y * inverse % prime
  (Bytes.ofNat 32 (y + x % 2 * Nat.pow 2 255)).reverse

/-- The encoding of the base point, `y = 4 / 5` with even `x`. -/
def baseCode : Bytes := (Bytes.ofNat 32 (4 * invMod prime 5 % prime)).reverse

def neg (p : Point) : Point := ⟨(prime - p.x) % prime, p.y, p.z, (prime - p.t) % prime⟩

/-- Whether a signature of 64 bytes signs a message under a key of 32 bytes. -/
def verify (key message signature : Bytes) : Bool :=
  let nonce := signature.take 32
  let s := Bytes.toNatReversed (signature.drop 32)
  if signature.length ≠ 64 ∨ key.length ≠ 32 ∨ order ≤ s then false
  else
    match readPoint? key, readPoint? baseCode with
    | some keyPoint, some base =>
      let challenge :=
        Bytes.toNatReversed (Digest.sha512.hash (nonce ++ key ++ message)) % order
      let left := multiple base s 253 zero
      let right := multiple (neg keyPoint) challenge 253 zero
      writePoint (add left right) = nonce
    | _, _ => false

end CertApproval.Crypto.Edwards
