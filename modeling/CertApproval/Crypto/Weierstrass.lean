import CertApproval.Bytes
import CertApproval.Crypto.Modular

/-!
Elliptic curves `y² = x³ + a x + b` over a prime field, the encodings of their points,
and the signature scheme on them.
-/

namespace CertApproval.Crypto

/-- A curve with a base point of prime order. -/
structure Curve where
  prime : Nat
  a : Nat
  b : Nat
  baseX : Nat
  baseY : Nat
  order : Nat
  deriving DecidableEq

namespace Curve

/-- A point in Jacobian coordinates: `x = X / Z²` and `y = Y / Z³`; `Z = 0` is the point
at infinity. -/
structure Point where
  x : Nat
  y : Nat
  z : Nat

def zero : Point := ⟨1, 1, 0⟩

/-- A point given by its affine coordinates. -/
def affine (x y : Nat) : Point := ⟨x, y, 1⟩

def coordinateSize (curve : Curve) : Nat := (Nat.log2 curve.prime + 8) / 8

def double (curve : Curve) (p : Point) : Point :=
  let m := curve.prime
  if p.z = 0 ∨ p.y = 0 then zero
  else
    let yy := p.y * p.y % m
    let s := 4 * p.x * yy % m
    let zz := p.z * p.z % m
    let slope := (3 * p.x * p.x + curve.a * (zz * zz % m)) % m
    let x := subMod m (slope * slope % m) (2 * s % m)
    let y := subMod m (slope * subMod m s x % m) (8 * (yy * yy % m) % m)
    ⟨x, y, 2 * p.y * p.z % m⟩

/-- The sum of two points. -/
def add (curve : Curve) (p q : Point) : Point :=
  let m := curve.prime
  if p.z = 0 then q
  else if q.z = 0 then p
  else
    let pzz := p.z * p.z % m
    let qzz := q.z * q.z % m
    let u := p.x * qzz % m
    let v := q.x * pzz % m
    let s := p.y * qzz % m * q.z % m
    let t := q.y * pzz % m * p.z % m
    if u = v then
      if s = t then double curve p else zero
    else
      let h := subMod m v u
      let r := subMod m t s
      let hh := h * h % m
      let hhh := h * hh % m
      let uhh := u * hh % m
      let x := subMod m (subMod m (r * r % m) hhh) (2 * uhh % m)
      let y := subMod m (r * subMod m uhh x % m) (s * hhh % m)
      ⟨x, y, p.z * q.z % m * h % m⟩

/-- The sum of multiples `j p + k q`, over the bits of both factors from the highest
down. `both` is `p + q`. -/
def combine (curve : Curve) (p q both : Point) (j k : Nat) : (bits : Nat) → Point → Point
  | 0, sum => sum
  | bits + 1, sum =>
    let sum := double curve sum
    let sum := match j.testBit bits, k.testBit bits with
      | true, true => add curve sum both
      | true, false => add curve sum p
      | false, true => add curve sum q
      | false, false => sum
    combine curve p q both j k bits sum

/-- The affine first coordinate of a point other than infinity. -/
def affineX? (curve : Curve) (p : Point) : Option Nat :=
  if p.z = 0 then none
  else some (p.x * invMod curve.prime (p.z * p.z % curve.prime) % curve.prime)

/-- The right-hand side of the equation of the curve. -/
def cubic (curve : Curve) (x : Nat) : Nat :=
  (x * x % curve.prime * x + curve.a * x + curve.b) % curve.prime

/-- Whether coordinates are reduced and satisfy the equation of the curve. -/
def holds (curve : Curve) (x y : Nat) : Bool :=
  x < curve.prime && y < curve.prime && y * y % curve.prime = curve.cubic x

/-- Reads a point other than infinity. The first byte tells the form: two and three for the
compressed forms, which give the parity of `y`, four for the uncompressed one, six and seven for
the hybrid ones, which give the parity as well. -/
def readPoint? (curve : Curve) : Bytes → Option (Nat × Nat)
  | [] => none
  | form :: rest =>
    let size := curve.coordinateSize
    let parity := form.toNat % 2
    if form = 2 ∨ form = 3 then
      let x := Bytes.toNat rest
      if rest.length ≠ size ∨ curve.prime ≤ x then none
      else
        match sqrtMod? curve.prime (curve.cubic x) with
        | none => none
        | some root =>
          if root = 0 then if parity = 0 then some (x, 0) else none
          else some (x, if root % 2 = parity then root else curve.prime - root)
    else if form = 4 ∨ form = 6 ∨ form = 7 then
      let x := Bytes.toNat (rest.take size)
      let y := Bytes.toNat (rest.drop size)
      if rest.length ≠ 2 * size ∨ !curve.holds x y then none
      else if form ≠ 4 ∧ y % 2 ≠ parity then none
      else some (x, y)
    else none

/-- The leading bits of a hash value, at most as many as the order of the curve has. -/
def hashNumber (curve : Curve) (hash : Bytes) : Nat :=
  let excess := hash.length * 8 - (Nat.log2 curve.order + 1)
  Bytes.toNat hash / Nat.pow 2 excess

/-- Whether `(r, s)` signs a hash value under the key `(x, y)`. -/
def verify (curve : Curve) (x y : Nat) (hash : Bytes) (r s : Nat) : Bool :=
  if r = 0 ∨ s = 0 ∨ curve.order ≤ r ∨ curve.order ≤ s then false
  else
    let inverse := invMod curve.order s
    let j := hashNumber curve hash * inverse % curve.order
    let k := r * inverse % curve.order
    let base := affine curve.baseX curve.baseY
    let key := affine x y
    let sum := combine curve base key (add curve base key) j k (Nat.log2 curve.order + 1) zero
    match affineX? curve sum with
    | some x => x % curve.order = r
    | none => false

end Curve

def p192 : Curve where
  prime := 0xFFFFFFFFFFFFFFFFFFFFFFFFFFFFFFFEFFFFFFFFFFFFFFFF
  a := 0xFFFFFFFFFFFFFFFFFFFFFFFFFFFFFFFEFFFFFFFFFFFFFFFC
  b := 0x64210519E59C80E70FA7E9AB72243049FEB8DEECC146B9B1
  baseX := 0x188DA80EB03090F67CBF20EB43A18800F4FF0AFD82FF1012
  baseY := 0x07192B95FFC8DA78631011ED6B24CDD573F977A11E794811
  order := 0xFFFFFFFFFFFFFFFFFFFFFFFF99DEF836146BC9B1B4D22831

def p224 : Curve where
  prime := 0xFFFFFFFFFFFFFFFFFFFFFFFFFFFFFFFF000000000000000000000001
  a := 0xFFFFFFFFFFFFFFFFFFFFFFFFFFFFFFFEFFFFFFFFFFFFFFFFFFFFFFFE
  b := 0xB4050A850C04B3ABF54132565044B0B7D7BFD8BA270B39432355FFB4
  baseX := 0xB70E0CBD6BB4BF7F321390B94A03C1D356C21122343280D6115C1D21
  baseY := 0xBD376388B5F723FB4C22DFE6CD4375A05A07476444D5819985007E34
  order := 0xFFFFFFFFFFFFFFFFFFFFFFFFFFFF16A2E0B8F03E13DD29455C5C2A3D

def p256 : Curve where
  prime := 0xFFFFFFFF00000001000000000000000000000000FFFFFFFFFFFFFFFFFFFFFFFF
  a := 0xFFFFFFFF00000001000000000000000000000000FFFFFFFFFFFFFFFFFFFFFFFC
  b := 0x5AC635D8AA3A93E7B3EBBD55769886BC651D06B0CC53B0F63BCE3C3E27D2604B
  baseX := 0x6B17D1F2E12C4247F8BCE6E563A440F277037D812DEB33A0F4A13945D898C296
  baseY := 0x4FE342E2FE1A7F9B8EE7EB4A7C0F9E162BCE33576B315ECECBB6406837BF51F5
  order := 0xFFFFFFFF00000000FFFFFFFFFFFFFFFFBCE6FAADA7179E84F3B9CAC2FC632551

def p384 : Curve where
  prime := Nat.pow 2 384 - Nat.pow 2 128 - Nat.pow 2 96 + Nat.pow 2 32 - 1
  a := Nat.pow 2 384 - Nat.pow 2 128 - Nat.pow 2 96 + Nat.pow 2 32 - 4
  b :=
    0xB3312FA7E23EE7E4988E056BE3F82D19181D9C6EFE814112 * Nat.pow 2 192 +
      0x0314088F5013875AC656398D8A2ED19D2A85C8EDD3EC2AEF
  baseX :=
    0xAA87CA22BE8B05378EB1C71EF320AD746E1D3B628BA79B98 * Nat.pow 2 192 +
      0x59F741E082542A385502F25DBF55296C3A545E3872760AB7
  baseY :=
    0x3617DE4A96262C6F5D9E98BF9292DC29F8F41DBD289A147C * Nat.pow 2 192 +
      0xE9DA3113B5F0B8C00A60B1CE1D7E819D7A431D7C90EA0E5F
  order :=
    0xFFFFFFFFFFFFFFFFFFFFFFFFFFFFFFFFFFFFFFFFFFFFFFFF * Nat.pow 2 192 +
      0xC7634D81F4372DDF581A0DB248B0A77AECEC196ACCC52973

def p521 : Curve where
  prime := Nat.pow 2 521 - 1
  a := Nat.pow 2 521 - 4
  b :=
    0x51953EB9618E1C9A1F929A21A0B68540EEA2DA725B99B315F3B8B489918EF109 * Nat.pow 2 264 +
      0xE156193951EC7E937B1652C0BD3BB1BF073573DF883D2C34F1EF451FD46B503F00
  baseX :=
    0xC6858E06B70404E9CD9E3ECB662395B4429C648139053FB521F828AF606B4D3D * Nat.pow 2 264 +
      0xBAA14B5E77EFE75928FE1DC127A2FFA8DE3348B3C1856A429BF97E7E31C2E5BD66
  baseY :=
    0x11839296A789A3BC0045C8A5FB42C7D1BD998F54449579B446817AFBD17273E66 * Nat.pow 2 264 +
      0x2C97EE72995EF42640C550B9013FAD0761353C7086A272C24088BE94769FD16650
  order :=
    0x1FFFFFFFFFFFFFFFFFFFFFFFFFFFFFFFFFFFFFFFFFFFFFFFFFFFFFFFFFFFFFFFF * Nat.pow 2 264 +
      0xFA51868783BF2F966B7FCC0148F709A5D03BB5C9B8899C47AEBB6FB71E91386409

/-- The curve of `y² = x³ + 7` over 256 bits. -/
def secp256k1 : Curve where
  prime := Nat.pow 2 256 - Nat.pow 2 32 - 977
  a := 0
  b := 7
  baseX := 0x79BE667EF9DCBBAC55A06295CE870B07029BFCDB2DCE28D959F2815B16F81798
  baseY := 0x483ADA7726A3C4655DA4FBFC0E1108A8FD17B448A68554199C47D08FFB10D4B8
  order := 0xFFFFFFFFFFFFFFFFFFFFFFFFFFFFFFFEBAAEDCE6AF48A03BBFD25E8CD0364141

end CertApproval.Crypto
