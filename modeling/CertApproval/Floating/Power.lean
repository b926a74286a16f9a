import CertApproval.Floating.Arithmetic

/-!
A double raised to a whole power, rounded once at the end. The power is carried on a
significand of 256 bits, so that the rounding of the intermediate products does not
reach the digits that are kept.
-/

namespace CertApproval.Floating

/-- A number `significand * 2 ^ exponent` on a wide significand. -/
structure Wide where
  significand : Nat
  exponent : Int

/-- The number of bits that a wide significand keeps. -/
def wideBits : Nat := 256

/-- Drops the lowest bits of a significand that has become too wide. -/
def Wide.narrow (x : Wide) : Wide :=
  let excess := Nat.log2 x.significand + 1 - wideBits
  ⟨x.significand / Nat.pow 2 excess, x.exponent + Int.ofNat excess⟩

def Wide.mul (x y : Wide) : Wide :=
  Wide.narrow ⟨x.significand * y.significand, x.exponent + y.exponent⟩

/-- A wide number raised to a power whose binary digits are given from the lowest up. -/
def Wide.power (base : Wide) : (fuel : Nat) → (power : Nat) → Wide
  | 0, _ => ⟨1, 0⟩
  | fuel + 1, power =>
    if power = 0 then ⟨1, 0⟩
    else
      let half := Wide.power (base.mul base) fuel (power / 2)
      if power % 2 = 1 then base.mul half else half

/-- The exponents beyond which a wide number is certainly infinite or zero as a double. -/
def exponentLimit : Int := 5000

/-- The double nearest to a wide number or to its reciprocal. -/
def Wide.toDouble (x : Wide) (negative reciprocal : Bool) : Double :=
  let size := x.exponent + Int.ofNat (Nat.log2 x.significand)
  if exponentLimit < size then
    if reciprocal then ofRatio negative 0 1 else infinity negative
  else if size < -exponentLimit then
    if reciprocal then infinity negative else ofRatio negative 0 1
  else
    let (n, d) := scale x.significand 1 x.exponent
    if reciprocal then ofRatio negative d n else ofRatio negative n d

/-- A double raised to a whole power, where there is one: a finite base whose power overflows has
none. The exponent is taken as it is. Were it made a double first, the powers could differ from
`2 ^ 53` on, where not every whole number is a double, and from `2 ^ 1024` on no base would have
one, not even one itself. -/
def power? (base : Double) (exponent : Int) : Option Double :=
  if exponent = 0 then some (ofRatio false 1 1)
  else
    match parts base with
    | .undefined => some base
    | .infinite negative =>
      let odd := negative && exponent % 2 = 1
      some (if 0 < exponent then infinity odd else ofRatio odd 0 1)
    | .finite negative significand binaryExponent =>
      let odd := negative && exponent % 2 = 1
      if significand = 0 then
        if exponent < 0 then none else some (ofRatio odd 0 1)
      else
        let size := exponent.natAbs
        let wide := Wide.power ⟨significand, binaryExponent⟩ (Nat.log2 size + 1) size
        let result := wide.toDouble odd (exponent < 0)
        if isFinite result then some result else none

end CertApproval.Floating
