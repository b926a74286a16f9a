/-!
Double-precision numbers as exact ratios. Every finite double is a whole significand
times a power of two; a ratio of naturals is rounded to the nearest double, a tie
going to the even significand.
-/

namespace CertApproval.Floating

/-- A double taken apart. A finite value is `significand * 2 ^ exponent`. -/
inductive Parts where
  | finite (negative : Bool) (significand : Nat) (exponent : Int)
  | infinite (negative : Bool)
  | undefined
  deriving DecidableEq, Repr

/-- A double, by its bits: the sign, eleven bits for the exponent, and the fraction. -/
structure Double where
  bits : BitVec 64
  deriving DecidableEq, Repr

def parts (x : Double) : Parts :=
  let bits := x.bits.toNat
  let negative := bits / Nat.pow 2 63 = 1
  let field := bits / Nat.pow 2 52 % Nat.pow 2 11
  let fraction := bits % Nat.pow 2 52
  if field = 2047 then
    if fraction = 0 then .infinite negative else .undefined
  else if field = 0 then .finite negative fraction (-1074)
  else .finite negative (fraction + Nat.pow 2 52) (Int.ofNat field - 1075)

/-- The double of a sign and the bits of a size. -/
def withSign (negative : Bool) (bits : Nat) : Double :=
  ⟨BitVec.ofNat 64 (if negative then Nat.pow 2 63 + bits else bits)⟩

/-- The double that stands for no number, of either sign. -/
def undefined (negative : Bool) : Double := withSign negative 0x7FF8000000000000

/-- Infinity of either sign. -/
def infinity (negative : Bool) : Double := withSign negative 0x7FF0000000000000

/-- The quotient of two naturals rounded to the nearest natural, a tie going to the
even one. -/
def roundQuotient (numerator denominator : Nat) : Nat :=
  let quotient := numerator / denominator
  let remainder := numerator % denominator
  if 2 * remainder < denominator then quotient
  else if denominator < 2 * remainder then quotient + 1
  else quotient + quotient % 2

/-- A ratio times a power of two, as a ratio. -/
def scale (numerator denominator : Nat) (exponent : Int) : Nat × Nat :=
  if 0 ≤ exponent then (numerator * Nat.pow 2 exponent.toNat, denominator)
  else (numerator, denominator * Nat.pow 2 (-exponent).toNat)

/-- The exponent that gives a positive ratio a significand of 53 bits, or the least
exponent of all where the ratio is too small for that. -/
def exponentFor (numerator denominator : Nat) : Int :=
  let guess := Int.ofNat (Nat.log2 numerator) - Int.ofNat (Nat.log2 denominator) - 52
  let (n, d) := scale numerator denominator (-guess)
  let exponent := if n < d * Nat.pow 2 52 then guess - 1 else guess
  if exponent < -1074 then -1074 else exponent

/-- The bits of the double nearest to a ratio, infinity where it is too large. The leading bit of
a normal significand, and what rounding carries over, count up the field of the exponent. -/
def bitsOfRatio (numerator denominator : Nat) : Nat :=
  if numerator = 0 ∨ denominator = 0 then 0
  else
    let exponent := exponentFor numerator denominator
    let (n, d) := scale numerator denominator (-exponent)
    let bits := (exponent + 1074).toNat * Nat.pow 2 52 + roundQuotient n d
    if 2047 * Nat.pow 2 52 ≤ bits then 2047 * Nat.pow 2 52 else bits

/-- The double nearest to a ratio with a sign. -/
def ofRatio (negative : Bool) (numerator denominator : Nat) : Double :=
  withSign negative (bitsOfRatio numerator denominator)

def ofInt (value : Int) : Double := ofRatio (value < 0) value.natAbs 1

instance (value : Nat) : OfNat Double value := ⟨ofInt value⟩

/-- The power of ten beyond which every double is infinite, and below whose reciprocal
every double is zero. -/
def decimalLimit : Int := 400

/-- The double nearest to a whole number of units of a power of ten. -/
def ofDecimal (negative : Bool) (digits : Nat) (exponent : Int) : Double :=
  let size := exponent + Int.ofNat (Nat.toDigits 10 digits).length
  if digits = 0 ∨ size < -decimalLimit then ofRatio negative 0 1
  else if decimalLimit < size then infinity negative
  else if 0 ≤ exponent then ofRatio negative (digits * Nat.pow 10 exponent.toNat) 1
  else ofRatio negative digits (Nat.pow 10 (-exponent).toNat)

/-- A finite double as a sign and a ratio. -/
def toRatio? (x : Double) : Option (Bool × Nat × Nat) :=
  match parts x with
  | .finite negative significand exponent =>
    let (n, d) := scale significand 1 exponent
    some (negative, n, d)
  | _ => none

/-- Whether a double is neither infinite nor undefined. -/
def isFinite (x : Double) : Bool :=
  match parts x with
  | .finite .. => true
  | _ => false

example : bitsOfRatio 1 10 = 0x3FB999999999999A := by decide +kernel
example : bitsOfRatio (Nat.pow 2 53 + 1) 1 = bitsOfRatio (Nat.pow 2 53) 1 := by decide +kernel
example : bitsOfRatio 5 (Nat.pow 10 324) = 1 := by decide +kernel
example : bitsOfRatio (Nat.pow 2 1024) 1 = 0x7FF0000000000000 := by decide +kernel

end CertApproval.Floating
