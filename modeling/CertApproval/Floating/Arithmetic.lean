import CertApproval.Floating.Ratio

/-!
Adding, multiplying and comparing doubles. A finite result is the exact one, rounded once.
-/

namespace CertApproval.Floating

/-- What stands for the result of an operation that has none. -/
def noResult : Double := undefined true

/-- A finite double as a whole number of units, a unit being a power of two that is not above
its own. -/
def units (negative : Bool) (significand : Nat) (exponent unit : Int) : Int :=
  let size := Int.ofNat (significand * Nat.pow 2 (exponent - unit).toNat)
  if negative then -size else size

/-- A whole number of units as a double. Zero is negative only if it is said to be. -/
def ofUnits (negativeZero : Bool) (value unit : Int) : Double :=
  let negative := if value = 0 then negativeZero else value < 0
  let (n, d) := scale value.natAbs 1 unit
  ofRatio negative n d

namespace Double

def add (x y : Double) : Double :=
  match parts x, parts y with
  | .undefined, _ => x
  | _, .undefined => y
  | .infinite negative, .infinite other => if negative = other then x else noResult
  | .infinite _, .finite .. => x
  | .finite .., .infinite _ => y
  | .finite negative significand exponent, .finite other significand' exponent' =>
    let unit := min exponent exponent'
    ofUnits (negative && other)
      (units negative significand exponent unit + units other significand' exponent' unit) unit

def mul (x y : Double) : Double :=
  match parts x, parts y with
  | .undefined, _ => x
  | _, .undefined => y
  | .infinite negative, .infinite other => infinity (negative != other)
  | .infinite negative, .finite other significand _ =>
    if significand = 0 then noResult else infinity (negative != other)
  | .finite negative significand _, .infinite other =>
    if significand = 0 then noResult else infinity (negative != other)
  | .finite negative significand exponent, .finite other significand' exponent' =>
    let (n, d) := scale (significand * significand') 1 (exponent + exponent')
    ofRatio (negative != other) n d

/-- How one double compares with another. What is no number compares with nothing, not even with
itself. -/
def compare? (x y : Double) : Option Ordering :=
  match parts x, parts y with
  | .undefined, _ => none
  | _, .undefined => none
  | .infinite negative, .infinite other =>
    some (if negative = other then .eq else if negative then .lt else .gt)
  | .infinite negative, .finite .. => some (if negative then .lt else .gt)
  | .finite .., .infinite negative => some (if negative then .gt else .lt)
  | .finite negative significand exponent, .finite other significand' exponent' =>
    let unit := min exponent exponent'
    some (compare (units negative significand exponent unit)
      (units other significand' exponent' unit))

def isBelow (x y : Double) : Bool := compare? x y = some .lt

/-- Whether one double is not above another, and comparable with it. -/
def isAtMost (x y : Double) : Bool := compare? x y = some .lt || compare? x y = some .eq

instance : Add Double := ⟨add⟩

instance : Mul Double := ⟨mul⟩

instance : LT Double := ⟨fun x y => x.isBelow y = true⟩

instance : LE Double := ⟨fun x y => x.isAtMost y = true⟩

instance (x y : Double) : Decidable (x < y) := inferInstanceAs (Decidable (x.isBelow y = true))

instance (x y : Double) : Decidable (x ≤ y) := inferInstanceAs (Decidable (x.isAtMost y = true))

example : ofDecimal false 1 (-1) + ofDecimal false 2 (-1) =
    ofDecimal false 30000000000000004 (-17) := by decide +kernel
example : ofInt (-1) < 0 := by decide +kernel
example : ¬undefined false ≤ undefined false := by decide +kernel

end Double

end CertApproval.Floating
