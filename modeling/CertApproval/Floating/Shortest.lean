import CertApproval.Floating.Ratio

/-!
The shortest decimal text of a double: the fewest digits that read back as the same
double and, among those, the nearest to it.
-/

namespace CertApproval.Floating

def natDigits (value : Nat) : List Char := Nat.toDigits 10 value

/-- The exponent of ten of the leading digit of a positive ratio. -/
def leadingExponent (numerator denominator : Nat) : Int :=
  if denominator ≤ numerator then
    Int.ofNat (natDigits (numerator / denominator)).length - 1
  else
    let length := (natDigits (denominator / numerator)).length
    if numerator * Nat.pow 10 (length - 1) = denominator then 1 - Int.ofNat length
    else -Int.ofNat length

/-- A ratio divided by a power of ten, as a ratio. -/
def unscaleTen (numerator denominator : Nat) (exponent : Int) : Nat × Nat :=
  if 0 ≤ exponent then (numerator, denominator * Nat.pow 10 exponent.toNat)
  else (numerator * Nat.pow 10 (-exponent).toNat, denominator)

/-- The neighbourhood of a double, in quarters of its last place: every number between
the bounds reads back as the double, the bounds themselves only if its significand
is even. -/
structure Neighbourhood where
  low : Nat
  value : Nat
  high : Nat
  quarter : Int
  inclusive : Bool

/-- The neighbourhood of a positive finite double. Below a power of two the next double is half
as far away as above it. -/
def neighbourhood (significand : Nat) (exponent : Int) : Neighbourhood where
  low := if significand = Nat.pow 2 52 ∧ -1074 < exponent then 4 * significand - 1
    else 4 * significand - 2
  value := 4 * significand
  high := 4 * significand + 2
  quarter := exponent - 2
  inclusive := significand % 2 = 0

/-- Whether a number, in the units of a grid, lies in the neighbourhood. -/
def Neighbourhood.holds (region : Neighbourhood) (unit : Int) (candidate : Nat) : Bool :=
  let (n, d) := if 0 ≤ unit then (candidate * Nat.pow 10 unit.toNat, 1)
    else (candidate, Nat.pow 10 (-unit).toNat)
  let (n, d) := scale n d (-region.quarter)
  if region.inclusive then region.low * d ≤ n ∧ n ≤ region.high * d
  else region.low * d < n ∧ n < region.high * d

/-- The shortest digits on the grids of `count`, `count + 1`, … digits, with the unit of the
grid. Seventeen digits always suffice, so `fuel` is never used up. -/
def shortestFrom (region : Neighbourhood) (leading : Int) : (fuel count : Nat) → Nat × Int
  | 0, count => (0, leading - Int.ofNat count + 1)
  | fuel + 1, count =>
    let unit := leading - Int.ofNat count + 1
    let (n, d) := scale region.value 1 region.quarter
    let (n, d) := unscaleTen n d unit
    let below := n / d
    let above := below + 1
    let nearer := if 2 * (n % d) < d then below
      else if d < 2 * (n % d) then above
      else below + below % 2
    let farther := if nearer = below then above else below
    if region.holds unit nearer then (nearer, unit)
    else if region.holds unit farther then (farther, unit)
    else shortestFrom region leading fuel (count + 1)

/-- Drops the zeros at the end of a number, counting them into the exponent of ten. -/
def dropZeros : (fuel digits : Nat) → (unit : Int) → Nat × Int
  | 0, digits, unit => (digits, unit)
  | fuel + 1, digits, unit =>
    if digits ≠ 0 ∧ digits % 10 = 0 then dropZeros fuel (digits / 10) (unit + 1)
    else (digits, unit)

/-- The shortest digits of a positive finite double and the exponent of ten of the last
of them. -/
def shortest (significand : Nat) (exponent : Int) : Nat × Int :=
  let (n, d) := scale significand 1 exponent
  let (digits, unit) := shortestFrom (neighbourhood significand exponent) (leadingExponent n d) 17 1
  dropZeros 20 digits unit

/-- The layout of a positive number: positional from a ten-thousandth up to ten to the sixteenth,
with one zero after the point of a whole number; outside that with a mark of the exponent, which
has a sign and at least two digits. -/
def layout (digits : Nat) (unit : Int) : List Char :=
  let shown := natDigits digits
  let leading := unit + Int.ofNat shown.length - 1
  if -4 ≤ leading ∧ leading < 16 then
    if 0 ≤ unit then shown ++ List.replicate unit.toNat '0' ++ ['.', '0']
    else if 0 ≤ leading then
      let whole := (leading + 1).toNat
      shown.take whole ++ ['.'] ++ shown.drop whole
    else ['0', '.'] ++ List.replicate (-leading - 1).toNat '0' ++ shown
  else
    let fraction := shown.drop 1
    let mark := natDigits leading.natAbs
    shown.take 1 ++ (if fraction.isEmpty then [] else '.' :: fraction) ++ ['e'] ++
      [if leading < 0 then '-' else '+'] ++
      (if mark.length < 2 then '0' :: mark else mark)

/-- The shortest text of a double that reads back as it. -/
def text (x : Double) : String :=
  match parts x with
  | .undefined => "nan"
  | .infinite negative => if negative then "-inf" else "inf"
  | .finite negative significand exponent =>
    let sign := if negative then ['-'] else []
    if significand = 0 then String.ofList (sign ++ ['0', '.', '0'])
    else
      let (digits, unit) := shortest significand exponent
      String.ofList (sign ++ layout digits unit)

end CertApproval.Floating
