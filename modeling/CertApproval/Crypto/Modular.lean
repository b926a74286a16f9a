/-!
Arithmetic modulo a number: powers, inverses and square roots modulo a prime.
-/

namespace CertApproval.Crypto

/-- A power modulo `modulus`, by repeated squaring over the bits of the exponent. -/
def powMod (modulus base : Nat) : (fuel : Nat) → (exponent : Nat) → Nat
  | 0, _ => 1 % modulus
  | fuel + 1, exponent =>
    if exponent = 0 then 1 % modulus
    else
      let square := powMod modulus (base * base % modulus) fuel (exponent / 2)
      if exponent % 2 = 1 then base * square % modulus else square

def modExp (modulus base exponent : Nat) : Nat :=
  powMod modulus (base % modulus) (Nat.log2 exponent + 1) exponent

/-- The inverse modulo a prime, by the little theorem of Fermat. -/
def invMod (prime value : Nat) : Nat := modExp prime value (prime - 2)

/-- The difference modulo `modulus` of two numbers below it. -/
def subMod (modulus a b : Nat) : Nat := (a + modulus - b) % modulus

/-- A square root modulo a prime that leaves three when divided by four. -/
def sqrtThreeMod4? (prime value : Nat) : Option Nat :=
  let root := modExp prime value ((prime + 1) / 4)
  if root * root % prime = value % prime then some root else none

/-- The square roots of a product of twos in Tonelli's method: `root` and `rest` move
together until `rest` is one. -/
def tonelli (prime : Nat) : (fuel : Nat) → (twos root rest generator : Nat) → Option Nat
  | 0, _, _, _, _ => none
  | fuel + 1, twos, root, rest, generator =>
    if rest = 1 then some root
    else
      let orders := (List.range twos).filter fun i => modExp prime rest (Nat.pow 2 i) = 1
      match orders.head? with
      | none => none
      | some order =>
        if order = 0 then some root
        else
          let shift := modExp prime generator (Nat.pow 2 (twos - order - 1))
          let square := shift * shift % prime
          tonelli prime fuel order (root * shift % prime) (rest * square % prime) square

/-- The number of factors two, and the odd rest. -/
def splitTwos : (fuel value : Nat) → Nat × Nat
  | 0, value => (0, value)
  | fuel + 1, value =>
    if value % 2 = 0 ∧ value ≠ 0 then
      let (twos, odd) := splitTwos fuel (value / 2)
      (twos + 1, odd)
    else (0, value)

/-- The least number that has no square root modulo a prime. -/
def nonResidue (prime : Nat) : Nat :=
  ((List.range 200).find? fun z => 2 ≤ z ∧ modExp prime z ((prime - 1) / 2) = prime - 1).getD 2

/-- A square root modulo an odd prime. -/
def sqrtMod? (prime value : Nat) : Option Nat :=
  let value := value % prime
  if value = 0 then some 0
  else if prime % 4 = 3 then sqrtThreeMod4? prime value
  else if modExp prime value ((prime - 1) / 2) ≠ 1 then none
  else
    let (twos, odd) := splitTwos (Nat.log2 prime + 1) (prime - 1)
    tonelli prime (Nat.log2 prime + 1) twos (modExp prime value ((odd + 1) / 2))
      (modExp prime value odd) (modExp prime (nonResidue prime) odd)

end CertApproval.Crypto
