import CertApproval.Pattern.Syntax
import CertApproval.Text.Blank
import CertApproval.Text.Case
import CertApproval.Text.Classes

/-!
Which characters a set or a single character of a pattern matches, with and without
regard to case. Without it a character is lowered first, and letters that share a capital
count as one.
-/

namespace CertApproval.Pattern

/-- Letters in lower case that share their capital with others. -/
def sharedCapitals : List (Nat × List Nat) :=
  (Text.Ranges.words
    ["69>131 73>17F B5>3BC 131>69 17F>73 345>3B9+1FBE 390>1FD3 3B0>1FE3 3B2>3D0 3B5>3F5",
     "3B8>3D1 3B9>345+1FBE 3BA>3F0 3BC>B5 3C0>3D6 3C1>3F1 3C2>3C3 3C3>3C2 3C6>3D5 3D0>3B2",
     "3D1>3B8 3D5>3C6 3D6>3C0 3F0>3BA 3F1>3C1 3F5>3B5 432>1C80 434>1C81 43E>1C82 441>1C83",
     "442>1C84+1C85 44A>1C86 463>1C87 1C80>432 1C81>434 1C82>43E 1C83>441 1C84>442+1C85",
     "1C85>442+1C84 1C86>44A 1C87>463 1C88>A64B 1E61>1E9B 1E9B>1E61 1FBE>345+3B9 1FD3>390",
     "1FE3>3B0 A64B>1C88 FB05>FB06 FB06>FB05"]).map fun word =>
    let (source, images) := Text.CaseMap.readExpansion word
    (source, images.map Char.toNat)

/-- How letters are compared where case does not count. -/
structure Folding where
  /-- A code point in lower case. -/
  lower : Nat → Nat
  /-- Whether some code point between two others has another case. -/
  casedBetween : Nat → Nat → Bool
  /-- The further letters in lower case that count as one with a letter in lower case. -/
  alike : Nat → List Nat

namespace Folding

/-- The code point of an ASCII letter in lower case. -/
def asciiLower (code : Nat) : Nat := if 0x41 ≤ code ∧ code ≤ 0x5A then code + 0x20 else code

/-- Folding of the ASCII letters alone. -/
def ascii : Folding where
  lower := asciiLower
  casedBetween low high := (low ≤ 0x5A ∧ 0x41 ≤ high) ∨ (low ≤ 0x7A ∧ 0x61 ≤ high)
  alike _ := []

/-- Folding of the letters of every script. -/
def full : Folding where
  lower := Text.lowerCode
  casedBetween low high :=
    Text.lowerMap.movesBetween low high || Text.upperMap.movesBetween low high
  alike code := (sharedCapitals.lookup code).getD []

def under (switches : Switches) : Folding := if switches.asciiOnly then ascii else full

/-- Whether a letter in lower case counts as one with a code point. -/
def meets (folding : Folding) (lowered code : Nat) : Bool :=
  folding.lower code = lowered || (folding.alike (folding.lower code)).contains lowered

/-- Whether a condition holds of one of the code points from `low` on, `count` in number. -/
def anyFrom (holds : Nat → Bool) (low : Nat) : (count : Nat) → Bool
  | 0 => false
  | count + 1 => holds low || anyFrom holds (low + 1) count

end Folding

/-- Whether a code point is a letter, a digit or the underscore. -/
def isWord (asciiOnly : Bool) (code : Nat) : Bool :=
  let c := Char.ofNat code
  if asciiOnly then code < 0x80 && (c.isAlphanum || c = '_')
  else Text.isAlphanumeric c || c = '_'

def CharClass.contains (which : CharClass) (asciiOnly : Bool) (code : Nat) : Bool :=
  let c := Char.ofNat code
  match which with
  | .digit => if asciiOnly then c.isDigit else Text.isDecimalDigit c
  | .blank => if asciiOnly then Text.isAsciiBlank c else Text.isBlank c
  | .word => isWord asciiOnly code

namespace SetItem

/-- The first code point beyond the basic plane. -/
def beyond : Nat := 0x10000

/-- Whether an item matches a code point where case counts. -/
def matchesExactly (asciiOnly : Bool) (code : Nat) : SetItem → Bool
  | .code value => value = code
  | range low high => low ≤ code && code ≤ high
  | inClass which => which.contains asciiOnly code
  | outside which => !which.contains asciiOnly code

/-- Whether an item has letters with another case, or goes beyond the basic plane. -/
def isCased (folding : Folding) : SetItem → Bool
  | .code value => beyond ≤ value || folding.casedBetween value value
  | range low high => beyond ≤ high || folding.casedBetween low high
  | _ => false

/-- Whether an item matches a code point that has been lowered. Beyond the basic plane a single
character is not lowered, and a range also matches by capitals. -/
def matchesLowered (folding : Folding) (asciiOnly : Bool) (lowered : Nat) : SetItem → Bool
  | .code value => if beyond ≤ value then value = lowered else folding.meets lowered value
  | range low high =>
    (low ≤ lowered && lowered ≤ high) ||
      Folding.anyFrom (folding.meets lowered) low (min high (beyond - 1) + 1 - low) ||
      (beyond ≤ high &&
        (low ≤ Text.upperCode lowered && Text.upperCode lowered ≤ high))
  | item => matchesExactly asciiOnly lowered item

end SetItem

def setMatches (switches : Switches) (items : List SetItem) (code : Nat) : Bool :=
  let folding := Folding.under switches
  if switches.caseless && items.any (SetItem.isCased folding) then
    items.any (SetItem.matchesLowered folding switches.asciiOnly (folding.lower code))
  else items.any (SetItem.matchesExactly switches.asciiOnly code)

/-- Whether a single character of a pattern matches a code point. -/
def codeMatches (switches : Switches) (value code : Nat) : Bool :=
  let folding := Folding.under switches
  if switches.caseless && folding.casedBetween value value then
    folding.meets (folding.lower code) value
  else value = code

end CertApproval.Pattern
