import CertApproval.Text.CaseTables

/-!
Lower and upper case of whole texts. A capital sigma becomes a final sigma where a
cased letter stands before it and none after it, characters that have no bearing on
case being passed over on both sides.
-/

namespace CertApproval.Text

/-- Whether the nearest character that bears on case is a cased letter. -/
def meetsCasedLetter : List Char → Bool
  | [] => false
  | c :: rest =>
    if caseIgnorable.contains c.toNat then meetsCasedLetter rest
    else casedLetters.contains c.toNat

/-- The capital sigma, the only letter whose lower case depends on its neighbours. -/
def capitalSigma : Char := 'Σ'

/-- Lowers the characters that remain, given those before them, nearest first. -/
def lowerAfter (before : List Char) : List Char → List Char
  | [] => []
  | c :: rest =>
    let image :=
      if c = capitalSigma then
        if meetsCasedLetter before && !meetsCasedLetter rest then ['ς'] else ['σ']
      else lowerMap.image c
    image ++ lowerAfter (c :: before) rest

def toLower (text : String) : String :=
  String.ofList (lowerAfter [] text.toList)

def toUpper (text : String) : String :=
  String.ofList (text.toList.flatMap upperMap.image)

/-- The lower case of a code point on its own, cut to a single one. -/
def lowerCode (code : Nat) : Nat := lowerMap.codeImage code

/-- The upper case of a code point on its own, cut to a single one. -/
def upperCode (code : Nat) : Nat := upperMap.codeImage code

end CertApproval.Text
