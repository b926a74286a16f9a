import CertApproval.Der.Element

/-!
Object identifiers: paths of numbers. The first two share the first number of the
encoding.
-/

namespace CertApproval.Der

structure Oid where
  arcs : List Nat
  deriving DecidableEq, Repr

namespace Oid

/-- The numbers of an encoding. -/
def readNumbers? : (fuel : Nat) → Bytes → Option (List Nat)
  | _, [] => some []
  | 0, _ :: _ => none
  | fuel + 1, bytes =>
    match readBase128? bytes with
    | none => none
    | some (number, rest) => (readNumbers? fuel rest).map (number :: ·)

/-- The longest content that is read. -/
def sizeLimit : Nat := 95

/-- Reads the content of an object identifier. -/
def read? (content : Bytes) : Option Oid :=
  if sizeLimit < content.length then none
  else
    match readNumbers? content.length content with
    | some (first :: rest) =>
      let lead := if first < 40 then 0 else if first < 80 then 1 else 2
      some ⟨lead :: (first - lead * 40) :: rest⟩
    | _ => none

def write (oid : Oid) : Bytes :=
  match oid.arcs with
  | first :: second :: rest => ((first * 40 + second) :: rest).flatMap base128
  | _ => []

def commonName : Oid := ⟨[2, 5, 4, 3]⟩
def uniqueIdentifier : Oid := ⟨[2, 5, 4, 45]⟩

/-- An identifier below that of certificate extensions. -/
def extension (number : Nat) : Oid := ⟨[2, 5, 29, number]⟩

/-- The attribute that carries the requested extensions. -/
def extensionRequest : Oid := ⟨[1, 2, 840, 113549, 1, 9, 14]⟩

/-- The same attribute under its other number. -/
def privateExtensionRequest : Oid := ⟨[1, 3, 6, 1, 4, 1, 311, 2, 1, 14]⟩

end Oid

end CertApproval.Der
