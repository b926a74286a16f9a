import CertApproval.Crypto.Digest
import CertApproval.Der.Value

/-!
Identifiers of algorithms, with the parameters that each of them admits.
-/

namespace CertApproval.Request

open CertApproval.Der
open CertApproval.Crypto (Digest)

structure Algorithm where
  id : Oid
  parameters : Option Element
  deriving DecidableEq, Repr

namespace Algorithm

def ellipticCurve : Oid := ⟨[1, 2, 840, 10045, 2, 1]⟩
def rsa : Oid := ⟨[1, 2, 840, 113549, 1, 1, 1]⟩
def rsaPss : Oid := ⟨[1, 2, 840, 113549, 1, 1, 10]⟩
def dsa : Oid := ⟨[1, 2, 840, 10040, 4, 1]⟩
def x25519 : Oid := ⟨[1, 3, 101, 110]⟩
def x448 : Oid := ⟨[1, 3, 101, 111]⟩
def ed25519 : Oid := ⟨[1, 3, 101, 112]⟩
def ed448 : Oid := ⟨[1, 3, 101, 113]⟩

/-- Signatures on elliptic curves, by hash function. -/
def curveSignatures : List (Oid × Digest) :=
  [(⟨[1, 2, 840, 10045, 4, 3, 1]⟩, .sha224), (⟨[1, 2, 840, 10045, 4, 3, 2]⟩, .sha256),
   (⟨[1, 2, 840, 10045, 4, 3, 3]⟩, .sha384), (⟨[1, 2, 840, 10045, 4, 3, 4]⟩, .sha512)]

/-- Signatures by exponentiation, by hash function. -/
def rsaSignatures : List (Oid × Digest) :=
  [(⟨[1, 2, 840, 113549, 1, 1, 14]⟩, .sha224), (⟨[1, 2, 840, 113549, 1, 1, 11]⟩, .sha256),
   (⟨[1, 2, 840, 113549, 1, 1, 12]⟩, .sha384), (⟨[1, 2, 840, 113549, 1, 1, 13]⟩, .sha512)]

/-- Algorithms that take no parameters at all: keys of fixed form, and signatures on
elliptic curves with the third family of hash functions. -/
def bare : List Oid :=
  [x25519, x448, ed25519, ed448] ++
    [9, 10, 11, 12].map fun number => ⟨[2, 16, 840, 1, 101, 3, 4, 3, number]⟩

/-- Algorithms whose parameters are absent or null. -/
def nullable : List Oid :=
  [rsa] ++ curveSignatures.map Prod.fst ++ rsaSignatures.map Prod.fst ++
    [⟨[1, 2, 840, 113549, 1, 1, 5]⟩, ⟨[1, 3, 14, 3, 2, 29]⟩, ⟨[1, 3, 14, 3, 2, 26]⟩,
     ⟨[1, 2, 840, 10040, 4, 3]⟩] ++
    ([1, 2, 3, 4, 7, 8, 9, 10].map fun number => ⟨[2, 16, 840, 1, 101, 3, 4, 2, number]⟩) ++
    ([1, 2, 3, 4, 13, 14, 15, 16].map fun number => ⟨[2, 16, 840, 1, 101, 3, 4, 3, number]⟩)

/-- Whether parameters name a curve, leave it implicit or describe one. -/
def isCurveParameters (parameters : Element) : Bool :=
  parameters.oid?.isSome || parameters.isNull || parameters.sequence?.isSome

/-- Whether parameters are three numbers. -/
def isNumberTriple (parameters : Element) : Bool :=
  match parameters.sequence? with
  | some [a, b, c] => a.nat?.isSome && b.nat?.isSome && c.nat?.isSome
  | _ => false

/-- Whether an algorithm admits its parameters. Unknown ones admit any. -/
def isSound (algorithm : Algorithm) : Bool :=
  if bare.contains algorithm.id then algorithm.parameters.isNone
  else if nullable.contains algorithm.id then algorithm.parameters.all Element.isNull
  else if algorithm.id = ellipticCurve then algorithm.parameters.any isCurveParameters
  else if algorithm.id = dsa then algorithm.parameters.any isNumberTriple
  else if algorithm.id = rsaPss then
    algorithm.parameters.all fun parameters => parameters.sequence?.isSome
  else true

def read? (element : Element) : Option Algorithm :=
  let algorithm? := match element.sequence? with
    | some [id] => id.oid?.map fun id => (⟨id, none⟩ : Algorithm)
    | some [id, parameters] => id.oid?.map fun id => (⟨id, some parameters⟩ : Algorithm)
    | _ => none
  algorithm?.filter isSound

def write (algorithm : Algorithm) : Element :=
  .ofSequence (.ofOid algorithm.id :: algorithm.parameters.toList)

end Algorithm

end CertApproval.Request
