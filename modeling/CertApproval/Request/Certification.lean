import CertApproval.Pem
import CertApproval.Request.Extension
import CertApproval.Request.PublicKey

/-!
Certification requests: a subject, its key and attributes, signed by that key. Loading
checks the structure alone.
-/

namespace CertApproval.Request

open CertApproval.Der

/-- A further attribute of a request: a kind and a set of values. -/
structure RequestAttribute where
  type : Oid
  values : List Element
  deriving DecidableEq, Repr

/-- What is signed. -/
structure Info where
  version : Nat
  subject : Name
  key : KeyInfo
  attributes : List RequestAttribute
  deriving DecidableEq, Repr

/-- A signed request. `signed` is the encoding that the signature covers. -/
structure Certification where
  info : Info
  signed : Bytes
  algorithm : Algorithm
  signature : BitString
  deriving DecidableEq, Repr

namespace RequestAttribute

def read? (element : Element) : Option RequestAttribute :=
  match element.sequence? with
  | some [type, values] =>
    match type.oid?, values.set? with
    | some type, some values => some ⟨type, values⟩
    | _, _ => none
  | _ => none

def write (item : RequestAttribute) : Element :=
  .ofSequence [.ofOid item.type, .ofSet item.values]

/-- Whether an attribute carries the requested extensions. -/
def isExtensionRequest (item : RequestAttribute) : Bool :=
  item.type = Oid.extensionRequest || item.type = Oid.privateExtensionRequest

/-- The extensions that an attribute carries. It has one value. -/
def extensions? (item : RequestAttribute) : Option (List Extension) :=
  match item.values with
  | [value] => (value.sequence?).bind fun elements => elements.mapM Extension.read?
  | _ => none

end RequestAttribute

namespace Info

def attributesTag : Tag := .context true 0

/-- A version number fits one byte. -/
def versionLimit : Nat := 256

def read? (element : Element) : Option Info :=
  match element.sequence? with
  | some [version, subject, key, attributes] =>
    match version.nat?, Name.read? subject, KeyInfo.read? key, attributes.inside? attributesTag with
    | some version, some subject, some key, some members =>
      if versionLimit ≤ version ∨ !Element.ascending members then none
      else (members.mapM RequestAttribute.read?).map fun items => ⟨version, subject, key, items⟩
    | _, _, _, _ => none
  | _ => none

def write (info : Info) : Element :=
  .ofSequence [.ofNat info.version, info.subject.write, info.key.write,
    Element.compose attributesTag (info.attributes.map RequestAttribute.write)]

/-- The extensions of the first attribute that carries any. Nothing results where that
attribute is broken. -/
def extensions? (info : Info) : Option (List Extension) :=
  match info.attributes.find? RequestAttribute.isExtensionRequest with
  | none => some []
  | some item => item.extensions?

end Info

namespace Certification

/-- Reads a request from its encoding. -/
def readDer? (bytes : Bytes) : Option Certification :=
  match (Element.readOne? bytes).bind Element.sequence? with
  | some [info, algorithm, signature] =>
    match Info.read? info, Algorithm.read? algorithm, signature.bits? with
    | some decoded, some algorithm, some signature =>
      some ⟨decoded, info.write, algorithm, signature⟩
    | _, _, _ => none
  | _ => none

def write (request : Certification) : Bytes :=
  (Element.ofSequence [request.info.write, request.algorithm.write,
    .ofBits request.signature]).write

/-- The mark by which an armoured request is known, wherever it stands. -/
def armourMark : Bytes := Bytes.ofText "-----BEGIN CERTIFICATE REQUEST-----"

/-- The labels of blocks that hold requests. -/
def labels : List String := ["CERTIFICATE REQUEST", "NEW CERTIFICATE REQUEST"]

/-- Reads a request from the first block that holds one. -/
def readPem? (bytes : Bytes) : Option Certification :=
  match Pem.readAll? bytes with
  | none => none
  | some blocks =>
    match blocks.find? fun block => labels.contains block.label with
    | some block => readDer? block.contents
    | none => none

/-- Reads a request, armoured or not. -/
def read? (bytes : Bytes) : Option Certification :=
  if Bytes.occursIn armourMark bytes then readPem? bytes else readDer? bytes

/-- The armoured form of an encoded request. -/
def armour (der : Bytes) : String := Pem.write ⟨"CERTIFICATE REQUEST", der⟩

/-- Whether the request is signed by its own key. -/
def isSignedBy (request : Certification) (key : PublicKey) : Bool :=
  key.verifies request.algorithm request.signed request.signature.bytes

end Certification

end CertApproval.Request
