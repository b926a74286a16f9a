import CertApproval.Der.Value

/-!
Distinguished names: a sequence of sets of attributes. Loading a name checks its
structure and the strings of the restricted kinds; the attributes are turned into
texts later, and only that step can fail on the other kinds.
-/

namespace CertApproval.Request

open CertApproval.Der

/-- One attribute of a name. -/
structure Attribute where
  type : Oid
  value : Element
  deriving DecidableEq, Repr

abbrev Name := List (List Attribute)

/-- What an attribute says: a text, or a string of bits as it is encoded. -/
inductive AttributeText where
  | text (value : String)
  | bits (value : Bytes)
  deriving DecidableEq, Repr

/-- Why the attributes of a name cannot be turned into texts. -/
inductive NameFault where
  /-- A value that is no text, an empty set, or a repeated attribute. -/
  | unreadable
  /-- A string of bits under an attribute other than the unique identifier. -/
  | misplacedBits
  deriving DecidableEq, Repr

namespace Attribute

/-- Whether a value of a restricted kind keeps to its characters. -/
def isSoundValue (value : Element) : Bool :=
  if value.tag = .printableString then value.content.all isPrintableByte
  else if value.tag = .bmpString then (bmpText? value.content).isSome
  else if value.tag = .universalString then (universalText? value.content).isSome
  else true

def read? (element : Element) : Option Attribute :=
  match element.sequence? with
  | some [type, value] =>
    match type.oid? with
    | some type => if isSoundValue value then some ⟨type, value⟩ else none
    | none => none
  | _ => none

def write (item : Attribute) : Element :=
  .ofSequence [.ofOid item.type, item.value]

/-- The universal types whose values are taken as texts, strings of bits aside. -/
def textTypes : List Nat := [4, 12, 18, 19, 20, 22, 23, 24, 26, 28, 30]

/-- The text of an attribute. -/
def text (item : Attribute) : Except NameFault AttributeText :=
  let value := item.value
  if value.tag = .bitString then
    if item.type = Oid.uniqueIdentifier then .ok (.bits value.content)
    else .error .misplacedBits
  else if value.tag ≠ .primitive value.tag.number ∨ !textTypes.contains value.tag.number then
    .error .unreadable
  else
    let text? :=
      if value.tag = .bmpString then bmpText? value.content
      else if value.tag = .universalString then universalText? value.content
      else Bytes.toText? value.content
    match text? with
    | some text => .ok (.text text)
    | none => .error .unreadable

end Attribute

namespace Name

def read? (element : Element) : Option Name :=
  match element.sequence? with
  | some sets => sets.mapM fun set => (set.set?).bind fun members => members.mapM Attribute.read?
  | none => none

def write (name : Name) : Element :=
  .ofSequence (name.map fun set => .ofSet (set.map Attribute.write))

/-- Whether a list holds a member twice. -/
def hasRepeat {α : Type} [DecidableEq α] : List α → Bool
  | [] => false
  | a :: rest => rest.contains a || hasRepeat rest

/-- The texts of one set of attributes. A set has at least one attribute and no two that
say the same. -/
def setTexts (set : List Attribute) : Except NameFault (List (Oid × AttributeText)) :=
  match set.mapM fun item => item.text.map fun text => (item.type, text) with
  | .error fault => .error fault
  | .ok texts => if texts.isEmpty ∨ hasRepeat texts then .error .unreadable else .ok texts

/-- The texts of all attributes in order. -/
def texts (name : Name) : Except NameFault (List (Oid × AttributeText)) :=
  (name.mapM setTexts).map List.flatten

/-- The first common name of a name whose texts are given; without one, the empty text. -/
def commonName (texts : List (Oid × AttributeText)) : String :=
  match texts.lookup Oid.commonName with
  | some (.text text) => text
  | _ => ""

end Name

end CertApproval.Request
