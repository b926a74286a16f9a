import CertApproval.Net.Prefix
import CertApproval.Request.Name

/-!
The names of a subject beside its distinguished name: hosts, addresses, mailboxes,
resources and others. Reading checks the structure of every name of a list before any
of them is interpreted.
-/

namespace CertApproval.Request

open CertApproval.Der
open CertApproval.Net (Address Prefix)

/-- A name as it is encoded. -/
inductive GeneralName where
  | other (type : Oid) (value : Element)
  | email (text : String)
  | dns (text : String)
  | mailAddress (content : Bytes)
  | directory (name : Name)
  | party (content : Bytes)
  | uri (text : String)
  | address (content : Bytes)
  | registered (id : Oid)
  deriving DecidableEq, Repr

/-- A name as it is understood. -/
inductive Identity where
  | email (text : String)
  | dns (text : String)
  | uri (text : String)
  | address (address : Address)
  | network (range : Prefix)
  | other

/-- Why extensions cannot be interpreted. -/
inductive ExtensionFault where
  /-- A structure or a value that the rules of the extension do not allow. -/
  | malformed
  /-- A name of a kind that is not supported. -/
  | unsupportedName
  /-- A string of bits where a distinguished name needs a text. -/
  | misplacedBits
  /-- A feature of the transport that has no name. -/
  | unknownFeature
  /-- A bare address where a constraint needs a range. -/
  | unrangedAddress
  deriving DecidableEq, Repr

namespace ExtensionFault

def ofName : NameFault → ExtensionFault
  | .unreadable => malformed
  | .misplacedBits => misplacedBits

end ExtensionFault

namespace GeneralName

/-- Reads a name by its tag. -/
def read? (element : Element) : Option GeneralName :=
  let tag := element.tag
  let text := Bytes.toText? element.content
  if tag = .context true 0 then
    match Element.readAll? element.content with
    | some [type, value] =>
      match type.oid?, value.explicit? 0 with
      | some type, some value => some (other type value)
      | _, _ => none
    | _ => none
  else if tag = .context false 1 then text.map email
  else if tag = .context false 2 then text.map dns
  else if tag = .context true 3 then some (mailAddress element.content)
  else if tag = .context true 4 then
    ((element.explicit? 4).bind Name.read?).map directory
  else if tag = .context true 5 then some (party element.content)
  else if tag = .context false 6 then text.map uri
  else if tag = .context false 7 then some (address element.content)
  else if tag = .context false 8 then (Oid.read? element.content).map registered
  else none

def write : GeneralName → Element
  | other type value =>
    Element.compose (.context true 0) [.ofOid type, Element.compose (.context true 0) [value]]
  | email text => ⟨.context false 1, Bytes.ofText text⟩
  | dns text => ⟨.context false 2, Bytes.ofText text⟩
  | mailAddress content => ⟨.context true 3, content⟩
  | directory name => Element.compose (.context true 4) [name.write]
  | party content => ⟨.context true 5, content⟩
  | uri text => ⟨.context false 6, Bytes.ofText text⟩
  | address content => ⟨.context false 7, content⟩
  | registered id => ⟨.context false 8, id.write⟩

def readList? (elements : List Element) : Option (List GeneralName) := elements.mapM read?

/-- The number of leading ones of a mask that has no ones after them. -/
def maskLength? (mask width : Nat) : Option Nat :=
  (List.range (width + 1)).find? fun length => mask = Nat.pow 2 width - Nat.pow 2 (width - length)

/-- The range that an address and a mask of the same size stand for. No bit of the address may be
set outside the mask. -/
def rangeOfBytes? (content : Bytes) : Option Prefix :=
  let size := content.length / 2
  if content.length ≠ 8 ∧ content.length ≠ 32 then none
  else
    let mask := Bytes.toNat (content.drop size)
    match Address.ofBytes? (content.take size), maskLength? mask (size * 8) with
    | some base, some length =>
      match Prefix.make? base length with
      | some range => if range.base = base then some range else none
      | none => none
    | _, _ => none

def identity : GeneralName → Except ExtensionFault Identity
  | email text => .ok (.email text)
  | dns text => .ok (.dns text)
  | uri text => .ok (.uri text)
  | address content =>
    match Address.ofBytes? content with
    | some single => .ok (.address single)
    | none =>
      match rangeOfBytes? content with
      | some range => .ok (.network range)
      | none => .error .malformed
  | directory name =>
    match Name.texts name with
    | .ok _ => .ok .other
    | .error fault => .error (.ofName fault)
  | other _ _ | registered _ => .ok .other
  | mailAddress _ | party _ => .error .unsupportedName

def identities (names : List GeneralName) : Except ExtensionFault (List Identity) :=
  names.mapM identity

end GeneralName

end CertApproval.Request
