import CertApproval.Request.GeneralName

/-!
The extensions that a request asks for. All of them are interpreted, whether or not
anything of them is used: one that is malformed or stands twice spoils the request.
Extensions of unknown kinds are let through.
-/

namespace CertApproval.Request

open CertApproval.Der

/-- An extension as it is encoded. -/
structure Extension where
  id : Oid
  critical : Bool
  value : Bytes
  deriving DecidableEq, Repr

namespace Extension

def subjectAltName : Oid := Oid.extension 17

/-- Reads an extension. The mark that it is critical is written only when it is set. -/
def read? (element : Element) : Option Extension :=
  match element.sequence? with
  | some [id, value] =>
    match id.oid?, value.octets? with
    | some id, some value => some ⟨id, false, value⟩
    | _, _ => none
  | some [id, critical, value] =>
    match id.oid?, critical.bool?, value.octets? with
    | some id, some true, some value => some ⟨id, true, value⟩
    | _, _, _ => none
  | _ => none

/-- Writes an extension. -/
def write (extension : Extension) : Element :=
  .ofSequence ([.ofOid extension.id] ++
    (if extension.critical then [⟨.boolean, [0xFF]⟩] else []) ++
    [⟨.octetString, extension.value⟩])

/-- The outcome of interpreting an extension whose meaning is not used. -/
abbrev Verdict := Except ExtensionFault Unit

/-- Passes exactly if a condition holds. -/
def require (condition : Bool) : Verdict :=
  if condition then .ok () else .error .malformed

/-- Passes exactly if a value is there. -/
def requireSome {α : Type} (value : Option α) : Verdict := require value.isSome

def sequence? (value : Bytes) : Option (List Element) :=
  (Element.readOne? value).bind Element.sequence?

/-- The names of a sequence that is the whole of an extension. -/
def names? (value : Bytes) : Option (List GeneralName) :=
  (sequence? value).bind GeneralName.readList?

/-- Interprets names whose meaning is not used. -/
def checkNames (names : List GeneralName) : Verdict :=
  (GeneralName.identities names).map fun _ => ()

/-- Numbers that fit 64 bits. -/
def isShortNat (element : Element) : Bool :=
  match element.nat? with
  | some value => value < Nat.pow 2 64
  | none => false

/-- The content of an optional value under a context tag, and the values after it. -/
def optional (tag : Tag) : List Element → Option Element × List Element
  | [] => (none, [])
  | element :: rest => if element.tag = tag then (some element, rest) else (none, element :: rest)

/-- Whether an optional number under a context tag is well written. -/
def isOptionalNat (value : Option Element) : Bool :=
  match value with
  | none => true
  | some element => isShortNat ⟨.integer, element.content⟩

/-- Whether a subject may sign, and how long a chain below it may be. A length goes only with the
right to sign. -/
def checkBasicConstraints (value : Bytes) : Verdict :=
  match sequence? value with
  | some [] => .ok ()
  | some [mark] => require (mark.bool? = some true)
  | some [mark, length] => require (mark.bool? = some true && isShortNat length)
  | _ => .error .malformed

def hasBit (bits : BitString) (index : Nat) : Bool :=
  match bits.bytes[index / 8]? with
  | some byte => byte.toNat.testBit (7 - index % 8)
  | none => false

/-- The uses of a key. Bits 7 and 8 restrict the agreement on keys, bit 4. -/
def checkKeyUsage (value : Bytes) : Verdict :=
  match (Element.readOne? value).bind Element.bits? with
  | some bits => require (hasBit bits 4 || !(hasBit bits 7 || hasBit bits 8))
  | none => .error .malformed

/-- The purposes of a key. -/
def checkPurposes (value : Bytes) : Verdict :=
  match sequence? value with
  | some elements => require (elements.all fun element => element.oid?.isSome)
  | none => .error .malformed

/-- The key of the issuer: an identifier, or names together with a number. -/
def checkAuthorityKey (value : Bytes) : Verdict :=
  match sequence? value with
  | none => .error .malformed
  | some elements =>
    let (_, elements) := optional (.context false 0) elements
    let (issuer, elements) := optional (.context true 1) elements
    let (serial, elements) := optional (.context false 2) elements
    let serialSound := match serial with
      | none => true
      | some element => (Element.readNat? element.content).isSome
    if !elements.isEmpty ∨ !serialSound then .error .malformed
    else
      match issuer with
      | none => require serial.isNone
      | some issuer =>
        match (Element.readAll? issuer.content).bind GeneralName.readList? with
        | none => .error .malformed
        | some names =>
          match checkNames names with
          | .error fault => .error fault
          | .ok () => require serial.isSome

/-- Where to reach a service: pairs of a method and a name. -/
def checkAccess (value : Bytes) : Verdict :=
  let pair? (element : Element) : Option GeneralName :=
    match element.sequence? with
    | some [method, location] =>
      if method.oid?.isSome then GeneralName.read? location else none
    | _ => none
  match (sequence? value).bind fun elements => elements.mapM pair? with
  | some names => checkNames names
  | none => .error .malformed

/-- Limits on the policies of a chain; at least one limit is given. -/
def checkPolicyConstraints (value : Bytes) : Verdict :=
  match sequence? value with
  | none => .error .malformed
  | some elements =>
    let (required, elements) := optional (.context false 0) elements
    let (inhibited, elements) := optional (.context false 1) elements
    require (elements.isEmpty && isOptionalNat required && isOptionalNat inhibited &&
      (required.isSome || inhibited.isSome))

/-- The features of the transport that have a name. -/
def namedFeatures : List Nat := [5, 17]

/-- Features of the transport that the subject promises. -/
def checkFeatures (value : Bytes) : Verdict :=
  match (sequence? value).bind fun elements => elements.mapM Element.nat? with
  | none => .error .malformed
  | some features =>
    if features.all fun feature => feature < Nat.pow 2 64 then
      if features.all namedFeatures.contains then .ok () else .error .unknownFeature
    else .error .malformed

/-- The names of one branch of constraints. -/
def subtrees? (elements : List Element) : Option (List GeneralName) :=
  elements.mapM fun element =>
    match element.sequence? with
    | some (base :: bounds) =>
      let (least, bounds) := optional (.context false 0) bounds
      let (most, bounds) := optional (.context false 1) bounds
      let leastSound := match least with
        | none => true
        | some least => isShortNat ⟨.integer, least.content⟩ && least.content ≠ [0]
      if bounds.isEmpty && leastSound && isOptionalNat most then GeneralName.read? base else none
    | _ => none

/-- One branch of constraints: not empty, addresses with their ranges, and no stars in the
names of hosts. -/
def checkSubtrees (names : List GeneralName) : Verdict :=
  match GeneralName.identities names with
  | .error fault => .error fault
  | .ok identities =>
    if identities.isEmpty then .error .malformed
    else if identities.any fun
      | .address _ => true
      | _ => false
    then .error .unrangedAddress
    else require (identities.all fun
      | .dns text => !text.toList.contains '*'
      | _ => true)

/-- Constraints on the names below an issuer; at least one branch is given. -/
def checkNameConstraints (value : Bytes) : Verdict :=
  match sequence? value with
  | none => .error .malformed
  | some elements =>
    let (permitted, elements) := optional (.context true 0) elements
    let (excluded, elements) := optional (.context true 1) elements
    let branch? (element : Option Element) : Option (List (List GeneralName)) :=
      match element with
      | none => some []
      | some element => ((Element.readAll? element.content).bind subtrees?).map ([·])
    match branch? permitted, branch? excluded with
    | some permitted, some excluded =>
      if !elements.isEmpty ∨ (permitted ++ excluded).isEmpty then .error .malformed
      else (permitted ++ excluded).forM checkSubtrees
    | _, _ => .error .malformed

/-- The names of a place where revocations are published, if it is well written. -/
def publicationNames? (element : Element) : Option (List GeneralName) :=
  match element.sequence? with
  | none => none
  | some elements =>
    let (place, elements) := optional (.context true 0) elements
    let (reasons, elements) := optional (.context false 1) elements
    let (issuer, elements) := optional (.context true 2) elements
    let placeNames? := match place with
      | none => some []
      | some place =>
        match Element.readOne? place.content with
        | none => none
        | some inner =>
          match Element.readAll? inner.content with
          | none => none
          | some members =>
            if inner.tag = .context true 0 then GeneralName.readList? members
            else if inner.tag = .context true 1 ∧ Element.ascending members then
              (members.mapM Attribute.read?).map fun set => [.directory [set]]
            else none
    let issuerNames? := match issuer with
      | none => some []
      | some issuer => (Element.readAll? issuer.content).bind GeneralName.readList?
    let reasonsSound := match reasons with
      | none => true
      | some reasons => (Element.readBits? reasons.content).isSome
    match placeNames?, issuerNames? with
    | some placeNames, some issuerNames =>
      if elements.isEmpty && reasonsSound then some (placeNames ++ issuerNames) else none
    | _, _ => none

/-- Places where revocations are published; each has a name or an issuer. -/
def checkPublications (value : Bytes) : Verdict :=
  match (sequence? value).bind fun elements => elements.mapM publicationNames? with
  | none => .error .malformed
  | some places =>
    places.forM fun names =>
      match checkNames names with
      | .error fault => .error fault
      | .ok () => require !names.isEmpty

/-- A text that is shown to a reader. -/
def isDisplayText (element : Element) : Bool :=
  let ascii := element.content.all fun byte => byte < 0x80
  if element.tag = .ia5String ∨ element.tag = .primitive 26 then ascii
  else if element.tag = .utf8String then (Bytes.toText? element.content).isSome
  else if element.tag = .bmpString then (bmpText? element.content).isSome
  else false

/-- A reference to a notice: who wrote it, and numbers. -/
def isNoticeReference (element : Element) : Bool :=
  match element.sequence? with
  | some [organisation, numbers] =>
    isDisplayText organisation &&
      (match numbers.sequence? with
       | some numbers => numbers.all fun number => number.nat?.isSome
       | none => false)
  | _ => false

def isNotice (element : Element) : Bool :=
  match element.sequence? with
  | some [] => true
  | some [part] => isNoticeReference part || isDisplayText part
  | some [reference, text] => isNoticeReference reference && isDisplayText text
  | _ => false

/-- A qualifier of a policy: a resource or a notice, each under its own identifier. -/
def isQualifier (element : Element) : Bool :=
  match element.sequence? with
  | some [id, value] =>
    (id.oid? = some ⟨[1, 3, 6, 1, 5, 5, 7, 2, 1]⟩ && value.tag = .ia5String &&
      value.content.all fun byte => byte < 0x80) ||
    (id.oid? = some ⟨[1, 3, 6, 1, 5, 5, 7, 2, 2]⟩ && isNotice value)
  | _ => false

def checkPolicies (value : Bytes) : Verdict :=
  match sequence? value with
  | none => .error .malformed
  | some elements =>
    require (elements.all fun element =>
      match element.sequence? with
      | some [id] => id.oid?.isSome
      | some [id, qualifiers] =>
        id.oid?.isSome &&
          (match qualifiers.sequence? with
           | some qualifiers => qualifiers.all isQualifier
           | none => false)
      | _ => false)

/-- A template: an identifier and two numbers that may be absent. -/
def checkTemplate (value : Bytes) : Verdict :=
  let isVersion (element : Element) : Bool :=
    match element.nat? with
    | some value => value < Nat.pow 2 32
    | none => false
  match sequence? value with
  | some (id :: versions) =>
    require (id.oid?.isSome && versions.length ≤ 2 && versions.all isVersion)
  | _ => .error .malformed

/-- An identifier below that of the public-key infrastructure. -/
def infrastructure (arcs : List Nat) : Oid := ⟨[1, 3, 6, 1, 5, 5, 7] ++ arcs⟩

/-- The extensions whose values are interpreted, with their rules. -/
def rules : List (Oid × (Bytes → Verdict)) :=
  [(Oid.extension 14, fun value => requireSome ((Element.readOne? value).bind Element.octets?)),
   (Oid.extension 15, checkKeyUsage),
   (Oid.extension 18, fun value =>
      match names? value with
      | some names => checkNames names
      | none => .error .malformed),
   (Oid.extension 19, checkBasicConstraints),
   (Oid.extension 30, checkNameConstraints),
   (Oid.extension 31, checkPublications),
   (Oid.extension 32, checkPolicies),
   (Oid.extension 35, checkAuthorityKey),
   (Oid.extension 36, checkPolicyConstraints),
   (Oid.extension 37, checkPurposes),
   (Oid.extension 46, checkPublications),
   (Oid.extension 54, fun value =>
      require ((Element.readOne? value).map isShortNat = some true)),
   (infrastructure [1, 1], checkAccess),
   (infrastructure [1, 11], checkAccess),
   (infrastructure [1, 24], checkFeatures),
   (infrastructure [48, 1, 5], fun value =>
      require ((Element.readOne? value).map Element.isNull = some true)),
   (⟨[1, 3, 6, 1, 4, 1, 11129, 2, 4, 3]⟩, fun value =>
      require ((Element.readOne? value).map Element.isNull = some true)),
   (⟨[1, 3, 6, 1, 4, 1, 311, 21, 7]⟩, checkTemplate)]

/-- Interprets the names of an extension that lists them. -/
def readNames (value : Bytes) : Except ExtensionFault (List Identity) :=
  match names? value with
  | some names => GeneralName.identities names
  | none => .error .malformed

/-- Interprets one extension. Those of other kinds must be well formed but mean nothing here. -/
def interpret (extension : Extension) : Except ExtensionFault (Option (List Identity)) :=
  if extension.id = subjectAltName then (readNames extension.value).map some
  else
    match rules.lookup extension.id with
    | some rule => (rule extension.value).map fun _ => none
    | none => .ok none

/-- Interprets all extensions in order and gives the further names of the subject, if an
extension lists them. No two extensions are of one kind. -/
def interpretAll (extensions : List Extension) : Except ExtensionFault (Option (List Identity)) :=
  if Name.hasRepeat (extensions.map Extension.id) then .error .malformed
  else
    match extensions.mapM interpret with
    | .error fault => .error fault
    | .ok meanings => .ok (meanings.findSome? fun meaning => meaning)

end Extension

end CertApproval.Request
