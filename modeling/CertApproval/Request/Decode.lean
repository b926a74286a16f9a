import CertApproval.Request.Certification

/-!
Decoding a request for review: who the subject is and which further names it asks for.
The causes of a refusal are tried in a fixed order: the structure, the subject, the key,
the signature, and last the extensions.
-/

namespace CertApproval.Request

open CertApproval.Der
open CertApproval.Net (Address)

/-- What a request says, with what is known of its sender. -/
structure Parsed where
  commonName : String
  dnsNames : List String
  addresses : List Address
  emails : List String
  uris : List String
  expirationSeconds : Int
  username : String
  deriving DecidableEq, Repr

/-- Why a request is refused. -/
inductive ParseFault where
  | empty
  | malformed
  | noSubject
  | badKey
  | badSignature
  | badExtensions
  | addressRange
  deriving DecidableEq, Repr

namespace ParseFault

def message : ParseFault → String
  | empty => "CSR 内容为空"
  | malformed => "无效的 CSR 格式"
  | noSubject => "CSR 缺少主题 (subject)"
  | badKey => "CSR 公钥无法加载"
  | badSignature => "CSR 签名校验失败"
  | badExtensions => "CSR 的 SAN 扩展无法解析"
  | addressRange => "CSR 的 SAN IP 条目不是单个地址"

end ParseFault

/-- How decoding fails. Only the first kind is a refusal with a reason; the others are
failures that nobody has prepared for. -/
inductive DecodeFault where
  | refused (fault : ParseFault)
  /-- A version number other than zero. -/
  | unknownVersion
  /-- A subject with a value that is no text, or with an attribute twice. -/
  | unreadableSubject
  /-- A string of bits where a name needs a text, in the subject or in an extension. -/
  | misplacedBits
  /-- A feature of the transport that has no name. -/
  | unknownFeature
  /-- A bare address where a constraint needs a range. -/
  | unrangedAddress
  deriving DecidableEq, Repr

namespace DecodeFault

def ofName : NameFault → DecodeFault
  | .unreadable => unreadableSubject
  | .misplacedBits => misplacedBits

def ofExtension : ExtensionFault → DecodeFault
  | .malformed => refused .badExtensions
  | .unsupportedName => refused .badExtensions
  | .misplacedBits => misplacedBits
  | .unknownFeature => unknownFeature
  | .unrangedAddress => unrangedAddress

end DecodeFault

/-- What a request says beside the subject, by the kinds of names. -/
structure FurtherNames where
  dnsNames : List String
  addresses : List Address
  emails : List String
  uris : List String

namespace FurtherNames

/-- The names of the kind that `pick` picks, in order. -/
def ofKind (pick : Identity → Option String) (identities : List Identity) : List String :=
  identities.filterMap pick

def dnsName? : Identity → Option String
  | .dns text => some text
  | _ => none

def email? : Identity → Option String
  | .email text => some text
  | _ => none

def uri? : Identity → Option String
  | .uri text => some text
  | _ => none

def address? : Identity → Option Address
  | .address address => some address
  | _ => none

def isNetwork : Identity → Bool
  | .network _ => true
  | _ => false

/-- Sorts names by kind. Ranges of addresses are refused, and an address that stands twice
counts once. -/
def ofIdentities (identities : List Identity) : Except DecodeFault FurtherNames :=
  if identities.any isNetwork then .error (.refused .addressRange)
  else .ok
    { dnsNames := ofKind dnsName? identities
      addresses := Net.addressSet (identities.filterMap address?)
      emails := ofKind email? identities
      uris := ofKind uri? identities }

end FurtherNames

/-- The further names that a request asks for. -/
def furtherNames (info : Info) : Except DecodeFault FurtherNames :=
  match info.extensions? with
  | none => .error (.refused .badExtensions)
  | some extensions =>
    match Extension.interpretAll extensions with
    | .error fault => .error (.ofExtension fault)
    | .ok identities => FurtherNames.ofIdentities (identities.getD [])

/-- The texts of the subject, which has at least one attribute. -/
def subjectTexts (info : Info) : Except DecodeFault (List (Oid × AttributeText)) :=
  match Name.texts info.subject with
  | .error fault => .error (.ofName fault)
  | .ok [] => .error (.refused .noSubject)
  | .ok texts => .ok texts

/-- Refuses a request whose key does not load or did not sign it. -/
def authenticate (request : Certification) : Except DecodeFault Unit :=
  match request.info.key.load? with
  | none => .error (.refused .badKey)
  | some key =>
    if request.isSignedBy key then .ok () else .error (.refused .badSignature)

/-- Loads a request. Only requests of version zero are known. -/
def load (bytes : Bytes) : Except DecodeFault Certification :=
  if bytes.isEmpty then .error (.refused .empty)
  else
    match Certification.read? bytes with
    | none => .error (.refused .malformed)
    | some request => if request.info.version = 0 then .ok request else .error .unknownVersion

/-- What is known of a request apart from its bytes. `expiration` is the lifetime that it
asks for, if any. -/
structure Sender where
  username : String
  expiration : Option Int := none
  defaultExpiration : Int

/-- The lifetime of a certificate whose request asks for none: a year. -/
def defaultExpirationSeconds : Int := 365 * 24 * 3600

/-- Decodes a request. -/
def decode (bytes : Bytes) (sender : Sender) : Except DecodeFault Parsed := do
  let request ← load bytes
  let texts ← subjectTexts request.info
  authenticate request
  let names ← furtherNames request.info
  return {
    commonName := Name.commonName texts
    dnsNames := names.dnsNames
    addresses := names.addresses
    emails := names.emails
    uris := names.uris
    expirationSeconds := sender.expiration.getD sender.defaultExpiration
    username := sender.username }

end CertApproval.Request
