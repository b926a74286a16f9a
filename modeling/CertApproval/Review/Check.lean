import CertApproval.Dns.Lookup
import CertApproval.Review.Policy

/-!
The single checks of a review. Each looks at a part of the request and at a part of the
policy, and none depends on another.
-/

namespace CertApproval.Review

open CertApproval.Net (Address)
open CertApproval.Dns (Lookup Resolver)

/-- The checks, in the order in which they are made. -/
inductive CheckKind where
  | identityScope
  | dnsNameCount
  | namePattern
  | resolutionConsistency
  | hostnameConsistency
  | ipRange
  | duration
  deriving DecidableEq, Repr

def CheckKind.name : CheckKind → String
  | identityScope => "identity_scope"
  | dnsNameCount => "dns_name_count"
  | namePattern => "name_pattern"
  | resolutionConsistency => "resolution_consistency"
  | hostnameConsistency => "hostname_consistency"
  | ipRange => "ip_range"
  | duration => "duration"

/-- How a check came out. A check that failed has a reason. -/
structure CheckResult where
  name : String
  passed : Bool
  reason : String := ""
  deriving DecidableEq, Repr

namespace CheckResult

def pass (kind : CheckKind) : CheckResult := { name := kind.name, passed := true }

def fail (kind : CheckKind) (reason : String) : CheckResult :=
  { name := kind.name, passed := false, reason }

@[simp]
theorem name_pass (kind : CheckKind) : (pass kind).name = kind.name := rfl

@[simp]
theorem passed_pass (kind : CheckKind) : (pass kind).passed = true := rfl

@[simp]
theorem name_fail (kind : CheckKind) (reason : String) : (fail kind reason).name = kind.name := rfl

@[simp]
theorem passed_fail (kind : CheckKind) (reason : String) :
    (fail kind reason).passed = false := rfl

end CheckResult

/-- Texts with a separator between them. -/
def joinTexts (separator : String) (texts : List String) : String :=
  separator.intercalate texts

/-- What the user name of a node begins with. -/
def nodeUserLead : String := "system:node:"

/-- The name of the node that has a user name. -/
def nodeName? (username : String) : Option String :=
  let characters := username.toList
  let lead := nodeUserLead.toList
  if characters.take lead.length = lead ∧ lead.length < characters.length then
    some (String.ofList (characters.drop lead.length))
  else none

namespace Check

open CheckKind

/-- The sender is a node. -/
def identityScope (username : String) : CheckResult :=
  if (nodeName? username).isNone then
    .fail .identityScope s!"请求主体 {Text.quoted username} 不是 system:node:<节点名> 格式"
  else .pass .identityScope

/-- There is a name, and there are not too many. -/
def dnsNameCount (dnsNames : List String) (allowed : Int) : CheckResult :=
  let count := dnsNames.length
  if count = 0 then .fail .dnsNameCount "CSR 未包含任何 SAN DNS 名称"
  else if allowed < count then
    .fail .dnsNameCount s!"CSR 包含 {count} 个 SAN DNS 名称，超过允许的 {allowed} 个"
  else .pass .dnsNameCount

/-- Every name matches the pattern. -/
def namePattern (dnsNames : List String) (pattern : Pattern.Compiled) : CheckResult :=
  let mismatched := dnsNames.filter fun name => !pattern.matchesWhole name
  if mismatched.isEmpty then .pass .namePattern
  else
    let listed := joinTexts ", " mismatched
    .fail .namePattern
      s!"SAN DNS 名称 {listed} 不匹配 provider regex {Text.quoted pattern.source}"

/-- What the names of a request lead to: the addresses of all names together, and what is
said of the names that have none. -/
structure Resolved where
  addresses : List Address := []
  complaints : List String := []

/-- How the lookups of a request end. They go on after a name that has no addresses, and
stop at shutdown and where one crashes. -/
inductive Resolution where
  | complete (resolved : Resolved)
  | aborted (name : String)
  | crashed

/-- Looks up names in their order, with what the earlier ones led to. -/
def resolveAll {σ : Type} (resolver : Resolver σ) : List String → Resolved → StateM σ Resolution
  | [], resolved => return .complete resolved
  | name :: names, resolved => do
    match ← resolver name with
    | .found addresses =>
      resolveAll resolver names
        { resolved with addresses := addresses.foldl Net.insertAddress resolved.addresses }
    | .failed fault =>
      resolveAll resolver names
        { resolved with complaints := resolved.complaints ++ [fault.message] }
    | .aborted name => return .aborted name
    | .crashed => return .crashed

/-- The texts of addresses in order, or a word for none. -/
def addressesText (addresses : List Address) : String :=
  if addresses.isEmpty then "无" else joinTexts ", " (Net.sortedTexts addresses)

/-- Every name has addresses, and one of them is an address of the request. -/
def resolutionConsistency (resolved : Resolved) (addresses : List Address) : CheckResult :=
  if !resolved.complaints.isEmpty then
    let listed := joinTexts "; " resolved.complaints
    .fail .resolutionConsistency s!"DNS 解析失败: {listed}"
  else if resolved.addresses.any addresses.contains then .pass .resolutionConsistency
  else
    let found := addressesText resolved.addresses
    let requested := addressesText addresses
    .fail .resolutionConsistency
      s!"SAN DNS 名称解析得到的地址 [{found}] 与 SAN IP [{requested}] 无交集"

/-- The part of a name before its first point. -/
def hostPart (name : String) : String := String.ofList (name.toList.takeWhile (· ≠ '.'))

/-- Whether a name, or its part before the first point, is that of a node. The case of
letters does not count. -/
def namesHost (node name : String) : Bool :=
  Text.toLower name = Text.toLower node || hostPart (Text.toLower name) = Text.toLower node

/-- One of the names is that of the node. -/
def hostnameConsistency (node : Option String) (dnsNames : List String) : CheckResult :=
  match node with
  | none => .fail .hostnameConsistency "无法从请求主体中提取节点名，不能校验主机名"
  | some node =>
    if dnsNames.any (namesHost node) then .pass .hostnameConsistency
    else
      .fail .hostnameConsistency
        s!"节点名 {Text.quoted node} 与任何 SAN DNS 名称（或其主机名部分）都不一致"

/-- Every address lies in an allowed range. -/
def ipRange (addresses : List Address) (networks : List Net.Prefix) : CheckResult :=
  let outside := addresses.filter fun address => !networks.any (·.contains address)
  if outside.isEmpty then .pass .ipRange
  else
    let listed := joinTexts ", " (Net.sortedTexts outside)
    .fail .ipRange s!"SAN IP {listed} 不在允许的网段内"

/-- The lifetime is positive and not too long. -/
def duration (seconds maximum : Int) : CheckResult :=
  if seconds ≤ 0 then .fail .duration s!"请求的有效期 {seconds}s 必须大于 0"
  else if maximum < seconds then
    .fail .duration s!"请求的有效期 {seconds}s 超过允许的最大值 {maximum}s"
  else .pass .duration

end Check

end CertApproval.Review
