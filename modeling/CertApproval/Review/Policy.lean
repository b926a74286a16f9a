import CertApproval.Net.Prefix
import CertApproval.Pattern.Matcher
import CertApproval.Pattern.Reader
import CertApproval.Text.Blank
import CertApproval.Text.Quoted

/-!
The policy under which requests are reviewed, and how it is built from its settings. The
settings are checked in a fixed order: the pattern for names, the limits, and last the
ranges of addresses.
-/

namespace CertApproval.Review

open CertApproval.Net (Address Prefix)

/-- What a policy is built from. `prefixes` lists ranges with commas between them. -/
structure PolicySettings where
  pattern : String
  prefixes : String
  maximumExpiration : Int
  allowedNames : Int := 1
  bypassResolution : Bool := false
  bypassHostname : Bool := false
  bypassIdentity : Bool := false
  deriving DecidableEq, Repr

/-- Which requests are approved. -/
structure Policy where
  pattern : Pattern.Compiled
  networks : List Prefix
  maximumExpiration : Int
  allowedNames : Int
  bypassResolution : Bool
  bypassHostname : Bool
  bypassIdentity : Bool

/-- Which setting is refused. -/
inductive ConfigFault where
  | noPattern
  | badPattern (pattern : String)
  | expirationRange
  | nameCountRange
  | emptyPrefix (prefixes : String)
  | badPrefix (text : String)
  deriving DecidableEq, Repr

namespace ConfigFault

def message : ConfigFault → String
  | noPattern => "必须指定 provider regex"
  | badPattern pattern => s!"无法编译 provider regex {Text.quoted pattern}"
  | expirationRange => "最大有效期不能小于 0 秒，也不能超过 367 天"
  | nameCountRange => "允许的 DNS 名称数量必须在 1 到 1000 之间"
  | emptyPrefix prefixes => s!"IP 网段列表中存在空项: {Text.quoted prefixes}"
  | badPrefix text => s!"无法解析 IP 网段: {text}"

end ConfigFault

/-- How building a policy fails. Beside refusals there are patterns that fail in ways that
nobody has prepared for. -/
inductive PolicyFault where
  | refused (fault : ConfigFault)
  | patternCount
  | patternValue
  deriving DecidableEq, Repr

namespace Policy

/-- The greatest maximum for the lifetime of a certificate: 367 days in seconds. -/
def expirationLimit : Int := 367 * 24 * 3600

/-- The greatest number of names that may be allowed. -/
def nameCountLimit : Int := 1000

/-- Whether a maximum for the lifetime can be set. -/
def expirationFits (seconds : Int) : Bool := 0 ≤ seconds && seconds ≤ expirationLimit

/-- Whether a number of allowed names can be set. -/
def nameCountFits (count : Int) : Bool := 1 ≤ count && count ≤ nameCountLimit

/-- Reads one range of a list, the blanks around it dropped. -/
def readPrefix (prefixes : String) (item : List Char) : Except ConfigFault Prefix :=
  let text := String.ofList (Text.trimBoth Text.isBlank item)
  if text.isEmpty then .error (.emptyPrefix prefixes)
  else
    match Prefix.read? text with
    | some range => .ok range
    | none => .error (.badPrefix text)

/-- Reads a list of ranges with commas between them. The first bad one is reported. -/
def readPrefixes (prefixes : String) : Except ConfigFault (List Prefix) :=
  (Text.splitAtChar ',' prefixes.toList).mapM (readPrefix prefixes)

/-- Reads the pattern for names, which must not be empty. -/
def readPattern (naming : Pattern.Naming) (text : String) : Except PolicyFault Pattern.Compiled :=
  if text.isEmpty then .error (.refused .noPattern)
  else
    match Pattern.compile naming text with
    | .ok pattern => .ok pattern
    | .error .malformed => .error (.refused (.badPattern text))
    | .error .countTooLarge => .error .patternCount
    | .error .numeralTooLong => .error .patternValue
    | .error .conflictingSwitches => .error .patternValue

/-- Builds a policy. Characters in its pattern may be given by their names. -/
def build (naming : Pattern.Naming) (settings : PolicySettings) : Except PolicyFault Policy := do
  let pattern ← readPattern naming settings.pattern
  if !expirationFits settings.maximumExpiration then throw (.refused .expirationRange)
  if !nameCountFits settings.allowedNames then throw (.refused .nameCountRange)
  match readPrefixes settings.prefixes with
  | .error fault => throw (.refused fault)
  | .ok networks =>
    return {
      pattern, networks
      maximumExpiration := settings.maximumExpiration
      allowedNames := settings.allowedNames
      bypassResolution := settings.bypassResolution
      bypassHostname := settings.bypassHostname
      bypassIdentity := settings.bypassIdentity }

/-- Whether an address lies in one of the ranges. -/
def allows (policy : Policy) (address : Address) : Bool :=
  policy.networks.any fun range => range.contains address

/-- Whether a name matches the pattern as a whole. -/
def matchesName (policy : Policy) (name : String) : Bool := policy.pattern.matchesWhole name

end Policy

end CertApproval.Review
