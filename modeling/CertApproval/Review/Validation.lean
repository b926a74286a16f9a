import CertApproval.Request.Decode
import CertApproval.Review.Check

/-!
A whole review: all checks that the policy asks for, none of them cut short by another.
-/

namespace CertApproval.Review

open CertApproval.Dns (Resolver)
open CertApproval.Net (Address)

/-- The parts of a request that a review looks at. -/
structure Subject where
  username : String
  dnsNames : List String
  addresses : List Address
  expirationSeconds : Int

/-- What a review looks at in a request. -/
def Subject.ofParsed (parsed : Request.Parsed) : Subject where
  username := parsed.username
  dnsNames := parsed.dnsNames
  addresses := parsed.addresses
  expirationSeconds := parsed.expirationSeconds

/-- The checks of a review, in order. -/
structure Verdict where
  checks : List CheckResult
  deriving DecidableEq, Repr

namespace Verdict

/-- A request is approved if every check passed. -/
def approved (verdict : Verdict) : Bool := verdict.checks.all (·.passed)

def failures (verdict : Verdict) : List CheckResult :=
  verdict.checks.filter fun check => !check.passed

def reasons (verdict : Verdict) : List String := verdict.failures.map (·.reason)

/-- How the checks of each name came out. Of several checks of one name the last counts. -/
def byName (verdict : Verdict) : List (String × Bool) :=
  verdict.checks.foldl
    (fun entries check =>
      if entries.any fun entry => entry.1 = check.name then
        entries.map fun entry =>
          if entry.1 = check.name then (check.name, check.passed) else entry
      else entries ++ [(check.name, check.passed)])
    []

end Verdict

namespace Policy

/-- The checks before the names are looked up. -/
def checksBefore (policy : Policy) (subject : Subject) : List CheckResult :=
  (if policy.bypassIdentity then [] else [Check.identityScope subject.username]) ++
    [Check.dnsNameCount subject.dnsNames policy.allowedNames,
     Check.namePattern subject.dnsNames policy.pattern]

/-- The checks after the names were looked up. Without a check of the sender there is no
name of a node to compare with. -/
def checksAfter (policy : Policy) (subject : Subject) : List CheckResult :=
  (if policy.bypassHostname || policy.bypassIdentity then []
    else [Check.hostnameConsistency (nodeName? subject.username) subject.dnsNames]) ++
    [Check.ipRange subject.addresses policy.networks,
     Check.duration subject.expirationSeconds policy.maximumExpiration]

end Policy

/-- How a review ends. -/
inductive Outcome where
  | complete (verdict : Verdict)
  /-- The process is shutting down, and nothing is concluded. -/
  | aborted (name : String)
  | crashed

/-- The check of the names by looking them up, if the policy asks for it. -/
def checkResolution {σ : Type} (resolver : Resolver σ) (policy : Policy) (subject : Subject) :
    StateM σ (Except Outcome (List CheckResult)) := do
  if policy.bypassResolution then return .ok []
  match ← Check.resolveAll resolver subject.dnsNames {} with
  | .complete resolved =>
    return .ok [Check.resolutionConsistency resolved subject.addresses]
  | .aborted name => return .error (.aborted name)
  | .crashed => return .error .crashed

def review {σ : Type} (resolver : Resolver σ) (policy : Policy) (subject : Subject) :
    StateM σ Outcome := do
  match ← checkResolution resolver policy subject with
  | .ok resolution =>
    return .complete
      ⟨policy.checksBefore subject ++ resolution ++ policy.checksAfter subject⟩
  | .error outcome => return outcome

end CertApproval.Review
