import CertApproval.Bytes
import CertApproval.Review.Decision

/-!
Requests for certificates as the cluster holds them. Every part may be missing.
-/

namespace CertApproval.Cluster

open CertApproval.Review (Condition)

/-- A condition as the cluster holds it. -/
structure StoredCondition where
  type : Option String := none
  status : Option String := none
  reason : Option String := none
  message : Option String := none
  deriving DecidableEq, Repr

/-- A condition with all its parts, as the cluster holds it. -/
def StoredCondition.ofCondition (condition : Condition) : StoredCondition where
  type := some condition.type
  status := some condition.status
  reason := some condition.reason
  message := some condition.message

/-- The status of a request, whose list of conditions may be missing. -/
structure Status where
  conditions : Option (List StoredCondition) := none
  deriving DecidableEq, Repr

/-- The signing request itself: a text, which is base-64 as a rule, or bytes. -/
inductive Payload where
  | text (value : String)
  | bytes (value : Bytes)
  deriving DecidableEq, Repr

/-- A request for a certificate as the cluster holds it. -/
structure Object where
  name : Option String := none
  uid : Option String := none
  version : Option String := none
  username : Option String := none
  signerName : Option String := none
  payload : Option Payload := none
  usages : Option (List String) := none
  expirationSeconds : Option Int := none
  status : Option Status := none
  deriving DecidableEq, Repr

namespace Object

/-- The conditions of a request, none where they are missing. -/
def conditions (object : Object) : List StoredCondition :=
  ((object.status.bind Status.conditions).getD [])

/-- A request with one more condition after those that it has. -/
def addCondition (object : Object) (condition : StoredCondition) : Object :=
  { object with status := some ⟨some (object.conditions ++ [condition])⟩ }

def atVersion (object : Object) (version : String) : Object :=
  { object with version := some version }

@[simp]
theorem conditions_addCondition (object : Object) (condition : StoredCondition) :
    (object.addCondition condition).conditions = object.conditions ++ [condition] := rfl

end Object

end CertApproval.Cluster
