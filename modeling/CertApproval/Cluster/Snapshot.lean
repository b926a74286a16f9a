import CertApproval.Base64
import CertApproval.Cluster.Object
import CertApproval.Fields.Record

/-!
What the cluster holds of a request, made complete: a missing part has a value of its own,
except that a request without a name or a signer cannot be read, and neither can a condition
without a type.
-/

namespace CertApproval.Cluster

open CertApproval.Fields
open CertApproval.Review (Condition)

/-- A request at the time when it was read. -/
structure Snapshot where
  name : String
  uid : String
  version : String
  username : String
  signerName : String
  request : Bytes
  usages : List String
  expirationSeconds : Option Int
  conditions : List Condition
  /-- The request as the cluster holds it, which a decision is added to. -/
  source : Option Object

/-- A text that is not empty, or another one in its stead. -/
def textOr (absent : String) : Option String → String
  | none => absent
  | some text => if text.isEmpty then absent else text

/-- A condition made complete. -/
def StoredCondition.read (condition : StoredCondition) : Checked Condition :=
  match condition.type with
  | none => .error [⟨["type"], .stringType⟩]
  | some type => .ok
    { type
      status := textOr Condition.trueStatus condition.status
      reason := textOr "" condition.reason
      message := textOr "" condition.message }

/-- The bytes of a signing request. A text that is not base-64 stands for itself. -/
def Payload.toBytes : Payload → Bytes
  | bytes value => value
  | text value => (Base64.decode? value.toList).getD (Bytes.ofText value)

def presentText (place : String) : Option String → Checked String
  | some text => .ok text
  | none => .error [⟨[place], .stringType⟩]

namespace Snapshot

/-- A request made complete. The first condition that cannot be read is reported alone, other
faults all together. -/
def ofObject (object : Object) : Checked Snapshot := do
  let conditions ← object.conditions.mapM StoredCondition.read
  Checked.andThen
    ((presentText "name" object.name).map fun name signerName =>
      { name, signerName, conditions
        uid := object.uid.getD ""
        version := object.version.getD ""
        username := object.username.getD ""
        request := (object.payload.map Payload.toBytes).getD []
        usages := object.usages.getD []
        expirationSeconds := object.expirationSeconds
        source := some object })
    (presentText "signer_name" object.signerName)

end Snapshot

end CertApproval.Cluster
