import CertApproval.Cluster.Fault
import CertApproval.Cluster.Snapshot

/-!
Reading a request and adding a decision to it. The decision is written onto the object as it
was read, its version included, so that the cluster can refuse it when the object has
changed since.
-/

namespace CertApproval.Cluster

open CertApproval.Review (Condition)

/-- What a cluster answers. It may change its state with every answer. -/
structure Api (σ : Type) where
  read : String → StateM σ (Except Refusal Object)
  /-- Replaces the conditions of an object of a name by those of a body. -/
  write : String → Object → StateM σ (Except Refusal Unit)

namespace Api

variable {σ : Type}

/-- What an answer to a question for a request amounts to. A request that is not there is no
failure. -/
def readAnswer (name : String) : Except Refusal Object → Except Failure (Option Snapshot)
  | .ok object =>
    match Snapshot.ofObject object with
    | .ok snapshot => .ok (some snapshot)
    | .error issues => .error (.unreadable issues)
  | .error refusal =>
    if refusal.hasCode missingCode then .ok none
    else .error (.ofRefusal (.read name) refusal)

def get (api : Api σ) (name : String) : StateM σ (Except Failure (Option Snapshot)) := do
  return readAnswer name (← api.read name)

/-- What an answer to a write amounts to. -/
def writeAnswer (name : String) : Except Refusal Unit → Except Failure Unit
  | .ok _ => .ok ()
  | .error refusal => .error (.ofRefusal (.decide name) refusal)

/-- Adds a condition to a request that was read. -/
def decide (api : Api σ) (snapshot : Snapshot) (condition : Condition) :
    StateM σ (Except Failure Unit) := do
  match snapshot.source with
  | none => return .error (.api (.noSource snapshot.name))
  | some object =>
    return writeAnswer snapshot.name
      (← api.write snapshot.name (object.addCondition (.ofCondition condition)))

end Api

end CertApproval.Cluster
