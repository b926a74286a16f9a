import CertApproval.Fields.Record

/-!
How talking to the cluster fails, and what that means: a failure may pass, it may be a
conflict with another writer, which passes too, or it may be final.
-/

namespace CertApproval.Cluster

/-- What comes from the cluster in place of an answer. -/
inductive Refusal where
  /-- An answer with a status other than success. -/
  | status (code : Option Int) (reason : Option String)
  /-- There is no answer at all. -/
  | disconnected (cause : String)
  /-- A failure that nobody has prepared for. -/
  | crashed
  deriving DecidableEq, Repr

def Refusal.hasCode (expected : Int) : Refusal → Bool
  | status code _ => code = some expected
  | disconnected _ => false
  | crashed => false

/-- What was asked of the cluster. -/
inductive Action where
  | read (name : String)
  | decide (name : String)
  | watch
  deriving DecidableEq, Repr

/-- What is to be done about a failure. -/
inductive FaultKind where
  | transient
  | conflict
  | malformed
  deriving DecidableEq, Repr

/-- Whether the same may be tried again. -/
def FaultKind.retries : FaultKind → Bool
  | transient => true
  | conflict => true
  | malformed => false

/-- A failure of the cluster. -/
inductive ApiFault where
  | status (action : Action) (code : Option Int) (reason : Option String)
  | disconnected (action : Action) (cause : String)
  /-- There is no object that a decision could be added to. -/
  | noSource (name : String)
  deriving DecidableEq, Repr

/-- The status of a conflict with another writer. -/
def conflictCode : Int := 409

/-- The status of an object that is not there. -/
def missingCode : Int := 404

/-- The status of a version that the cluster has forgotten. -/
def goneCode : Int := 410

/-- The status of a server that is asked too often. -/
def throttledCode : Int := 429

/-- What a status means. -/
def kindOfCode (code : Int) : FaultKind :=
  if code = conflictCode then .conflict
  else if 400 ≤ code ∧ code < 500 ∧ code ≠ throttledCode then .malformed
  else .transient

namespace ApiFault

/-- What a failure means. An answer without a status may pass. -/
def kind : ApiFault → FaultKind
  | status _ code _ => kindOfCode (code.getD 0)
  | disconnected _ _ => .transient
  | noSource _ => .malformed

/-- What stands for a missing part of an answer. -/
def missingText : String := "None"

def actionText : Action → String
  | .read name => s!"读取 CSR {name}"
  | .decide name => s!"更新 CSR {name} 审批状态"
  | .watch => "监听 CSR"

/-- What is said of an action without an answer. -/
def disconnectedText : Action → String
  | .read name => s!"读取 CSR {name} 失败"
  | .decide name => s!"更新 CSR {name} 审批状态失败"
  | .watch => "监听 CSR 失败"

def message : ApiFault → String
  | status action code reason =>
    let number := code.getD 0
    let reason := reason.getD missingText
    s!"{actionText action} 失败 (HTTP {number}): {reason}"
  | disconnected action cause => s!"{disconnectedText action}: {cause}"
  | noSource name => s!"CSR {name} 缺少原始对象，无法写入审批结果"

end ApiFault

/-- How an exchange with the cluster fails. -/
inductive Failure where
  | api (fault : ApiFault)
  /-- The cluster holds something that cannot be read. -/
  | unreadable (issues : List Fields.Issue)
  | crashed
  deriving DecidableEq, Repr

/-- What a refusal of an action amounts to. -/
def Failure.ofRefusal (action : Action) : Refusal → Failure
  | .status code reason => .api (.status action code reason)
  | .disconnected cause => .api (.disconnected action cause)
  | .crashed => .crashed

end CertApproval.Cluster
