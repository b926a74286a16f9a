import CertApproval.Review.Validation

/-!
What is written on a request after its review. A request that carries a decision already
keeps it.
-/

namespace CertApproval.Review

structure Condition where
  type : String
  status : String := "True"
  reason : String := ""
  message : String := ""
  deriving DecidableEq, Repr

namespace Condition

def approvedType : String := "Approved"

def deniedType : String := "Denied"

/-- The status of a condition that holds. -/
def trueStatus : String := "True"

/-- Whether a condition is a decision that holds. -/
def isTerminal (condition : Condition) : Bool :=
  (condition.type = approvedType || condition.type = deniedType) &&
    condition.status = trueStatus

/-- The first decision among conditions. -/
def terminal? (conditions : List Condition) : Option Condition := conditions.find? isTerminal

end Condition

namespace Verdict

def approvalMessage (verdict : Verdict) : String :=
  s!"kubelet 服务证书自动批准：{verdict.checks.length} 项校验全部通过"

/-- What a denial says: the reasons of all checks that failed. -/
def denialMessage (verdict : Verdict) : String :=
  "kubelet 服务证书自动拒绝：" ++ joinTexts "；" verdict.reasons

/-- The condition that says how a review came out. -/
def condition (verdict : Verdict) : Condition :=
  if verdict.approved then
    { type := Condition.approvedType, status := Condition.trueStatus, reason := "AutoApproved"
      message := verdict.approvalMessage }
  else
    { type := Condition.deniedType, status := Condition.trueStatus, reason := "AutoDenied"
      message := verdict.denialMessage }

/-- The condition to be written on a request with given conditions: none if there is a
decision already. -/
def conditionFor? (verdict : Verdict) (conditions : List Condition) : Option Condition :=
  if (Condition.terminal? conditions).isSome then none else some verdict.condition

end Verdict

end CertApproval.Review
