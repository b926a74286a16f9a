import CertApproval.Fields.Record
import CertApproval.Review.Decision

/-!
Checks and conditions from records with named fields.
-/

namespace CertApproval.Review

open CertApproval.Fields

def CheckResult.ofRecord (record : Json) : Checked CheckResult :=
  Checked.andThen
    (Checked.andThen
      ((required record "name" readText).map CheckResult.mk)
      (required record "passed" readBool))
    (optional record "reason" "" readText)

def Condition.ofRecord (record : Json) : Checked Condition :=
  Checked.andThen
    (Checked.andThen
      (Checked.andThen
        ((required record "type" readText).map Condition.mk)
        (optional record "status" Condition.trueStatus readText))
      (optional record "reason" "" readText))
    (optional record "message" "" readText)

end CertApproval.Review
