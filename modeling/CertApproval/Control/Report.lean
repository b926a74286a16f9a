import CertApproval.Control.Journal
import CertApproval.Review.Intake

/-!
What came of looking at one request, and how it is reported.
-/

namespace CertApproval.Control

open CertApproval.Fields
open CertApproval.Review (CheckResult)

/-- What came of looking at a request. -/
inductive Outcome where
  | approved
  | denied
  /-- The request cannot be read. -/
  | parseError
  /-- The cluster refuses the decision for good. -/
  | malformed
  /-- A failure; the request will be looked at again. -/
  | transientError
  /-- The process is shutting down, and nothing was decided. -/
  | aborted
  | alreadyDecided
  /-- The request is gone, or it is not for this program. -/
  | ignored
  deriving DecidableEq, Repr

namespace Outcome

def word : Outcome → String
  | approved => "approved"
  | denied => "denied"
  | parseError => "parse_error"
  | malformed => "malformed"
  | transientError => "transient_error"
  | aborted => "aborted"
  | alreadyDecided => "already_decided"
  | ignored => "ignored"

def all : List Outcome :=
  [approved, denied, parseError, malformed, transientError, aborted, alreadyDecided, ignored]

def read : Json → Except FieldFault Outcome
  | .string text =>
    match all.find? fun outcome => outcome.word = text with
    | some outcome => .ok outcome
    | none => .error .unknownChoice
  | _ => .error .unknownChoice

end Outcome

/-- What came of looking at a request, and in how many attempts. -/
structure Report where
  name : String
  outcome : Outcome
  checks : List CheckResult := []
  message : String := ""
  attempts : Int := 1
  deriving DecidableEq, Repr

namespace Report

def ofRecord (record : Json) : Checked Report :=
  Checked.andThen
    (Checked.andThen
      (Checked.andThen
        (Checked.andThen
          ((required record "name" readText).map Report.mk)
          (required record "outcome" Outcome.read))
        (optionalList record "checks" CheckResult.ofRecord))
      (optional record "message" "" readText))
    (optional record "attempts" 1 readInt)

def checkText (check : CheckResult) : String :=
  if check.passed then s!"{check.name}=ok" else s!"{check.name}=fail"

/-- All checks and how they came out. -/
def summary (report : Report) : String := Review.joinTexts ", " (report.checks.map checkText)

def failedChecks (report : Report) : List String :=
  (report.checks.filter fun check => !check.passed).map (·.name)

/-- How the outcome is reported. -/
def notice (report : Report) : Notice :=
  match report.outcome with
  | .approved => ⟨.info, s!"已批准 CSR {report.name}（{report.summary}）"⟩
  | .denied => ⟨.info, s!"已拒绝 CSR {report.name}（{report.summary}）：{report.message}"⟩
  | .parseError => ⟨.error, s!"CSR {report.name} 保持 Pending，需要人工处理：{report.message}"⟩
  | .malformed => ⟨.error, s!"CSR {report.name} 保持 Pending，需要人工处理：{report.message}"⟩
  | .aborted =>
    ⟨.warning, s!"CSR {report.name} 的校验被关闭信号中止，保持 Pending：{report.message}"⟩
  | .transientError => ⟨.debug, s!"跳过 CSR {report.name}：{report.message}"⟩
  | .alreadyDecided => ⟨.debug, s!"跳过 CSR {report.name}：{report.message}"⟩
  | .ignored => ⟨.debug, s!"跳过 CSR {report.name}：{report.message}"⟩

end Report

end CertApproval.Control
