import CertApproval.Cluster.Client
import CertApproval.Control.Report
import CertApproval.Retry.Run

/-!
Looking at one request: it is read, it is judged, and the decision is written. When the
write comes too late or a failure may pass, all three are done anew.
-/

namespace CertApproval.Control

open CertApproval.Cluster (Api Snapshot)
open CertApproval.Dns (Resolver)
open CertApproval.Retry (Backoff Run)
open CertApproval.Review (Condition Policy Subject Verdict)

/-- How requests are to be looked at. -/
structure Rules where
  policy : Policy
  signerName : String
  backoff : Backoff := .standard
  defaultExpiration : Int := Request.defaultExpirationSeconds

/-- How looking at a request fails. -/
inductive Failure where
  | cluster (failure : Cluster.Failure)
  /-- The request fails to be decoded in a way that nobody has prepared for. -/
  | undecodable (fault : Request.DecodeFault)
  /-- A lookup of a name fails in such a way. -/
  | crashed
  /-- The wait before the next attempt is more than a double can hold. -/
  | overflow

namespace Failure

/-- What is said of a failure that may pass. Other failures have no such text. -/
def passing? : Failure → Option String
  | cluster (.api fault) => if fault.kind.retries then some fault.message else none
  | cluster (.unreadable _) => none
  | cluster .crashed => none
  | undecodable _ => none
  | crashed => none
  | overflow => none

end Failure

/-- What is to be done with a request. -/
inductive Judgement where
  /-- There is nothing to write. -/
  | report (outcome : Outcome) (message : String)
  /-- The condition of a verdict is to be written. -/
  | decide (verdict : Verdict)
  | fail (failure : Failure)

variable {σ : Type}

namespace Rules

/-- What is known of the sender of a request. -/
def sender (rules : Rules) (snapshot : Snapshot) : Request.Sender where
  username := snapshot.username
  expiration := snapshot.expirationSeconds
  defaultExpiration := rules.defaultExpiration

/-- Why a request is left alone, if it is: it is for another signer, or it carries a
decision. -/
def leave? (rules : Rules) (snapshot : Snapshot) : Option (Outcome × String) :=
  if snapshot.signerName ≠ rules.signerName then
    some (.ignored, s!"签发者 {snapshot.signerName} 不受本控制器管理")
  else
    (Condition.terminal? snapshot.conditions).map fun condition =>
      (.alreadyDecided, s!"已存在终态条件 {condition.type}")

def reviewed (rules : Rules) (resolver : Resolver σ) (parsed : Request.Parsed) :
    StateM σ Judgement := do
  match ← Review.review resolver rules.policy (.ofParsed parsed) with
  | .complete verdict => return .decide verdict
  | .aborted name => return .report .aborted (Dns.abortedMessage name)
  | .crashed => return .fail .crashed

def judge (rules : Rules) (resolver : Resolver σ) (snapshot : Snapshot) : StateM σ Judgement :=
  match rules.leave? snapshot with
  | some (outcome, message) => return .report outcome message
  | none =>
    match Request.decode snapshot.request (rules.sender snapshot) with
    | .ok parsed => rules.reviewed resolver parsed
    | .error (.refused fault) => return .report .parseError fault.message
    | .error fault => return .fail (.undecodable fault)

end Rules

/-- The condition that was written, if the cluster says so. -/
def conditionWritten (condition : Condition) :
    Except Cluster.Failure Unit → Except Cluster.Failure (Option Condition)
  | .ok _ => .ok (some condition)
  | .error failure => .error failure

/-- Writes the condition of a verdict on a request that was read, and tells which one it was.
A request that was read with a decision keeps that one, and none is written. -/
def writeDecision (api : Api σ) (snapshot : Snapshot) (verdict : Verdict) :
    StateM σ (Except Cluster.Failure (Option Condition)) := do
  match verdict.conditionFor? snapshot.conditions with
  | none => return .ok none
  | some condition => return conditionWritten condition (← api.decide snapshot condition)

/-- What comes of a verdict, once it is known which condition was written for it, if any. -/
def decided (name : String) (attempt : Int) (verdict : Verdict) :
    Except Cluster.Failure (Option Condition) → Except Failure Report
  | .ok written => .ok
    { name, checks := verdict.checks, attempts := attempt
      outcome := if verdict.approved then .approved else .denied
      message := (written.map Condition.message).getD "" }
  | .error (.api fault) =>
    if fault.kind = .malformed then
      .ok { name, checks := verdict.checks, attempts := attempt
            outcome := .malformed, message := fault.message }
    else .error (.cluster (.api fault))
  | .error failure => .error (.cluster failure)

def Judgement.carryOut (api : Api σ) (snapshot : Snapshot) (name : String) (attempt : Int) :
    Judgement → StateM σ (Except Failure Report)
  | report outcome message => return .ok { name, outcome, message, attempts := attempt }
  | fail failure => return .error failure
  | decide verdict => do
    return decided name attempt verdict (← writeDecision api snapshot verdict)

def absentReport (name : String) (attempt : Int) : Report :=
  { name, outcome := .ignored, message := "CSR 不存在", attempts := attempt }

namespace Rules

/-- One attempt: reads, judges and writes. -/
def attempt (rules : Rules) (api : Api σ) (resolver : Resolver σ) (name : String)
    (number : Nat) : StateM σ (Except Failure Report) := do
  match ← api.get name with
  | .error failure => return .error (.cluster failure)
  | .ok none => return .ok (absentReport name (Int.ofNat number))
  | .ok (some snapshot) =>
    (← rules.judge resolver snapshot).carryOut api snapshot name (Int.ofNat number)

/-- Looks at a request in as many attempts as it takes, and keeps what happened. -/
def run (rules : Rules) (api : Api σ) (resolver : Resolver σ) (name : String) :
    StateM σ (Run Failure Report) :=
  Run.start rules.backoff Failure.passing? (rules.attempt api resolver name)

end Rules

def result (run : Run Failure Report) : Except Failure Report :=
  match run.ending with
  | .done report => .ok report
  | .failed failure => .error failure
  | .overflow => .error .overflow

end CertApproval.Control
