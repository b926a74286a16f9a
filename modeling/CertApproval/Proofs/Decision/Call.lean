import CertApproval.Proofs.Decision.Judging
import Mathlib.Logic.Function.Iterate

/-!
A look at a request, one exchange with the cluster after the other, so that others may come
between them. Main statement: without others it ends as the run of all attempts does.
-/

namespace CertApproval.Control

open CertApproval.Cluster (Api Object Refusal Snapshot)
open CertApproval.Dns (Resolver replay)
open CertApproval.Retry (Ending Run)
open CertApproval.Review (Verdict)

/-- A write that is under way: the name that it goes to, what is written, and the verdict
that it carries. -/
structure Draft where
  target : String
  body : Object
  verdict : Verdict

/-- How far a look at a request is. The attempt has a number, and there may be more after
it. -/
inductive Progress where
  | reading (number left : Nat)
  | writing (number left : Nat) (draft : Draft)
  | ended (ending : Ending Failure Report)

/-- The write of a verdict onto an object, as it was read. -/
def Draft.of (name : String) (object : Object) (verdict : Verdict) : Draft :=
  ⟨name, object.addCondition (.ofCondition verdict.condition), verdict⟩

namespace Rules

/-- What follows an attempt: the end, or the next attempt. -/
def settle (rules : Rules) (number left : Nat) : Except Failure Report → Progress
  | .ok report => .ended (.done report)
  | .error failure =>
      match failure.passing?, left with
      | none, _ => .ended (.failed failure)
      | some _, 0 => .ended (.failed failure)
      | some _, left + 1 =>
          match rules.backoff.delay? (Int.ofNat number - 1) with
          | none => .ended .overflow
          | some _ => .reading (number + 1) left

def afterJudgement (rules : Rules) (name : String) (number left : Nat) (snapshot : Snapshot) :
    Judgement → Progress
  | .report outcome message =>
      rules.settle number left (.ok { name, outcome, message, attempts := Int.ofNat number })
  | .fail failure => rules.settle number left (.error failure)
  | .decide verdict =>
      match verdict.conditionFor? snapshot.conditions, snapshot.source with
      | none, _ => rules.settle number left (decided name (Int.ofNat number) verdict (.ok none))
      | some _, none =>
          rules.settle number left
            (decided name (Int.ofNat number) verdict (.error (.api (.noSource snapshot.name))))
      | some _, some object => .writing number left (.of snapshot.name object verdict)

variable {σ : Type}

def afterRead (rules : Rules) (resolver : Resolver σ) (name : String) (number left : Nat)
    (answer : Except Refusal Object) : StateM σ Progress :=
  match Api.readAnswer name answer with
  | .error failure => return rules.settle number left (.error (.cluster failure))
  | .ok none => return rules.settle number left (.ok (absentReport name (Int.ofNat number)))
  | .ok (some snapshot) =>
      rules.afterJudgement name number left snapshot <$> rules.judge resolver snapshot

def afterWrite (rules : Rules) (name : String) (number left : Nat) (draft : Draft)
    (reply : Except Refusal Unit) : Progress :=
  rules.settle number left
    (decided name (Int.ofNat number) draft.verdict
      (conditionWritten draft.verdict.condition (Api.writeAnswer draft.target reply)))

/-- One exchange with the cluster, and what follows it. -/
def exchange (rules : Rules) (api : Api σ) (resolver : Resolver σ) (name : String) :
    Progress × σ → Progress × σ
  | (.reading number left, state) =>
      let (answer, state) := api.read name state
      rules.afterRead resolver name number left answer state
  | (.writing number left draft, state) =>
      let (reply, state) := api.write draft.target draft.body state
      (rules.afterWrite name number left draft reply, state)
  | (.ended ending, state) => (.ended ending, state)

/-- Whatever a resolver does, a read leads to what it leads to with some answers. -/
theorem afterRead_replay (rules : Rules) (resolver : Resolver σ) (name : String)
    (number left : Nat) (answer : Except Refusal Object) (state : σ) :
    ∃ answers, (rules.afterRead replay name number left answer answers).1 =
      (rules.afterRead resolver name number left answer state).1 := by
  cases answered : Api.readAnswer name answer with
  | error failure =>
      exact ⟨[], by simp [afterRead, answered]⟩
  | ok found =>
      cases found with
      | none =>
          exact ⟨[], by simp [afterRead, answered]⟩
      | some snapshot =>
          obtain ⟨answers, same⟩ := rules.judge_replay resolver snapshot state
          refine ⟨answers, ?_⟩
          simp only [afterRead, answered]
          exact congrArg (rules.afterJudgement name number left snapshot) same

/-- What follows a judgement, and the write where there is one, is what follows its being
carried out. -/
theorem exchange_carryOut (rules : Rules) (api : Api σ) (resolver : Resolver σ) (name : String)
    (number left : Nat) (snapshot : Snapshot) (judgement : Judgement) (state : σ) :
    ∃ count,
      (rules.exchange api resolver name)^[count]
          (rules.afterJudgement name number left snapshot judgement, state) =
        (rules.settle number left
            (judgement.carryOut api snapshot name (Int.ofNat number) state).1,
          (judgement.carryOut api snapshot name (Int.ofNat number) state).2) := by
  cases judgement with
  | report outcome message =>
      exact ⟨0, rfl⟩
  | fail failure =>
      exact ⟨0, rfl⟩
  | decide verdict =>
      cases wanted : verdict.conditionFor? snapshot.conditions with
      | none =>
          refine ⟨0, ?_⟩
          simp [afterJudgement, Judgement.carryOut, writeDecision, wanted]
      | some condition =>
          obtain rfl := (Verdict.conditionFor?_eq_some.mp wanted).2
          cases source : snapshot.source with
          | none =>
              refine ⟨0, ?_⟩
              simp [afterJudgement, Judgement.carryOut, writeDecision, wanted, Api.decide, source,
                conditionWritten]
          | some object =>
              refine ⟨1, ?_⟩
              simp only [afterJudgement, Judgement.carryOut, writeDecision, wanted, Api.decide,
                source]
              rfl

/-- An attempt is an exchange or two. -/
theorem exchange_attempt (rules : Rules) (api : Api σ) (resolver : Resolver σ) (name : String)
    (number left : Nat) (state : σ) :
    ∃ count,
      (rules.exchange api resolver name)^[count] (.reading number left, state) =
        (rules.settle number left (rules.attempt api resolver name number state).1,
          (rules.attempt api resolver name number state).2) := by
  cases asked : api.read name state with
  | mk answer next =>
      cases answered : Api.readAnswer name answer with
      | error failure =>
          refine ⟨1, ?_⟩
          simp [exchange, afterRead, asked, answered, attempt, Api.get]
      | ok found =>
          cases found with
          | none =>
              refine ⟨1, ?_⟩
              simp [exchange, afterRead, asked, answered, attempt, Api.get]
          | some snapshot =>
              cases judged : rules.judge resolver snapshot next with
              | mk judgement rest =>
                  obtain ⟨count, carriedOut⟩ :=
                    exchange_carryOut rules api resolver name number left snapshot judgement rest
                  refine ⟨count + 1, ?_⟩
                  simpa [exchange, afterRead, asked, answered, judged, attempt, Api.get]
                    using carriedOut

/-- A look that is not disturbed ends as the run of its attempts does. -/
theorem exchange_run (rules : Rules) (api : Api σ) (resolver : Resolver σ) (name : String)
    (left number : Nat) (state : σ) :
    ∃ count,
      (rules.exchange api resolver name)^[count] (.reading number left, state) =
        (.ended (Run.continueFrom rules.backoff Failure.passing?
            (rules.attempt api resolver name) left number state).1.ending,
          (Run.continueFrom rules.backoff Failure.passing?
            (rules.attempt api resolver name) left number state).2) := by
  fun_induction Run.continueFrom rules.backoff Failure.passing?
      (rules.attempt api resolver name) left number state with
  | case1 left number state value next acted =>
      obtain ⟨count, exchanged⟩ := exchange_attempt rules api resolver name number left state
      refine ⟨count, ?_⟩
      simpa [acted, settle] using exchanged
  | case2 left number state fault next acted final =>
      obtain ⟨count, exchanged⟩ := exchange_attempt rules api resolver name number left state
      refine ⟨count, ?_⟩
      simpa [acted, settle, final] using exchanged
  | case3 number state fault next acted reason passing =>
      obtain ⟨count, exchanged⟩ := exchange_attempt rules api resolver name number 0 state
      refine ⟨count, ?_⟩
      simpa [acted, settle, passing] using exchanged
  | case4 number state fault next acted reason left passing tooLong =>
      obtain ⟨count, exchanged⟩ :=
        exchange_attempt rules api resolver name number (left + 1) state
      refine ⟨count, ?_⟩
      simpa only [acted, settle, passing, tooLong] using exchanged
  | case5 number state fault next acted reason left passing delay waited rest last ended
      inductionHypothesis =>
      obtain ⟨first, exchanged⟩ :=
        exchange_attempt rules api resolver name number (left + 1) state
      obtain ⟨more, exchangedMore⟩ := inductionHypothesis
      refine ⟨more + first, ?_⟩
      simp only [acted, settle, passing, waited] at exchanged
      rw [Function.iterate_add_apply, exchanged, exchangedMore, ended]
      rfl

/-- A look that is not disturbed, from its first attempt on. -/
theorem exchange_start (rules : Rules) (api : Api σ) (resolver : Resolver σ) (name : String)
    (state : σ) :
    ∃ count,
      (rules.exchange api resolver name)^[count]
          (.reading 1 (rules.backoff.maxAttempts - 1), state) =
        (.ended (rules.run api resolver name state).1.ending,
          (rules.run api resolver name state).2) :=
  exchange_run rules api resolver name (rules.backoff.maxAttempts - 1) 1 state

end Rules

end CertApproval.Control
