import CertApproval.Proofs.Decision.Judging

/-!
What a run asks of a cluster, question by question. Main statement: a run is a course of
attempts, each a read and perhaps a write of what was read; all but the last failed in a way
that may pass, and the last one ends the run.
-/

namespace CertApproval

/-- Steps in a part of a state, the rest of which stays as it is. -/
def beside {σ τ α : Type} (act : StateM σ α) : StateM (σ × τ) α := fun state =>
  ((act state.1).1, (act state.1).2, state.2)

/-! ## Questions and answers -/

namespace Cluster

/-- A question to a cluster, with its answer. -/
inductive Exchange where
  | read (name : String) (answer : Except Refusal Object)
  | write (name : String) (body : Object) (reply : Except Refusal Unit)

namespace Exchange

def isRead : Exchange → Bool
  | read _ _ => true
  | write _ _ _ => false

/-- Whether a write was accepted, as far as its reply says. -/
def Acknowledged : Exchange → Prop
  | read _ _ => False
  | write _ _ reply => reply = .ok ()

end Exchange

/-- A cluster that keeps what it was asked and what it answered. -/
def Api.recorded {σ : Type} (api : Api σ) : Api (σ × List Exchange) where
  read name state :=
    let (answer, next) := api.read name state.1
    (answer, next, state.2 ++ [.read name answer])
  write name body state :=
    let (reply, next) := api.write name body state.1
    (reply, next, state.2 ++ [.write name body reply])

section Recorded

variable {σ : Type} (api : Api σ) (name : String) (state : σ) (past : List Exchange)

@[simp]
theorem Api.read_recorded :
    api.recorded.read name (state, past) =
      ((api.read name state).1, (api.read name state).2,
        past ++ [.read name (api.read name state).1]) := rfl

@[simp]
theorem Api.write_recorded (body : Object) :
    api.recorded.write name body (state, past) =
      ((api.write name body state).1, (api.write name body state).2,
        past ++ [.write name body (api.write name body state).1]) := rfl

end Recorded

end Cluster

/-! ## Judgements beside a record -/

open CertApproval.Cluster (Api Exchange Object Refusal Snapshot)
open CertApproval.Dns (Lookup Resolver replay)
open CertApproval.Retry (Ending Run)
open CertApproval.Review (Condition Verdict)

section Beside

variable {σ τ α β : Type}

theorem beside_bind (first : StateM σ α) (next : α → StateM σ β) :
    (beside (first >>= next) : StateM (σ × τ) β) = beside first >>= fun a => beside (next a) := rfl

/-- Looks up names in a part of a state. -/
def Dns.Resolver.beside (resolver : Resolver σ) : Resolver (σ × τ) := fun name =>
  CertApproval.beside (resolver name)

theorem Review.resolveAll_beside (resolver : Resolver σ) (names : List String)
    (resolved : Check.Resolved) :
    (Check.resolveAll resolver.beside names resolved : StateM (σ × τ) Check.Resolution) =
      beside (Check.resolveAll resolver names resolved) := by
  induction names generalizing resolved with
  | nil =>
      rfl
  | cons name names inductionHypothesis =>
      rw [Check.resolveAll, Check.resolveAll, beside_bind]
      refine congrArg (beside (resolver name) >>= ·) (funext fun answer => ?_)
      cases answer with
      | found addresses | failed fault =>
          exact inductionHypothesis _
      | aborted other | crashed =>
          rfl

theorem Review.review_beside (resolver : Resolver σ) (policy : Policy) (subject : Subject) :
    (review resolver.beside policy subject : StateM (σ × τ) Outcome) =
      beside (review resolver policy subject) := by
  have checked : (checkResolution resolver.beside policy subject : StateM (σ × τ) _) =
      beside (checkResolution resolver policy subject) := by
    unfold checkResolution
    split
    · rfl
    · rw [resolveAll_beside, beside_bind]
      refine congrArg (beside (Check.resolveAll resolver subject.dnsNames {}) >>= ·) ?_
      funext resolution
      cases resolution <;> rfl
  rw [review, review, checked, beside_bind]
  refine congrArg (beside (checkResolution resolver policy subject) >>= ·) ?_
  funext outcome
  cases outcome <;> rfl

theorem Control.Rules.judge_beside (rules : Control.Rules) (resolver : Resolver σ)
    (snapshot : Snapshot) :
    (rules.judge resolver.beside snapshot : StateM (σ × τ) Control.Judgement) =
      beside (rules.judge resolver snapshot) := by
  unfold judge
  split
  · rfl
  · split
    · rw [reviewed, reviewed, Review.review_beside, beside_bind]
      refine congrArg (beside (Review.review resolver rules.policy (.ofParsed _)) >>= ·) ?_
      funext outcome
      cases outcome <;> rfl
    · rfl
    · rfl

end Beside

/-! ## Attempts and courses -/

namespace Control.Rules

/-- What an attempt asks, and what comes of it. -/
inductive Attempted (rules : Rules) (name : String) (number : Nat) :
    List Exchange → Except Failure Report → Prop
  | unread {answer : Except Refusal Object} {failure : Cluster.Failure}
      (answered : Api.readAnswer name answer = .error failure) :
      Attempted rules name number [.read name answer] (.error (.cluster failure))
  | absent {answer : Except Refusal Object} (answered : Api.readAnswer name answer = .ok none) :
      Attempted rules name number [.read name answer]
        (.ok (absentReport name (Int.ofNat number)))
  | reported {object : Object} {snapshot : Snapshot} {answers : List Lookup} {outcome : Outcome}
      {message : String} (read : Snapshot.ofObject object = .ok snapshot)
      (judged : (rules.judge replay snapshot answers).1 = .report outcome message) :
      Attempted rules name number [.read name (.ok object)]
        (.ok { name, outcome, message, attempts := Int.ofNat number })
  | stuck {object : Object} {snapshot : Snapshot} {answers : List Lookup} {failure : Failure}
      (read : Snapshot.ofObject object = .ok snapshot)
      (judged : (rules.judge replay snapshot answers).1 = .fail failure) :
      Attempted rules name number [.read name (.ok object)] (.error failure)
  | written {object : Object} {snapshot : Snapshot} {answers : List Lookup} {verdict : Verdict}
      {reply : Except Refusal Unit} (read : Snapshot.ofObject object = .ok snapshot)
      (judged : (rules.judge replay snapshot answers).1 = .decide verdict) :
      Attempted rules name number
        [.read name (.ok object),
          .write snapshot.name (object.addCondition (.ofCondition verdict.condition)) reply]
        (decided name (Int.ofNat number) verdict
          (conditionWritten verdict.condition (Api.writeAnswer snapshot.name reply)))

/-- What a run asks, and how it ends: attempts from a number on, with `left` more after the
first. -/
inductive Course (rules : Rules) (name : String) :
    (left number : Nat) → List Exchange → Ending Failure Report → Prop
  | done {left number : Nat} {calls : List Exchange} {report : Report}
      (attempted : rules.Attempted name number calls (.ok report)) :
      Course rules name left number calls (.done report)
  | failed {left number : Nat} {calls : List Exchange} {failure : Failure}
      (attempted : rules.Attempted name number calls (.error failure))
      (final : failure.passing? = none ∨ left = 0) :
      Course rules name left number calls (.failed failure)
  | overflow {left number : Nat} {calls : List Exchange} {failure : Failure}
      (attempted : rules.Attempted name number calls (.error failure))
      (passing : failure.passing?.isSome = true)
      (tooLong : rules.backoff.delay? (Int.ofNat number - 1) = none) :
      Course rules name (left + 1) number calls .overflow
  | again {left number : Nat} {calls later : List Exchange} {failure : Failure}
      {ending : Ending Failure Report}
      (attempted : rules.Attempted name number calls (.error failure))
      (passing : failure.passing?.isSome = true)
      (rest : Course rules name left (number + 1) later ending) :
      Course rules name (left + 1) number (calls ++ later) ending

variable {σ : Type}

/-- Whether an attempt has a request to review: it reads an object that is for the signer,
carries no decision and can be decoded. -/
structure TakesUp (rules : Rules) (api : Api σ) (name : String) (before : σ) (object : Object)
    (parsed : Request.Parsed) (between : σ) : Prop where
  read : api.read name before = (.ok object, between)
  reviewable : ∃ snapshot, Snapshot.ofObject object = .ok snapshot ∧
    snapshot.signerName = rules.signerName ∧
    Condition.terminal? snapshot.conditions = none ∧
    Request.decode snapshot.request (rules.sender snapshot) = .ok parsed

/-- An attempt asks no more than the record of it shows, and is not disturbed by being
recorded. -/
theorem attempt_recorded (rules : Rules) (api : Api σ) (resolver : Resolver σ) (name : String)
    (number : Nat) (state : σ) (past : List Exchange) :
    ∃ calls,
      rules.Attempted name number calls (rules.attempt api resolver name number state).1 ∧
        rules.attempt api.recorded resolver.beside name number (state, past) =
          ((rules.attempt api resolver name number state).1,
            (rules.attempt api resolver name number state).2, past ++ calls) := by
  cases asked : api.read name state with
  | mk answer next =>
      cases answered : Api.readAnswer name answer with
      | error failure =>
          refine ⟨[.read name answer], ?_, ?_⟩
          · simpa [attempt, Api.get, asked, answered] using Attempted.unread answered
          · simp [attempt, Api.get, asked, answered]
      | ok found =>
          cases found with
          | none =>
              refine ⟨[.read name answer], ?_, ?_⟩
              · simpa [attempt, Api.get, asked, answered] using Attempted.absent answered
              · simp [attempt, Api.get, asked, answered]
          | some snapshot =>
              obtain ⟨object, rfl, read⟩ := Api.object_of_readAnswer answered
              have source := (Snapshot.shows_of_ofObject read).source
              obtain ⟨answers, replayed⟩ := rules.judge_replay resolver snapshot next
              cases judged : rules.judge resolver snapshot next with
              | mk judgement rest =>
                  rw [judged] at replayed
                  cases judgement with
                  | report outcome message =>
                      refine ⟨[.read name (.ok object)], ?_, ?_⟩
                      · simpa [attempt, Api.get, asked, answered, judged, Judgement.carryOut]
                          using Attempted.reported read replayed
                      · simp [attempt, Api.get, asked, answered, judge_beside,
                          beside, judged, Judgement.carryOut]
                  | fail failure =>
                      refine ⟨[.read name (.ok object)], ?_, ?_⟩
                      · simpa [attempt, Api.get, asked, answered, judged, Judgement.carryOut]
                          using Attempted.stuck read replayed
                      · simp [attempt, Api.get, asked, answered, judge_beside,
                          beside, judged, Judgement.carryOut]
                  | decide verdict =>
                      have wanted := conditionFor?_of_judge replayed
                      let body := object.addCondition (.ofCondition verdict.condition)
                      refine ⟨[.read name (.ok object),
                        .write snapshot.name body (api.write snapshot.name body rest).1], ?_, ?_⟩
                      · simpa [attempt, Api.get, asked, answered, judged, Judgement.carryOut,
                          writeDecision, wanted, Api.decide, source]
                          using Attempted.written read replayed
                      · simp [attempt, Api.get, asked, answered, judge_beside, beside, judged,
                          Judgement.carryOut, writeDecision, wanted, Api.decide, source, body]

/-- A run asks no more than the record of it shows, and is not disturbed by being recorded. -/
theorem run_recorded (rules : Rules) (api : Api σ) (resolver : Resolver σ) (name : String)
    (left number : Nat) (state : σ) (past : List Exchange) :
    ∃ calls,
      rules.Course name left number calls
          (Run.continueFrom rules.backoff Failure.passing? (rules.attempt api resolver name)
            left number state).1.ending ∧
        Run.continueFrom rules.backoff Failure.passing?
            (rules.attempt api.recorded resolver.beside name) left number (state, past) =
          ((Run.continueFrom rules.backoff Failure.passing? (rules.attempt api resolver name)
              left number state).1,
            (Run.continueFrom rules.backoff Failure.passing? (rules.attempt api resolver name)
              left number state).2,
            past ++ calls) := by
  fun_induction Run.continueFrom rules.backoff Failure.passing?
      (rules.attempt api resolver name) left number state generalizing past with
  | case1 left number state report next acted =>
      obtain ⟨calls, attempted, recorded⟩ :=
        attempt_recorded rules api resolver name number state past
      rw [acted] at attempted recorded
      refine ⟨calls, .done attempted, ?_⟩
      rw [Run.continueFrom, recorded]
  | case2 left number state failure next acted final =>
      obtain ⟨calls, attempted, recorded⟩ :=
        attempt_recorded rules api resolver name number state past
      rw [acted] at attempted recorded
      refine ⟨calls, .failed attempted (Or.inl final), ?_⟩
      rw [Run.continueFrom, recorded]
      simp only [final]
  | case3 number state failure next acted reason passing =>
      obtain ⟨calls, attempted, recorded⟩ :=
        attempt_recorded rules api resolver name number state past
      rw [acted] at attempted recorded
      refine ⟨calls, .failed attempted (Or.inr rfl), ?_⟩
      rw [Run.continueFrom, recorded]
      simp only [passing]
  | case4 number state failure next acted reason left passing tooLong =>
      obtain ⟨calls, attempted, recorded⟩ :=
        attempt_recorded rules api resolver name number state past
      rw [acted] at attempted recorded
      refine ⟨calls, .overflow attempted (Option.isSome_of_eq_some passing) tooLong, ?_⟩
      rw [Run.continueFrom, recorded]
      simp only [passing, tooLong]
  | case5 number state failure next acted reason left passing delay waited rest last ended
      inductionHypothesis =>
      obtain ⟨calls, attempted, recorded⟩ :=
        attempt_recorded rules api resolver name number state past
      rw [acted] at attempted recorded
      obtain ⟨later, course, recordedLater⟩ := inductionHypothesis (past ++ calls)
      rw [ended] at course recordedLater
      refine ⟨calls ++ later, .again attempted (Option.isSome_of_eq_some passing) course, ?_⟩
      rw [Run.continueFrom, recorded]
      simp only [passing, waited, recordedLater, List.append_assoc]

/-- What a run asks of a cluster, with the answers. -/
def exchanges (rules : Rules) (api : Api σ) (resolver : Resolver σ) (name : String) (state : σ) :
    List Exchange :=
  (rules.run api.recorded resolver.beside name (state, [])).2.2

theorem run_recorded_eq (rules : Rules) (api : Api σ) (resolver : Resolver σ) (name : String)
    (state : σ) :
    rules.run api.recorded resolver.beside name (state, []) =
      ((rules.run api resolver name state).1, (rules.run api resolver name state).2,
        rules.exchanges api resolver name state) := by
  obtain ⟨calls, _, recorded⟩ :=
    run_recorded rules api resolver name (rules.backoff.maxAttempts - 1) 1 state []
  have same : rules.run api.recorded resolver.beside name (state, []) = _ := recorded
  rw [exchanges, same]
  rfl

theorem course_run (rules : Rules) (api : Api σ) (resolver : Resolver σ) (name : String)
    (state : σ) :
    rules.Course name (rules.backoff.maxAttempts - 1) 1
      (rules.exchanges api resolver name state)
      (rules.run api resolver name state).1.ending := by
  obtain ⟨calls, course, recorded⟩ :=
    run_recorded rules api resolver name (rules.backoff.maxAttempts - 1) 1 state []
  have kept : rules.exchanges api resolver name state = calls :=
    congrArg (fun result => result.2.2) recorded
  rw [kept]
  exact course

end Control.Rules

end CertApproval
