import CertApproval.Proofs.Cluster.Refusals
import CertApproval.Proofs.Report.Course
import CertApproval.Cluster.Server
import CertApproval.Proofs.Decision.Accepted

/-!
What the report of a run says of the cluster. Main statement: reports are true of the questions
that led to them. A decision is reported exactly if the last question was a write of that
decision and was answered so, and a run without a report tried as often as it may.
-/

namespace CertApproval

/-! ## What answers mean -/

namespace Cluster

namespace Exchange

/-- The condition that a write adds which was accepted. -/
def decision? : Exchange → Option StoredCondition
  | read _ _ | write _ _ (.error _) => none
  | write _ body (.ok _) => body.conditions.getLast?

/-- Whether a write of a decision was accepted. -/
def Decides (type message : String) (exchange : Exchange) : Prop :=
  ∃ condition, exchange.decision? = some condition ∧
    condition.type = some type ∧ condition.message = some message

/-- Whether a write was refused for good. -/
def Rejected : Exchange → Prop
  | read _ _ | write _ _ (.ok _) => False
  | write _ _ (.error refusal) => refusal.IsFinal

end Exchange

theorem Exchange.not_acknowledged_of_isRead {call : Exchange} (isRead : call.isRead = true) :
    ¬call.Acknowledged := by
  cases call with
  | read name answer =>
      exact id
  | write target body reply =>
      cases isRead

end Cluster

namespace Control

open CertApproval.Cluster (Api Exchange Object Refusal Server Snapshot)
open CertApproval.Control.Scene (nodeAddress nodeObject nodeRules)
open CertApproval.Dns (Lookup Resolver replay)
open CertApproval.Retry (Ending Run)
open CertApproval.Review (Condition Verdict)

/-! ## What an attempt tells -/

/-- Whether nothing is written with an outcome. -/
def Outcome.Idle : Outcome → Prop
  | .ignored | .alreadyDecided | .parseError | .aborted => True
  | .approved | .denied | .malformed | .transientError => False

/-- The decision that an outcome reports. -/
def Outcome.decision? : Outcome → Option String
  | .approved => some Condition.approvedType
  | .denied => some Condition.deniedType
  | .parseError | .malformed | .transientError | .aborted | .alreadyDecided | .ignored => none

theorem Outcome.decision?_eq_approved (outcome : Outcome) :
    outcome.decision? = some Condition.approvedType ↔ outcome = .approved := by
  cases outcome <;> decide

theorem Outcome.decision?_eq_denied (outcome : Outcome) :
    outcome.decision? = some Condition.deniedType ↔ outcome = .denied := by
  cases outcome <;> decide

/-- Whether a result is true of the last question and its answer. -/
structure Tells (last : Exchange) (result : Except Failure Report) : Prop where
  decided_iff : ∀ type message,
    (∃ report, result = .ok report ∧ report.outcome.decision? = some type ∧
      report.message = message) ↔ last.Decides type message
  malformed_iff : (∃ report, result = .ok report ∧ report.outcome = .malformed) ↔ last.Rejected
  idle : ∀ report, result = .ok report → report.outcome.Idle →
    last.isRead = true ∧ report.checks = []
  settled : ∀ report, result = .ok report → report.outcome ≠ .transientError
  said : ∀ report, result = .ok report → report.outcome.decision?.isSome = true →
    report.message ≠ ""
  acknowledged : last.Acknowledged → ∃ report, result = .ok report

theorem Tells.read_error (name : String) (answer : Except Refusal Object) (failure : Failure) :
    Tells (.read name answer) (.error failure) := by
  constructor <;>
    simp [Exchange.Decides, Exchange.decision?, Exchange.Rejected, Exchange.Acknowledged]

theorem Tells.error {last : Exchange} {failure : Failure} (tells : Tells last (.error failure))
    (other : Failure) : Tells last (.error other) where
  decided_iff type message := by simpa using tells.decided_iff type message
  malformed_iff := by simpa using tells.malformed_iff
  idle := by simp
  settled := by simp
  said := by simp
  acknowledged := by simpa using tells.acknowledged

theorem Tells.read_idle (name : String) (answer : Except Refusal Object) {report : Report}
    (isIdle : report.outcome.Idle) (noChecks : report.checks = []) :
    Tells (.read name answer) (.ok report) := by
  constructor
  · intro type message
    cases outcome : report.outcome <;>
      simp_all [Outcome.Idle, Outcome.decision?, Exchange.Decides, Exchange.decision?]
  · cases outcome : report.outcome <;> simp_all [Outcome.Idle, Exchange.Rejected]
  · simp [Exchange.isRead, noChecks]
  · cases outcome : report.outcome <;> simp_all [Outcome.Idle]
  · cases outcome : report.outcome <;> simp_all [Outcome.Idle, Outcome.decision?]
  · simp [Exchange.Acknowledged]

/-- What is made of the answer to a write is true of it. -/
theorem Tells.written (name target : String) (number : Int) (object : Object) (verdict : Verdict)
    (reply : Except Refusal Unit) :
    Tells (.write target (object.addCondition (.ofCondition verdict.condition)) reply)
      (decided name number verdict
        (conditionWritten verdict.condition (Api.writeAnswer target reply))) := by
  cases reply with
  | ok accepted =>
      cases approved : verdict.approved <;>
        constructor <;>
        simp [decided, conditionWritten, Api.writeAnswer, approved, Outcome.decision?,
          Outcome.Idle, Exchange.Decides, Exchange.decision?, Exchange.Rejected,
          Cluster.StoredCondition.ofCondition, Review.type_condition,
          Verdict.message_condition_ne]
  | error refusal =>
      rcases Cluster.Failure.ofRefusal_cases (.decide target) refusal with
        ⟨final, fault, means, kind⟩ | ⟨notFinal, _, fault, means, retries⟩ | ⟨rfl, means⟩
      · constructor <;>
          simp [decided, conditionWritten, Api.writeAnswer, means, kind, Outcome.decision?,
            Outcome.Idle, Exchange.Decides, Exchange.decision?, Exchange.Rejected, final]
      · have kind := (Cluster.FaultKind.retries_iff _).mp retries
        constructor <;>
          simp [decided, conditionWritten, Api.writeAnswer, means, kind, Exchange.Decides,
            Exchange.decision?, Exchange.Rejected, notFinal, Exchange.Acknowledged]
      · constructor <;>
          simp [decided, conditionWritten, Api.writeAnswer, means, Exchange.Decides,
            Exchange.decision?, Exchange.Rejected, Refusal.IsFinal, Exchange.Acknowledged]

namespace Rules

variable {rules : Rules} {name : String} {left number : Nat} {calls : List Exchange}
  {result : Except Failure Report} {ending : Ending Failure Report}

theorem idle_of_judge {resolver : Resolver (List Lookup)} {snapshot : Snapshot}
    {answers : List Lookup} {outcome : Outcome} {message : String}
    (judged : (rules.judge resolver snapshot answers).1 = .report outcome message) :
    outcome.Idle := by
  have ways := judged ▸ rules.judged_judge resolver snapshot answers
  cases ways with
  | leave left =>
      unfold leave? at left
      split at left
      · cases left
        trivial
      · obtain ⟨condition, _, same⟩ := Option.map_eq_some_iff.mp left
        cases same
        trivial
  | refused _ _ | aborted _ _ _ =>
      trivial

theorem crashed_of_judge {resolver : Resolver (List Lookup)} {snapshot : Snapshot}
    {answers : List Lookup} {failure : Failure}
    (judged : (rules.judge resolver snapshot answers).1 = .fail failure) :
    failure = .crashed ∨
      ∃ fault, Request.decode snapshot.request (rules.sender snapshot) = .error fault ∧
        ∀ cause, fault ≠ .refused cause := by
  have ways := judged ▸ rules.judged_judge resolver snapshot answers
  cases ways with
  | undecodable _ undecoded notRefused =>
      exact Or.inr ⟨_, undecoded, notRefused⟩
  | crashed _ _ _ =>
      exact Or.inl rfl

theorem Attempted.tells (attempted : rules.Attempted name number calls result) :
    ∃ earlier last, calls = earlier ++ [last] ∧ (∀ call ∈ earlier, call.isRead = true) ∧
      Tells last result := by
  cases attempted with
  | unread answered =>
      exact ⟨[], _, rfl, by simp, .read_error name _ _⟩
  | absent answered =>
      exact ⟨[], _, rfl, by simp, .read_idle name _ trivial rfl⟩
  | reported read judged =>
      exact ⟨[], _, rfl, by simp, .read_idle name _ (idle_of_judge judged) rfl⟩
  | stuck read judged =>
      exact ⟨[], _, rfl, by simp, .read_error name _ _⟩
  | written read judged =>
      exact ⟨[.read name _], _, rfl, by simp [Exchange.isRead], .written name _ _ _ _ _⟩

theorem Attempted.reads (attempted : rules.Attempted name number calls result) :
    calls.countP Exchange.isRead = 1 := by
  cases attempted <;> rfl

theorem attempts_decided {attempt : Int} {verdict : Verdict} {report : Report}
    {answer : Except Cluster.Failure (Option Condition)}
    (isReport : decided name attempt verdict answer = .ok report) : report.attempts = attempt := by
  unfold decided at isReport
  split at isReport
  · cases isReport
    rfl
  · split at isReport <;> cases isReport
    rfl
  · cases isReport

theorem Attempted.attempts {report : Report}
    (attempted : rules.Attempted name number calls (.ok report)) : report.attempts = number := by
  generalize isReport : Except.ok report = result at attempted
  cases attempted with
  | unread answered | stuck read judged =>
      cases isReport
  | absent answered | reported read judged =>
      cases isReport
      rfl
  | written read judged =>
      exact attempts_decided isReport.symm

/-- A write is that of an object which the attempt has read before. -/
theorem Attempted.write_follows (attempted : rules.Attempted name number calls result)
    {before after : List Exchange} {target : String} {body : Object} {reply : Except Refusal Unit}
    (split : calls = before ++ .write target body reply :: after) :
    ∃ object condition, before = [.read name (.ok object)] ∧ object.name = some target ∧
      body = object.addCondition condition := by
  have single {answer : Except Refusal Object} :
      [Exchange.read name answer] ≠ before ++ .write target body reply :: after := by
    intro same
    have member : Exchange.write target body reply ∈ [Exchange.read name answer] := by
      simp [same]
    simp at member
  cases attempted with
  | unread answered | absent answered | reported read judged | stuck read judged =>
      exact absurd split single
  | @written object snapshot answers verdict given read judged =>
      obtain _ | ⟨first, before⟩ := before
      · simp at split
      · obtain _ | ⟨second, before⟩ := before
        · simp only [List.cons_append, List.nil_append, List.cons.injEq, Exchange.write.injEq]
            at split
          obtain ⟨rfl, ⟨rfl, rfl, rfl⟩, rfl⟩ := split
          exact ⟨object, _, rfl, (Snapshot.shows_of_ofObject read).name, rfl⟩
        · simp at split

/-! ## What a run tells -/

theorem result_eq_ok {run : Run Failure Report} {report : Report} :
    Control.result run = .ok report ↔ run.ending = .done report := by
  unfold Control.result
  cases run.ending <;> simp

theorem Course.tells (course : rules.Course name left number calls ending)
    (events : List Retry.Event) :
    ∃ earlier last, calls = earlier ++ [last] ∧ (∀ call ∈ earlier, ¬call.Acknowledged) ∧
      Tells last (Control.result ⟨events, ending⟩) := by
  induction course with
  | done attempted | failed attempted final =>
      obtain ⟨earlier, last, split, reads, tells⟩ := attempted.tells
      exact ⟨earlier, last, split,
        fun call member => Exchange.not_acknowledged_of_isRead (reads call member), tells⟩
  | overflow attempted passing tooLong =>
      obtain ⟨earlier, last, split, reads, tells⟩ := attempted.tells
      exact ⟨earlier, last, split,
        fun call member => Exchange.not_acknowledged_of_isRead (reads call member),
        tells.error .overflow⟩
  | again attempted passing rest inductionHypothesis =>
      obtain ⟨first, failed, splitFirst, reads, tellsFirst⟩ := attempted.tells
      obtain ⟨earlier, last, split, quiet, tells⟩ := inductionHypothesis
      refine ⟨first ++ [failed] ++ earlier, last, ?_, ?_, tells⟩
      · rw [splitFirst, split, List.append_assoc (first ++ [failed])]
      · intro call member
        rcases List.mem_append.mp member with inAttempt | inRest
        · rcases List.mem_append.mp inAttempt with isEarlier | isLast
          · exact Exchange.not_acknowledged_of_isRead (reads call isEarlier)
          · intro acknowledged
            obtain rfl := List.mem_singleton.mp isLast
            obtain ⟨report, impossible⟩ := tellsFirst.acknowledged acknowledged
            cases impossible
        · exact quiet call inRest

theorem Course.reads_le (course : rules.Course name left number calls ending) :
    calls.countP Exchange.isRead ≤ left + 1 := by
  induction course with
  | done attempted | failed attempted final | overflow attempted passing tooLong =>
      have one := attempted.reads
      omega
  | again attempted passing rest inductionHypothesis =>
      have one := attempted.reads
      rw [List.countP_append]
      omega

theorem Course.attempts {report : Report}
    (course : rules.Course name left number calls (.done report)) :
    report.attempts + 1 = number + calls.countP Exchange.isRead := by
  generalize isDone : Ending.done report = ending at course
  induction course with
  | done attempted =>
      obtain rfl := Ending.done.inj isDone
      rw [attempted.attempts, attempted.reads]
      rfl
  | failed attempted final | overflow attempted passing tooLong =>
      cases isDone
  | again attempted passing rest inductionHypothesis =>
      have counted := inductionHypothesis isDone
      rw [List.countP_append, attempted.reads]
      push_cast at counted ⊢
      omega

theorem Course.write_follows (course : rules.Course name left number calls ending)
    {before after : List Exchange} {target : String} {body : Object} {reply : Except Refusal Unit}
    (split : calls = before ++ .write target body reply :: after) :
    ∃ earlier object condition, before = earlier ++ [.read name (.ok object)] ∧
      object.name = some target ∧ body = object.addCondition condition := by
  induction course generalizing before with
  | done attempted | failed attempted final | overflow attempted passing tooLong =>
      obtain ⟨object, condition, follows⟩ := attempted.write_follows split
      exact ⟨[], object, condition, follows⟩
  | @again _ _ first later _ _ attempted passing rest inductionHypothesis =>
      rcases List.append_eq_append_iff.mp split with
        ⟨middle, isBefore, isLater⟩ | ⟨middle, isFirst, isRest⟩
      · obtain ⟨earlier, object, condition, isMiddle, follows⟩ := inductionHypothesis isLater
        refine ⟨first ++ earlier, object, condition, ?_, follows⟩
        rw [isBefore, isMiddle, List.append_assoc]
      · cases middle with
        | nil =>
            obtain ⟨earlier, object, condition, impossible, _⟩ :=
              @inductionHypothesis [] isRest.symm
            simp at impossible
        | cons head middle =>
            obtain ⟨rfl, _⟩ := List.cons.inj isRest
            obtain ⟨object, condition, follows⟩ := attempted.write_follows isFirst
            exact ⟨[], object, condition, follows⟩

/-! ## Runs that fail -/

/-- Whether a request can be decoded, or is refused with a reason. -/
def decodes (rules : Rules) (snapshot : Snapshot) : Bool :=
  match Request.decode snapshot.request (rules.sender snapshot) with
  | .ok _ | .error (.refused _) => true
  | .error _ => false

theorem refused_of_decodes {snapshot : Snapshot} {fault : Request.DecodeFault}
    (decodes : rules.decodes snapshot = true)
    (undecoded : Request.decode snapshot.request (rules.sender snapshot) = .error fault) :
    ∃ cause, fault = .refused cause := by
  rw [Rules.decodes, undecoded] at decodes
  cases fault with
  | refused cause =>
      exact ⟨cause, rfl⟩
  | unknownVersion | unreadableSubject | misplacedBits | unknownFeature | unrangedAddress =>
      cases decodes

/-- Whether an answer is one that a cluster in order gives: an object that can be read and
decoded or is refused as a request, no object, or a refusal that may pass. -/
def Orderly (rules : Rules) : Exchange → Prop
  | .read _ (.ok object) =>
      ∃ snapshot ∈ (Snapshot.ofObject object).toOption, rules.decodes snapshot = true
  | .read _ (.error refusal) => refusal.hasCode Cluster.missingCode = true ∨ refusal.Passes
  | .write _ _ (.error refusal) => refusal ≠ .crashed
  | .write _ _ (.ok _) => True

instance (rules : Rules) : DecidablePred rules.Orderly
  | .read _ (.ok _) => inferInstanceAs (Decidable (∃ snapshot ∈ Except.toOption _, _))
  | .read _ (.error _) => inferInstanceAs (Decidable (_ ∨ _))
  | .write _ _ (.error _) => inferInstanceAs (Decidable (_ ≠ _))
  | .write _ _ (.ok _) => inferInstanceAs (Decidable True)

theorem Attempted.failure_cases {failure : Failure}
    (attempted : rules.Attempted name number calls (.error failure))
    (orderly : ∀ call ∈ calls, rules.Orderly call) :
    failure = .crashed ∨ ∃ fault, failure = .cluster (.api fault) ∧ fault.kind.retries = true := by
  generalize isFailure : Except.error failure = result at attempted
  cases attempted with
  | absent answered | reported read judged =>
      cases isFailure
  | @unread answer given answered =>
      obtain rfl := Except.error.inj isFailure
      have isOrderly := orderly _ List.mem_cons_self
      cases answer with
      | ok object =>
          cases read : Snapshot.ofObject object with
          | ok snapshot =>
              simp [Api.readAnswer, read] at answered
          | error issues =>
              simp [Orderly, read, Except.toOption] at isOrderly
      | error refusal =>
          simp only [Api.readAnswer] at answered
          split at answered
          · cases answered
          · rename_i present
            obtain rfl := Except.error.inj answered
            have passes := isOrderly.resolve_left present
            rcases Cluster.Failure.ofRefusal_cases (.read name) refusal with
              ⟨final, _⟩ | ⟨_, _, fault, means, retries⟩ | ⟨rfl, _⟩
            · exact absurd passes (Refusal.not_passes_of_isFinal final)
            · exact Or.inr ⟨fault, congrArg Failure.cluster means, retries⟩
            · exact passes.elim
  | @stuck object snapshot answers given read judged =>
      obtain rfl := Except.error.inj isFailure
      rcases crashed_of_judge judged with crashed | ⟨fault, undecoded, notRefused⟩
      · exact Or.inl crashed
      · have decodes : rules.decodes snapshot = true := by
          have isOrderly := orderly _ List.mem_cons_self
          simpa [Orderly, read, Except.toOption] using isOrderly
        obtain ⟨cause, isRefused⟩ := refused_of_decodes decodes undecoded
        exact absurd isRefused (notRefused cause)
  | @written object snapshot answers verdict reply read judged =>
      have replied := orderly _ (List.mem_cons_of_mem _ List.mem_cons_self)
      cases reply with
      | ok accepted =>
          cases isFailure
      | error refusal =>
          rcases Cluster.Failure.ofRefusal_cases (.decide snapshot.name) refusal with
            ⟨_, fault, means, kind⟩ | ⟨_, _, fault, means, retries⟩ | ⟨rfl, _⟩
          · simp [decided, conditionWritten, Api.writeAnswer, means, kind] at isFailure
          · have kind := (Cluster.FaultKind.retries_iff _).mp retries
            have same : failure = .cluster (.api fault) := by
              simpa [decided, conditionWritten, Api.writeAnswer, means, kind] using isFailure
            exact Or.inr ⟨fault, same, retries⟩
          · exact absurd rfl replied

/-- A run in order that has no report has tried as often as it may, unless a lookup crashed. -/
theorem Course.exhausted {failure : Failure}
    (course : rules.Course name left number calls ending)
    (orderly : ∀ call ∈ calls, rules.Orderly call)
    (waits : ∀ retry : Nat, retry + 1 < number + left → rules.backoff.delay? retry ≠ none)
    {events : List Retry.Event} (first : 1 ≤ number)
    (isFailure : Control.result ⟨events, ending⟩ = .error failure) :
    failure = .crashed ∨
      (∃ fault, failure = .cluster (.api fault) ∧ fault.kind.retries = true) ∧
        calls.countP Exchange.isRead = left + 1 := by
  induction course with
  | done attempted =>
      cases isFailure
  | failed attempted final =>
      obtain rfl := Except.error.inj isFailure
      rcases attempted.failure_cases orderly with crashed | ⟨fault, rfl, retries⟩
      · exact Or.inl crashed
      · rcases final with notPassing | rfl
        · simp [Failure.passing?, retries] at notPassing
        · exact Or.inr ⟨⟨fault, rfl, retries⟩, attempted.reads⟩
  | @overflow left number _ _ attempted passing tooLong =>
      have exceeds := waits (number - 1) (by omega)
      rw [Int.ofNat_sub first] at exceeds
      exact absurd tooLong exceeds
  | again attempted passing rest inductionHypothesis =>
      have orderlyRest := fun call member => orderly call (List.mem_append_right _ member)
      rcases inductionHypothesis orderlyRest (fun retry less => waits retry (by omega)) (by omega)
        isFailure with crashed | ⟨passes, counted⟩
      · exact Or.inl crashed
      · refine Or.inr ⟨passes, ?_⟩
        rw [List.countP_append, attempted.reads, counted, Nat.add_comm]

end Rules

/-! ## Reports -/

/-- Whether what came of a look at a request is true of the questions that led to it. -/
structure Truthful (rules : Rules) (name : String) (calls : List Exchange)
    (result : Except Failure Report) : Prop where
  reads_le : calls.countP Exchange.isRead ≤ rules.backoff.maxAttempts
  /-- A write comes right after the read of the object that it is about, at its version. -/
  write_follows : ∀ before target body reply after,
    calls = before ++ .write target body reply :: after →
      ∃ earlier object condition, before = earlier ++ [.read name (.ok object)] ∧
        object.name = some target ∧ body = object.addCondition condition ∧
        body.version = object.version
  acknowledged_last : ∀ before call after,
    calls = before ++ call :: after → call.Acknowledged → after = []
  approved_iff : ∀ message,
    (∃ report, result = .ok report ∧ report.outcome = .approved ∧ report.message = message) ↔
      ∃ last, calls.getLast? = some last ∧ last.Decides Condition.approvedType message
  denied_iff : ∀ message,
    (∃ report, result = .ok report ∧ report.outcome = .denied ∧ report.message = message) ↔
      ∃ last, calls.getLast? = some last ∧ last.Decides Condition.deniedType message
  malformed_iff : (∃ report, result = .ok report ∧ report.outcome = .malformed) ↔
    ∃ last, calls.getLast? = some last ∧ last.Rejected
  /-- A decision is reported only with the condition that was written for it, and what that
  condition says is never empty. -/
  said : ∀ report, result = .ok report → report.outcome.decision?.isSome = true →
    report.message ≠ "" ∧
      ∃ last type, calls.getLast? = some last ∧ report.outcome.decision? = some type ∧
        last.Decides type report.message
  /-- Nothing is decided where another outcome is reported. -/
  idle : ∀ report, result = .ok report → report.outcome.Idle →
    report.checks = [] ∧ (∃ last, calls.getLast? = some last ∧ last.isRead = true) ∧
      ∀ call ∈ calls, ¬call.Acknowledged
  reported : ∀ report, result = .ok report →
    report.outcome ≠ .transientError ∧ report.attempts = calls.countP Exchange.isRead
  /-- A look without a report has tried as often as it may, unless a lookup crashed. -/
  failed : ∀ failure, result = .error failure →
    (∀ call ∈ calls, ¬call.Acknowledged) ∧
      (failure = .crashed ∨
        (∃ fault, failure = .cluster (.api fault) ∧ fault.kind.retries = true) ∧
          calls.countP Exchange.isRead = rules.backoff.maxAttempts)

namespace Rules

variable {σ : Type}

/-- What comes of a look at a request is true of the questions that led to it, whatever the
cluster and the lookups answer in order, as long as no wait is more than a double can hold. -/
theorem run_truthful (rules : Rules) (api : Api σ) (resolver : Resolver σ) (name : String)
    (state : σ)
    (orderly : ∀ call ∈ rules.exchanges api resolver name state, rules.Orderly call)
    (waits : ∀ retry : Nat, retry + 1 < rules.backoff.maxAttempts →
      rules.backoff.delay? retry ≠ none) :
    Truthful rules name (rules.exchanges api resolver name state)
      (Control.result (rules.run api resolver name state).1) := by
  have course := rules.course_run api resolver name state
  generalize rules.exchanges api resolver name state = calls at orderly course
  generalize (rules.run api resolver name state).1 = run at course
  have positive := rules.backoff.maxAttempts_pos
  obtain ⟨earlier, last, split, quiet, tells⟩ := course.tells run.events
  have isLast : calls.getLast? = some last := by simp [split]
  have decides (type message : String) :
      (∃ call, calls.getLast? = some call ∧ call.Decides type message) ↔
        last.Decides type message := by
    simp [isLast]
  have unacknowledged (noReport : ¬last.Acknowledged) : ∀ call ∈ calls, ¬call.Acknowledged := by
    intro call member
    rw [split] at member
    rcases List.mem_append.mp member with isEarlier | isLast
    · exact quiet call isEarlier
    · exact List.mem_singleton.mp isLast ▸ noReport
  constructor
  case reads_le =>
    have bound := course.reads_le
    omega
  case write_follows =>
    intro before target body reply after isSplit
    obtain ⟨first, object, condition, follows, named, isBody⟩ := course.write_follows isSplit
    exact ⟨first, object, condition, follows, named, isBody, isBody ▸ rfl⟩
  case acknowledged_last =>
    intro before call after isSplit acknowledged
    cases after with
    | nil =>
        rfl
    | cons next after =>
        have member : call ∈ calls.dropLast := by
          rw [isSplit, List.dropLast_append_of_ne_nil (List.cons_ne_nil call _),
            List.dropLast_cons_of_ne_nil (List.cons_ne_nil next after)]
          simp
        rw [split, List.dropLast_concat] at member
        exact absurd acknowledged (quiet call member)
  case approved_iff =>
    intro message
    simp only [decides, ← tells.decided_iff, Outcome.decision?_eq_approved]
  case denied_iff =>
    intro message
    simp only [decides, ← tells.decided_iff, Outcome.decision?_eq_denied]
  case malformed_iff =>
    have same := tells.malformed_iff
    simpa [isLast] using same
  case said =>
    intro report isReport isDecision
    obtain ⟨type, isType⟩ := Option.isSome_iff_exists.mp isDecision
    exact ⟨tells.said report isReport isDecision, last, type, isLast, isType,
      (tells.decided_iff type report.message).mp ⟨report, isReport, isType, rfl⟩⟩
  case idle =>
    intro report isReport isIdle
    obtain ⟨isRead, noChecks⟩ := tells.idle report isReport isIdle
    exact ⟨noChecks, ⟨last, isLast, isRead⟩,
      unacknowledged (Exchange.not_acknowledged_of_isRead isRead)⟩
  case reported =>
    intro report isReport
    have counted := (result_eq_ok.mp isReport ▸ course).attempts
    exact ⟨tells.settled report isReport, by omega⟩
  case failed =>
    intro failure isFailure
    refine ⟨unacknowledged fun acknowledged => ?_, ?_⟩
    · obtain ⟨report, isReport⟩ := tells.acknowledged acknowledged
      cases isFailure.symm.trans isReport
    · have exhausted := course.exhausted orderly
        (fun retry less => waits retry (by omega)) (Nat.le_refl 1) isFailure
      rwa [Nat.sub_add_cancel positive] at exhausted

/-! ## A write that comes too late -/

/-- A server whose object is changed by others before the first write. -/
def busyServer : Server where
  store := ⟨[("csr", nodeObject)]⟩
  writes := [some (.refuse (.status (some 409) (some "Conflict")))]

def twiceRules : Rules where
  policy := { nodeRules.policy with bypassHostname := true }
  signerName := nodeRules.signerName
  backoff := { Retry.Backoff.standard with maxAttempts := 2, maxAttempts_pos := Nat.two_pos }

def nodeResolver : Resolver Server := fun _ server => (.found [nodeAddress], server)

theorem orderly_busy :
    let calls := twiceRules.exchanges Server.api nodeResolver "csr" busyServer
    (∀ call ∈ calls, twiceRules.Orderly call) ∧ calls.countP Exchange.isRead = 2 ∧
      (calls.getLast?.bind Exchange.decision?).map
          (fun condition => (condition.type, condition.message.isSome)) =
        some (some Condition.approvedType, true) := by
  decide +kernel

/-- The second attempt approves the request, and its report says what was written. -/
theorem run_truthful_busy :
    let calls := twiceRules.exchanges Server.api nodeResolver "csr" busyServer
    ∃ report,
      Control.result (twiceRules.run Server.api nodeResolver "csr" busyServer).1 = .ok report ∧
        report.outcome = .approved ∧ report.attempts = 2 ∧
        ∃ last, calls.getLast? = some last ∧
          last.Decides Condition.approvedType report.message := by
  intro calls
  obtain ⟨orderly, reads, approved⟩ := orderly_busy
  have waits : ∀ retry : Nat, retry + 1 < 2 → twiceRules.backoff.delay? retry ≠ none := by
    intro retry less
    obtain rfl : retry = 0 := by omega
    decide
  have truthful := run_truthful twiceRules Server.api nodeResolver "csr" busyServer orderly waits
  obtain ⟨condition, isCondition, parts⟩ := Option.map_eq_some_iff.mp approved
  obtain ⟨last, isLast, decides⟩ := Option.bind_eq_some_iff.mp isCondition
  obtain ⟨isApproved, hasMessage⟩ := Prod.mk.inj parts
  obtain ⟨message, isMessage⟩ := Option.isSome_iff_exists.mp hasMessage
  obtain ⟨report, isReport, outcome, rfl⟩ := (truthful.approved_iff message).mpr
    ⟨last, isLast, condition, decides, isApproved, isMessage⟩
  have counted := (truthful.reported report isReport).2
  rw [reads] at counted
  exact ⟨report, isReport, outcome, counted, last, isLast, condition, decides, isApproved,
    isMessage⟩

end Rules

end Control

end CertApproval
