import CertApproval.Control.Controller
import CertApproval.Proofs.Report.Truth
import CertApproval.Proofs.Retry.Attempts
import CertApproval.Proofs.Review.Verdict

/-!
How a look at a request can fail. Main statement: if nothing happens that nobody is prepared for,
a look ends with a report or with a failure that may pass, unless a read is refused for good. A
write that is refused for good is reported; a read that is refused for good is not.
-/

namespace CertApproval

/-! ## Questions that are refused for good -/

namespace Cluster.Exchange

/-- Whether a read is refused for good. That there is no such object is no refusal. -/
def Barred : Exchange → Prop
  | read _ (.error refusal) => refusal.IsFinal ∧ refusal.hasCode missingCode = false
  | read _ (.ok _) | write _ _ _ => False

end Cluster.Exchange

namespace Cluster.Api

theorem readAnswer_eq_error {name : String} {answer : Except Refusal Object} {failure : Failure} :
    readAnswer name answer = .error failure ↔
      (∃ object issues, answer = .ok object ∧ Snapshot.ofObject object = .error issues ∧
        failure = .unreadable issues) ∨
      ∃ refusal, answer = .error refusal ∧ refusal.hasCode missingCode = false ∧
        failure = .ofRefusal (.read name) refusal := by
  cases answer with
  | ok object =>
      cases shown : Snapshot.ofObject object with
      | ok snapshot =>
          simp [readAnswer, shown]
      | error issues =>
          simpa [readAnswer, shown] using eq_comm
  | error refusal =>
      cases missing : refusal.hasCode missingCode with
      | true =>
          simp [readAnswer, missing]
      | false =>
          simpa [readAnswer, missing] using eq_comm

theorem readAnswer_eq_none {name : String} {answer : Except Refusal Object} :
    readAnswer name answer = .ok none ↔
      ∃ refusal, answer = .error refusal ∧ refusal.hasCode missingCode = true := by
  cases answer with
  | ok object =>
      cases shown : Snapshot.ofObject object <;> simp [readAnswer, shown]
  | error refusal =>
      cases missing : refusal.hasCode missingCode <;> simp [readAnswer, missing]

end Cluster.Api

namespace Control

open CertApproval.Cluster (Api Exchange Object Refusal Server Snapshot)
open CertApproval.Control.Scene (nodeRules)
open CertApproval.Dns (Resolver)
open CertApproval.Retry (Run)

/-- Whether a look at a request ends as it is meant to: with a report, or with a failure that
may pass. -/
def Documented : Except Failure Report → Prop
  | .ok _ => True
  | .error failure => failure.passing?.isSome = true

namespace Rules

variable {σ : Type} {rules : Rules} {api : Api σ} {resolver : Resolver σ} {name : String}
  {number : Nat} {calls : List Exchange} {result : Except Failure Report}

/-- Whether an answer is one that the program is prepared for: an object that can be read and
decoded or is refused as a request, or any refusal. -/
def Foreseen (rules : Rules) : Exchange → Prop
  | .read _ (.ok object) =>
      ∃ snapshot, Snapshot.ofObject object = .ok snapshot ∧ rules.decodes snapshot = true
  | .read _ (.error refusal) | .write _ _ (.error refusal) => refusal ≠ .crashed
  | .write _ _ (.ok _) => True

theorem foreseen_of_orderly {call : Exchange} (orderly : rules.Orderly call) :
    rules.Foreseen call := by
  cases call with
  | read target answer =>
      cases answer with
      | ok object =>
          obtain ⟨snapshot, shown, decodes⟩ := orderly
          cases found : Snapshot.ofObject object with
          | ok other =>
              rw [found] at shown
              cases shown
              exact ⟨_, found, decodes⟩
          | error issues =>
              rw [found] at shown
              cases shown
      | error refusal =>
          rintro rfl
          simp [Orderly, Refusal.hasCode, Refusal.Passes] at orderly
  | write target body reply =>
      cases reply with
      | ok accepted | error refusal =>
          exact orderly

theorem not_barred_of_orderly {call : Exchange} (orderly : rules.Orderly call) : ¬call.Barred := by
  cases call with
  | read target answer =>
      cases answer with
      | ok object =>
          exact id
      | error refusal =>
          rintro ⟨final, present⟩
          rcases orderly with missing | passes
          · rw [missing] at present
            cases present
          · exact Refusal.not_passes_of_isFinal final passes
  | write target body reply =>
      exact id

/-! ## Single attempts -/

theorem passing?_isSome_of_retries {fault : Cluster.ApiFault}
    (retries : fault.kind.retries = true) :
    (Failure.cluster (.api fault)).passing?.isSome = true := by
  simp [Failure.passing?, retries]

theorem passing?_of_malformed {fault : Cluster.ApiFault} (malformed : fault.kind = .malformed) :
    (Failure.cluster (.api fault)).passing? = none := by
  simp [Failure.passing?, malformed, Cluster.FaultKind.retries]

theorem documented_decided (name target : String) (number : Int) (verdict : Review.Verdict)
    {reply : Except Refusal Unit} (foreseen : reply ≠ .error .crashed) :
    Documented (decided name number verdict
      (conditionWritten verdict.condition (Api.writeAnswer target reply))) := by
  cases reply with
  | ok accepted =>
      trivial
  | error refusal =>
      rcases Cluster.Failure.ofRefusal_cases (.decide target) refusal with
        ⟨_, fault, means, kind⟩ | ⟨_, _, fault, means, retries⟩ | ⟨rfl, _⟩
      · simp [decided, conditionWritten, Api.writeAnswer, means, kind, Documented]
      · have notMalformed := (Cluster.FaultKind.retries_iff _).mp retries
        simp only [decided, conditionWritten, Api.writeAnswer, means, notMalformed, if_false]
        exact passing?_isSome_of_retries retries
      · exact absurd rfl foreseen

/-- An attempt without a crash ends as it is meant to, or with a read that is refused for
good. -/
theorem Attempted.classified (attempted : rules.Attempted name number calls result)
    (foreseen : ∀ call ∈ calls, rules.Foreseen call) (steady : result ≠ .error .crashed) :
    (Documented result ∧ ∀ call ∈ calls, ¬call.Barred) ∨
      ∃ refusal fault, calls = [.read name (.error refusal)] ∧
        (Exchange.read name (.error refusal)).Barred ∧
        Cluster.Failure.ofRefusal (.read name) refusal = .api fault ∧ fault.kind = .malformed ∧
        result = .error (.cluster (.api fault)) := by
  cases attempted with
  | absent answered =>
      obtain ⟨refusal, rfl, missing⟩ := Api.readAnswer_eq_none.mp answered
      exact Or.inl ⟨trivial, by simp [Exchange.Barred, missing]⟩
  | reported read judged =>
      exact Or.inl ⟨trivial, by simp [Exchange.Barred]⟩
  | unread answered =>
      have isForeseen := foreseen _ List.mem_cons_self
      rcases Api.readAnswer_eq_error.mp answered with
        ⟨object, issues, rfl, unreadable, _⟩ | ⟨refusal, rfl, present, rfl⟩
      · obtain ⟨snapshot, shown, _⟩ := isForeseen
        cases unreadable.symm.trans shown
      · rcases Cluster.Failure.ofRefusal_cases (.read name) refusal with
          ⟨final, fault, means, kind⟩ | ⟨notFinal, _, fault, means, retries⟩ | ⟨isCrash, _⟩
        · exact Or.inr ⟨refusal, fault, rfl, ⟨final, present⟩, means, kind, by rw [means]⟩
        · refine Or.inl ⟨?_, by simp [Exchange.Barred, notFinal]⟩
          rw [means]
          exact passing?_isSome_of_retries retries
        · exact absurd isCrash isForeseen
  | @stuck object snapshot answers failure read judged =>
      obtain ⟨found, shown, decodes⟩ := foreseen _ List.mem_cons_self
      obtain rfl : snapshot = found := Except.ok.inj (read.symm.trans shown)
      rcases crashed_of_judge judged with rfl | ⟨fault, undecoded, notRefused⟩
      · exact absurd rfl steady
      · obtain ⟨cause, isRefused⟩ := refused_of_decodes decodes undecoded
        exact absurd isRefused (notRefused cause)
  | @written object snapshot answers verdict reply read judged =>
      refine Or.inl ⟨?_, by simp [Exchange.Barred]⟩
      apply documented_decided
      have isForeseen := foreseen _ (List.mem_cons_of_mem _ List.mem_cons_self)
      rintro rfl
      exact isForeseen rfl

theorem decided_ne_crashed (name : String) (attempt : Int) (verdict : Review.Verdict)
    (answer : Except Cluster.Failure (Option Review.Condition)) :
    decided name attempt verdict answer ≠ .error .crashed := by
  unfold decided
  split
  · simp
  · split <;> simp
  · simp

theorem judge_crashed {snapshot : Snapshot} {between : σ}
    (judged : (rules.judge resolver snapshot between).1 = .fail .crashed) :
    rules.leave? snapshot = none ∧
      ∃ parsed, Request.decode snapshot.request (rules.sender snapshot) = .ok parsed ∧
        (Review.review resolver rules.policy (.ofParsed parsed) between).1 = .crashed := by
  have ways := judged ▸ rules.judged_judge resolver snapshot between
  cases ways with
  | crashed stays decoded reviewed =>
      exact ⟨stays, _, decoded, reviewed⟩

/-- An attempt crashes only with the review of the request that it has taken up. -/
theorem takesUp_of_crashed {before : σ}
    (crashed : (rules.attempt api resolver name number before).1 = .error .crashed) :
    ∃ object parsed between, rules.TakesUp api name before object parsed between ∧
      (Review.review resolver rules.policy (.ofParsed parsed) between).1 = .crashed := by
  cases asked : api.read name before with
  | mk answer between =>
      cases answered : Api.readAnswer name answer with
      | error failure =>
          simp [attempt, Api.get, asked, answered] at crashed
      | ok found =>
          cases found with
          | none =>
              simp [attempt, Api.get, asked, answered] at crashed
          | some snapshot =>
              obtain ⟨object, rfl, shown⟩ := Api.object_of_readAnswer answered
              have failed : (rules.judge resolver snapshot between).1 = .fail .crashed := by
                cases judged : rules.judge resolver snapshot between with
                | mk judgement rest =>
                    cases judgement with
                    | report outcome message =>
                        simp [attempt, Api.get, asked, answered, judged,
                          Judgement.carryOut] at crashed
                    | fail failure =>
                        simpa [attempt, Api.get, asked, answered, judged,
                          Judgement.carryOut] using crashed
                    | decide verdict =>
                        refine absurd ?_ (decided_ne_crashed name (Int.ofNat number) verdict
                          (writeDecision api snapshot verdict rest).1)
                        simpa [attempt, Api.get, asked, answered, judged,
                          Judgement.carryOut] using crashed
              obtain ⟨notLeft, parsed, decoded, reviewed⟩ := judge_crashed failed
              obtain ⟨ours, undecided⟩ := leave?_eq_none.mp notLeft
              exact ⟨object, parsed, between, ⟨asked, snapshot, shown, ours, undecided, decoded⟩,
                reviewed⟩

theorem Attempted.last (attempted : rules.Attempted name number calls result) :
    ∃ earlier last, calls = earlier ++ [last] ∧
      ∀ call ∈ earlier, ¬call.Barred ∧ ¬call.Rejected := by
  cases attempted with
  | unread answered | absent answered | reported read judged | stuck read judged =>
      exact ⟨[], _, rfl, by simp⟩
  | written read judged =>
      exact ⟨[.read name _], _, rfl, by simp [Exchange.Barred, Exchange.Rejected]⟩

theorem Attempted.malformed_of_rejected (attempted : rules.Attempted name number calls result)
    {call : Exchange} (member : call ∈ calls) (rejected : call.Rejected) :
    ∃ report, result = .ok report ∧ report.outcome = .malformed := by
  obtain ⟨earlier, last, rfl, reads, tells⟩ := attempted.tells
  rcases List.mem_append.mp member with isEarlier | isLast
  · cases call with
    | read target answer =>
        exact rejected.elim
    | write target body reply =>
        cases reads _ isEarlier
  · obtain rfl := List.mem_singleton.mp isLast
    exact tells.malformed_iff.mpr rejected

/-- Nothing is refused for good in an attempt that failed in a way that may pass. -/
theorem Attempted.not_final {failure : Failure}
    (attempted : rules.Attempted name number calls (.error failure))
    (passing : failure.passing?.isSome = true) :
    ∀ call ∈ calls, ¬call.Barred ∧ ¬call.Rejected := by
  have notRejected : ∀ call ∈ calls, ¬call.Rejected := by
    intro call member rejected
    obtain ⟨report, isReport, _⟩ := attempted.malformed_of_rejected member rejected
    cases isReport
  refine fun call member => ⟨?_, notRejected call member⟩
  generalize isFailure : Except.error failure = result at attempted
  cases attempted with
  | absent answered | reported read judged =>
      cases isFailure
  | stuck read judged =>
      obtain rfl := List.mem_singleton.mp member
      exact id
  | written read judged =>
      rcases List.mem_pair.mp member with rfl | rfl
      · exact id
      · exact id
  | unread answered =>
      obtain rfl := List.mem_singleton.mp member
      obtain rfl := Except.error.inj isFailure
      intro barred
      rcases Api.readAnswer_eq_error.mp answered with
        ⟨object, issues, rfl, _⟩ | ⟨refusal, rfl, _, rfl⟩
      · exact barred
      · rcases Cluster.Failure.ofRefusal_cases (.read name) refusal with
          ⟨_, fault, means, kind⟩ | ⟨notFinal, _⟩ | ⟨rfl, _⟩
        · rw [means, passing?_of_malformed kind] at passing
          cases passing
        · exact notFinal barred.1
        · exact barred.1

/-! ## Whole runs -/

section Runs

variable {start : σ}

theorem not_final_of_makes {reached : σ × List Exchange}
    (made : Run.Makes rules.backoff Failure.passing?
      (rules.attempt api.recorded resolver.beside name) (start, []) number reached) :
    ∀ call ∈ reached.2, ¬call.Barred ∧ ¬call.Rejected := by
  induction made with
  | first =>
      intro call member
      cases member
  | @next number reached later failure reason delay made failed passing more waited
      inductionHypothesis =>
      obtain ⟨calls, attempted, recorded⟩ :=
        attempt_recorded rules api resolver name number reached.1 reached.2
      have parts := failed.symm.trans recorded
      obtain ⟨isFailure, rfl⟩ := Prod.mk.inj parts
      rw [← isFailure] at attempted
      intro call member
      rcases List.mem_append.mp member with isEarlier | isNow
      · exact inductionHypothesis call isEarlier
      · exact attempted.not_final (Option.isSome_of_eq_some passing) call isNow

/-- The last attempt of a run, with the questions of those before it. -/
theorem last_attempt (rules : Rules) (api : Api σ) (resolver : Resolver σ) (name : String)
    (start : σ) :
    ∃ number before past calls,
      Run.Makes rules.backoff Failure.passing? (rules.attempt api.recorded resolver.beside name)
          (start, []) number (before, past) ∧
        rules.exchanges api resolver name start = past ++ calls ∧
        rules.Attempted name number calls (rules.attempt api resolver name number before).1 ∧
        Run.Closes rules.backoff Failure.passing? number
          (rules.attempt api resolver name number before).1
          (rules.run api resolver name start).1.ending := by
  obtain ⟨number, ⟨before, past⟩, made, state, closes⟩ :=
    Run.closes_start rules.backoff Failure.passing?
      (rules.attempt api.recorded resolver.beside name) (start, [])
  obtain ⟨calls, attempted, recorded⟩ :=
    attempt_recorded rules api resolver name number before past
  have same : Run.start rules.backoff Failure.passing?
      (rules.attempt api.recorded resolver.beside name) (start, []) = _ :=
    run_recorded_eq rules api resolver name start
  rw [same, recorded] at state closes
  exact ⟨number, before, past, calls, made, congrArg Prod.snd state, attempted, closes⟩

theorem result_of_closes {run : Run Failure Report}
    (closes : Run.Closes rules.backoff Failure.passing? number result run.ending)
    (positive : 0 < number)
    (waits : ∀ retry : Nat, retry + 1 < rules.backoff.maxAttempts →
      rules.backoff.delay? retry ≠ none) :
    Control.result run = result := by
  rw [Control.result]
  generalize run.ending = ending at closes
  cases closes with
  | done report | failed final =>
      rfl
  | overflow passing more tooLong =>
      have exceeds := waits (number - 1) (by omega)
      rw [Int.ofNat_sub positive] at exceeds
      exact absurd tooLong exceeds

end Runs

/-! ## Results -/

theorem eq_nil_or_mem_of_append_eq {α : Type} {earlier before after : List α} {last item : α}
    (split : earlier ++ [last] = before ++ item :: after) : after = [] ∨ item ∈ earlier := by
  rcases List.eq_nil_or_concat after with none | ⟨rest, final, rfl⟩
  · exact Or.inl none
  · rw [List.concat_eq_append, ← List.cons_append, ← List.append_assoc] at split
    have isEarlier := (List.append_inj' split rfl).1
    exact Or.inr (isEarlier ▸ List.mem_append_right before List.mem_cons_self)

theorem work_settle_of_error (dispatcher : Dispatcher) (delay : Floating.Double) (name : String)
    (failure : Failure) :
    (dispatcher.settle delay name (.error failure)).work =
      dispatcher.work.addAfter name delay := rfl

theorem work_settle_of_ok (dispatcher : Dispatcher) (delay : Floating.Double) (name : String)
    {report : Report} (final : report.outcome ≠ .aborted) :
    (dispatcher.settle delay name (.ok report)).work = dispatcher.work := by
  simp [Dispatcher.settle, Dispatcher.again, final, Dispatcher.conclude, Dispatcher.record]

/-- Whether what comes of a look at a request is what its questions lead to: a report or a
failure that may pass, unless a read is refused for good. -/
structure Settled (name : String) (calls : List Exchange) (result : Except Failure Report) :
    Prop where
  /-- Nothing is asked once something is refused for good. -/
  final_last : ∀ before call after, calls = before ++ call :: after →
    call.Barred ∨ call.Rejected → after = []
  documented_iff : Documented result ↔ ∀ call ∈ calls, ¬call.Barred
  /-- A read that is refused for good is not reported, and the name is queued again. -/
  barred : ∀ target refusal, .read target (.error refusal) ∈ calls →
    (Exchange.read target (.error refusal)).Barred →
      ∃ fault, Cluster.Failure.ofRefusal (.read name) refusal = .api fault ∧
        fault.kind = .malformed ∧ result = .error (.cluster (.api fault)) ∧
        ∀ (dispatcher : Dispatcher) (delay : Floating.Double),
          (dispatcher.settle delay name result).work = dispatcher.work.addAfter name delay ∧
            ∃ notice, (dispatcher.settle delay name result).journal =
              dispatcher.journal ++ [notice] ∧ notice.level = .error
  /-- A write that is refused for good is reported, and the name is not queued again. -/
  rejected : ∀ call ∈ calls, call.Rejected →
    ∃ report, result = .ok report ∧ report.outcome = .malformed ∧
      ∀ (dispatcher : Dispatcher) (delay : Floating.Double),
        (dispatcher.settle delay name result).work = dispatcher.work

/-- A look at a request, where nothing happens that nobody is prepared for: each read gives an
object in order or is refused in some way, each write is accepted or refused in some way, no
review crashes, and no wait is more than a double can hold. It ends with a report or a failure
that may pass exactly if no read is refused for good. -/
theorem run_settled (rules : Rules) (api : Api σ) (resolver : Resolver σ) (name : String)
    (start : σ)
    (foreseen : ∀ call ∈ rules.exchanges api resolver name start, rules.Foreseen call)
    (validates : ∀ number before past object parsed between,
      Run.Makes rules.backoff Failure.passing? (rules.attempt api.recorded resolver.beside name)
          (start, []) number (before, past) →
        rules.TakesUp api name before object parsed between →
        (Review.review resolver rules.policy (.ofParsed parsed) between).1 ≠ .crashed)
    (waits : ∀ retry : Nat, retry + 1 < rules.backoff.maxAttempts →
      rules.backoff.delay? retry ≠ none) :
    Settled name (rules.exchanges api resolver name start)
      (Control.result (rules.run api resolver name start).1) := by
  obtain ⟨number, before, past, calls, made, asked, attempted, closes⟩ :=
    last_attempt rules api resolver name start
  rw [result_of_closes closes made.pos waits]
  rw [asked] at foreseen ⊢
  have steady : (rules.attempt api resolver name number before).1 ≠ .error .crashed := by
    intro crashed
    obtain ⟨object, parsed, between, takesUp, reviewed⟩ := takesUp_of_crashed crashed
    exact validates number before past object parsed between made takesUp reviewed
  generalize (rules.attempt api resolver name number before).1 = result at attempted steady
  have quiet := not_final_of_makes made
  have classified := attempted.classified
    (fun call member => foreseen call (List.mem_append_right past member)) steady
  constructor
  case final_last =>
    intro first call after split final
    obtain ⟨earlier, last, rfl, quietNow⟩ := attempted.last
    rw [← List.append_assoc] at split
    refine (eq_nil_or_mem_of_append_eq split).resolve_right fun member => ?_
    have notFinal : ¬call.Barred ∧ ¬call.Rejected :=
      (List.mem_append.mp member).elim (quiet call) (quietNow call)
    exact final.elim notFinal.1 notFinal.2
  case documented_iff =>
    rcases classified with ⟨documented, notBarred⟩ |
      ⟨refusal, fault, isRead, isBarred, _, kind, isFailure⟩
    · refine iff_of_true documented fun call member => ?_
      rcases List.mem_append.mp member with isEarlier | isNow
      · exact (quiet call isEarlier).1
      · exact notBarred call isNow
    · refine iff_of_false ?_ fun notBarred => ?_
      · rw [isFailure]
        simp [Documented, passing?_of_malformed kind]
      · exact notBarred _ (by simp [isRead]) isBarred
  case barred =>
    intro target refusal member isBarred
    rcases List.mem_append.mp member with isEarlier | isNow
    · exact absurd isBarred (quiet _ isEarlier).1
    · rcases classified with ⟨_, notBarred⟩ | ⟨given, fault, isRead, _, means, kind, isFailure⟩
      · exact absurd isBarred (notBarred _ isNow)
      · have same : refusal = given := by
          rw [isRead, List.mem_singleton] at isNow
          simp only [Exchange.read.injEq, Except.error.injEq] at isNow
          exact isNow.2
        refine ⟨fault, same ▸ means, kind, isFailure, fun dispatcher delay => ?_⟩
        rw [isFailure]
        refine ⟨work_settle_of_error dispatcher delay name _, _, rfl, ?_⟩
        simp [Dispatcher.failureNotice, passing?_of_malformed kind]
  case rejected =>
    intro call member rejected
    rcases List.mem_append.mp member with isEarlier | isNow
    · exact absurd rejected (quiet call isEarlier).2
    · obtain ⟨report, isReport, malformed⟩ := attempted.malformed_of_rejected isNow rejected
      refine ⟨report, isReport, malformed, fun dispatcher delay => ?_⟩
      rw [isReport]
      apply work_settle_of_ok
      rw [malformed]
      decide

/-! ## A read that is refused for good -/

/-- The request that is decided in the second attempt is reported. -/
theorem run_settled_busy :
    Documented (Control.result (twiceRules.run Server.api nodeResolver "csr" busyServer).1) := by
  have orderly := orderly_busy.1
  have foreseen : ∀ call ∈ twiceRules.exchanges Server.api nodeResolver "csr" busyServer,
      twiceRules.Foreseen call := fun call member => foreseen_of_orderly (orderly call member)
  have waits : ∀ retry : Nat, retry + 1 < twiceRules.backoff.maxAttempts →
      twiceRules.backoff.delay? retry ≠ none := by
    intro retry less
    have isFirst : retry < 1 := Nat.lt_of_succ_lt_succ less
    obtain rfl : retry = 0 := by omega
    decide
  have validates : ∀ (parsed : Request.Parsed) (between : Server),
      (Review.review nodeResolver twiceRules.policy (.ofParsed parsed) between).1 ≠ .crashed := by
    intro parsed between crashed
    have tells : ∀ asked (server : Server), (nodeResolver asked server).1.Tells :=
      fun _ _ => trivial
    rw [Review.review_eq tells] at crashed
    cases crashed
  have settled := run_settled twiceRules Server.api nodeResolver "csr" busyServer foreseen
    (fun _ _ _ _ parsed between _ _ => validates parsed between) waits
  rw [settled.documented_iff]
  intro call member
  exact not_barred_of_orderly (orderly call member)

def forbidden : Refusal := .status (some 403) (some "Forbidden")

/-- A controller that may not read what is in its queue. -/
def forbiddenController : Controller where
  world :=
    { server := { reads := [some (.refuse forbidden)] }
      service := .records ⟨[]⟩ [] }
  dispatcher := Dispatcher.add {} "csr"

/-- The read is refused for good, and the request is looked at again and again, each time as if
something unexpected had happened. -/
theorem not_documented_forbidden :
    let settings : Settings := { rules := nodeRules }
    let world := forbiddenController.world
    let result := Control.result (nodeRules.run World.api World.resolver "csr" world).1
    let later := (forbiddenController.processNext settings).2
    nodeRules.exchanges World.api World.resolver "csr" world = [.read "csr" (.error forbidden)] ∧
      result = .error (.cluster (.api (.status (.read "csr") (some 403) (some "Forbidden")))) ∧
      ¬Documented result ∧
      later.dispatcher.journal = [⟨.error, "CSR csr 调和出现未预期错误，5.0s 后重新入队"⟩] ∧
      later.dispatcher.work.timers.map (·.name) = ["csr"] := by
  refine ⟨rfl, rfl, ?_, ?_, ?_⟩
  · intro documented
    cases documented
  · decide +kernel
  · decide +kernel

end Rules

end Control

end CertApproval
