import CertApproval.Proofs.Decision.Accepted
import CertApproval.Proofs.Queue.Shift
import CertApproval.Proofs.Report.Course
import CertApproval.Proofs.Retry.Attempts
import CertApproval.Proofs.Review.Checks

/-!
What becomes of a request when the process is shut down. Main statement: when a lookup is given
up at shutdown, the attempt writes nothing and is the last one, and the request is looked at
again later, whatever was found of its other names and whatever its other checks would say.
-/

namespace CertApproval

/-! ## Lookups that are given up -/

namespace Dns

variable {σ : Type}

/-- Whether names are looked up in order until one of them is given up. -/
structure Resolver.GivesUp (resolver : Resolver σ) (names : List String) (before : σ)
    (reported : String) (after : σ) : Prop where
  at_name : ∃ earlier asked later, names = earlier ++ asked :: later ∧
    (∀ answer ∈ (earlier.mapM resolver before).1, answer.Tells) ∧
    resolver asked (earlier.mapM resolver before).2 = (.aborted reported, after)

end Dns

open CertApproval.Cluster (Api Exchange Object Refusal Snapshot)
open CertApproval.Control.Scene (nodeObject nodeRules)
open CertApproval.Dns (Hosts Lookups Resolver)
open CertApproval.Retry (Run)
open CertApproval.Review (Condition Policy Subject)

section Reviews

variable {σ : Type} {resolver : Resolver σ} {before after : σ} {reported : String}

theorem Review.Check.resolveAll_of_givesUp {names : List String}
    (givesUp : resolver.GivesUp names before reported after) (resolved : Resolved) :
    resolveAll resolver names resolved before = (.aborted reported, after) := by
  obtain ⟨earlier, asked, later, rfl, tells, aborted⟩ := givesUp.at_name
  clear givesUp
  induction earlier generalizing resolved before with
  | nil =>
      have abortedFirst : resolver asked before = (.aborted reported, after) := aborted
      simp [resolveAll, abortedFirst]
  | cons name earlier inductionHypothesis =>
      rw [List.mapM_cons] at tells aborted
      cases answered : resolver name before with
      | mk answer next =>
          simp only [bind_apply, pure_apply, answered, List.forall_mem_cons] at tells aborted
          have continued (resolved : Resolved) := inductionHypothesis resolved tells.2 aborted
          cases answer with
          | found addresses | failed fault =>
              simp [resolveAll, answered, continued]
          | aborted other | crashed =>
              exact tells.1.elim

theorem Review.review_of_givesUp {policy : Policy} {subject : Subject}
    (resolves : policy.bypassResolution = false)
    (givesUp : resolver.GivesUp subject.dnsNames before reported after) :
    review resolver policy subject before = (.aborted reported, after) := by
  simp [review, checkResolution, resolves, Check.resolveAll_of_givesUp givesUp]

end Reviews

namespace Control

/-! ## Attempts that are given up -/

namespace Rules

variable {σ : Type} {rules : Rules} {api : Api σ} {resolver : Resolver σ} {name : String}
  {number : Nat} {before between after : σ} {past : List Exchange} {object : Object}
  {parsed : Request.Parsed} {reported : String}

theorem judge_of_givesUp {snapshot : Snapshot} (notLeft : rules.leave? snapshot = none)
    (decoded : Request.decode snapshot.request (rules.sender snapshot) = .ok parsed)
    (resolves : rules.policy.bypassResolution = false)
    (givesUp : resolver.GivesUp parsed.dnsNames between reported after) :
    rules.judge resolver snapshot between =
      (.report .aborted (Dns.abortedMessage reported), after) := by
  have reviewed : Review.review resolver rules.policy (.ofParsed parsed) between =
      (.aborted reported, after) := Review.review_of_givesUp resolves givesUp
  simp [judge, notLeft, decoded, Rules.reviewed, reviewed]

/-- The report of a request whose review was given up. -/
def abortedReport (name : String) (number : Nat) (reported : String) : Report :=
  { name, outcome := .aborted, checks := [], message := Dns.abortedMessage reported
    attempts := Int.ofNat number }

theorem attempt_of_givesUp (takesUp : rules.TakesUp api name before object parsed between)
    (resolves : rules.policy.bypassResolution = false)
    (givesUp : resolver.GivesUp parsed.dnsNames between reported after) :
    rules.attempt api.recorded resolver.beside name number (before, past) =
      (.ok (abortedReport name number reported), after, past ++ [.read name (.ok object)]) := by
  obtain ⟨snapshot, shown, ours, undecided, decoded⟩ := takesUp.reviewable
  have judged := judge_of_givesUp (leave?_eq_none.mpr ⟨ours, undecided⟩) decoded resolves givesUp
  simp [attempt, Api.get, Api.readAnswer, takesUp.read, shown, judge_beside, beside, judged,
    Judgement.carryOut, abortedReport]

/-- Whether a run ends with an attempt that is given up: there is no later one, it writes
nothing after the questions of the earlier ones, no check is reported, and the request is
queued again. -/
structure EndsAborted (rules : Rules) (api : Api σ) (resolver : Resolver σ) (name : String)
    (start : σ) (number : Nat) (past : List Exchange) (object : Object) (reported : String)
    (after : σ) : Prop where
  attempts : (rules.run api resolver name start).1.attempts = List.range' 1 number
  state : (rules.run api resolver name start).2 = after
  result : Control.result (rules.run api resolver name start).1 =
    .ok (abortedReport name number reported)
  exchanges : rules.exchanges api resolver name start = past ++ [.read name (.ok object)]
  again : ∀ (dispatcher : Dispatcher) (delay : Floating.Double),
    (dispatcher.settle delay name
        (Control.result (rules.run api resolver name start).1)).work =
      dispatcher.work.addAfter name delay

theorem endsAborted {start : σ}
    (made : Run.Makes rules.backoff Failure.passing?
      (rules.attempt api.recorded resolver.beside name) (start, []) number (before, past))
    (takesUp : rules.TakesUp api name before object parsed between)
    (resolves : rules.policy.bypassResolution = false)
    (givesUp : resolver.GivesUp parsed.dnsNames between reported after) :
    rules.EndsAborted api resolver name start number past object reported after := by
  obtain ⟨isDone, attempts, state⟩ := made.ends (attempt_of_givesUp takesUp resolves givesUp)
  have same : Run.start rules.backoff Failure.passing?
      (rules.attempt api.recorded resolver.beside name) (start, []) = _ :=
    run_recorded_eq rules api resolver name start
  rw [same] at isDone attempts state
  have isReport : Control.result (rules.run api resolver name start).1 =
      .ok (abortedReport name number reported) := by
    rw [Control.result, isDone]
  constructor
  case attempts =>
    exact attempts
  case state =>
    exact congrArg Prod.fst state
  case result =>
    exact isReport
  case exchanges =>
    exact congrArg Prod.snd state
  case again =>
    intro dispatcher delay
    rw [isReport]
    rfl

/-! ## Attempts under the signal to stop -/

theorem givesUp_of_stopped {world : World} {table : Hosts} {lookups : Lookups}
    (hosts : world.service = .hosts table lookups) (stopped : world.stopped = true)
    (asked : String) (later : List String) :
    World.resolver.GivesUp (asked :: later) world asked
      { world with service := .hosts table { lookups with stopped := true } } := by
  obtain ⟨server, service, stop⟩ := world
  subst hosts stopped
  refine ⟨[], asked, later, rfl, ?_, rfl⟩
  intro answer member
  cases member

/-- No request is decided once the signal to stop is given, if it has a name to look up. -/
theorem judge_ne_decide_of_stopped {world : World} {table : Hosts} {lookups : Lookups}
    (resolves : rules.policy.bypassResolution = false)
    (hosts : world.service = .hosts table lookups) (stopped : world.stopped = true)
    {snapshot : Snapshot}
    (named : ∀ parsed, Request.decode snapshot.request (rules.sender snapshot) = .ok parsed →
      parsed.dnsNames ≠ [])
    (verdict : Review.Verdict) :
    (rules.judge World.resolver snapshot world).1 ≠ .decide verdict := by
  intro judged
  obtain ⟨notLeft, parsed, decoded, _⟩ := judge_decide judged
  obtain ⟨asked, later, names⟩ := List.exists_cons_of_ne_nil (named parsed decoded)
  have givesUp := givesUp_of_stopped hosts stopped asked later
  rw [← names] at givesUp
  have judgedAborted := judge_of_givesUp notLeft decoded resolves givesUp
  rw [judgedAborted] at judged
  cases judged

theorem attempt_of_undecided {answer : Except Refusal Object}
    (read : api.read name before = (answer, between))
    (undecided : ∀ snapshot, Api.readAnswer name answer = .ok (some snapshot) →
      ∀ verdict, (rules.judge resolver snapshot between).1 ≠ .decide verdict) :
    (rules.attempt api.recorded resolver.beside name number (before, past)).2.2 =
      past ++ [.read name answer] := by
  cases answered : Api.readAnswer name answer with
  | error failure =>
      simp [attempt, Api.get, read, answered]
  | ok found =>
      cases found with
      | none =>
          simp [attempt, Api.get, read, answered]
      | some snapshot =>
          have notDecided := undecided snapshot answered
          cases judged : rules.judge resolver snapshot between with
          | mk judgement rest =>
              rw [judged] at notDecided
              cases judgement with
              | report outcome message | fail failure =>
                  simp [attempt, Api.get, read, answered, judge_beside, beside, judged,
                    Judgement.carryOut]
              | decide verdict =>
                  exact absurd rfl (notDecided verdict)

end Rules

/-! ## Requests at shutdown -/

/-- Shutdown never becomes a decision. Where DNS names are checked, an attempt of a run in which
a lookup is given up writes nothing, reports no check and is the last one, and the controller
queues the request again. And once the signal to stop is given, in whatever state and however
the cluster answers, an attempt that has yet to judge what it read writes nothing, if the
request has a name. -/
theorem shutdown_undecided (settings : Settings) (name : String)
    (resolves : settings.rules.policy.bypassResolution = false) :
    (∀ {σ : Type} (api : Api σ) (resolver : Resolver σ) (start before between after : σ)
      (past : List Exchange) (number : Nat) (object : Object) (parsed : Request.Parsed)
      (reported : String),
      Run.Makes settings.rules.backoff Failure.passing?
          (settings.rules.attempt api.recorded resolver.beside name) (start, []) number
          (before, past) →
        settings.rules.TakesUp api name before object parsed between →
        resolver.GivesUp parsed.dnsNames between reported after →
        settings.rules.EndsAborted api resolver name start number past object reported after) ∧
    (∀ (controller : Controller) (rest : Dispatcher) (number : Nat) (past : List Exchange)
      (object : Object) (reported : String) (after : World),
      controller.dispatcher.take = (some name, rest) →
        settings.rules.EndsAborted World.api World.resolver name controller.world number past
          object reported after →
        (controller.processNext settings).1 = true ∧
          (controller.processNext settings).2.dispatcher.work =
            (rest.work.addAfter name settings.requeueDelay).done name) ∧
    (∀ (api : Api World) (before between : World) (past : List Exchange) (number : Nat)
      (answer : Except Refusal Object) (table : Hosts) (lookups : Lookups),
      api.read name before = (answer, between) →
        between.service = .hosts table lookups → between.stopped = true →
        (∀ snapshot parsed, Api.readAnswer name answer = .ok (some snapshot) →
          Request.decode snapshot.request (settings.rules.sender snapshot) = .ok parsed →
          parsed.dnsNames ≠ []) →
        (settings.rules.attempt api.recorded World.resolver.beside name number
            (before, past)).2.2 = past ++ [.read name answer]) := by
  refine ⟨?_, ?_, ?_⟩
  · intro σ api resolver start before between after past number object parsed reported made
      takesUp givesUp
    exact Rules.endsAborted made takesUp resolves givesUp
  · intro controller rest number past object reported after taken ends
    refine ⟨?_, ?_⟩
    · simp [Controller.processNext, taken]
    · rw [Shift.dispatcher_processNext taken, Dispatcher.release, ends.again, Shift.work_noteAll]
  · intro api before between past number answer table lookups read hosts stopped named
    apply Rules.attempt_of_undecided read
    intro snapshot answered verdict
    exact Rules.judge_ne_decide_of_stopped resolves hosts stopped
      (fun parsed decoded => named snapshot parsed answered decoded) verdict

/-! ## A stop between two attempts -/

def nodeSettings : Settings where
  rules := nodeRules

/-- A world in which a stop was signalled, after the cluster has failed once. -/
def stoppedWorld : World where
  server := { store := ⟨[("csr", nodeObject)]⟩ }
  service := .hosts ⟨[], 1⟩ {}
  stopped := true

/-- The failure of the cluster that comes first. -/
def unavailable : Refusal := .status (some 503) (some "Service Unavailable")

/-- The same world before that failure. -/
def stoppingWorld : World :=
  { stoppedWorld with server := { stoppedWorld.server with reads := [some (.refuse unavailable)] } }

def stoppingController : Controller where
  world := stoppingWorld
  dispatcher := Dispatcher.add {} "csr"

theorem leave?_node {snapshot : Snapshot} (shown : Snapshot.ofObject nodeObject = .ok snapshot) :
    nodeRules.leave? snapshot = none := by
  cases shown
  rfl

theorem decode_node {snapshot : Snapshot} (shown : Snapshot.ofObject nodeObject = .ok snapshot) :
    ∃ parsed, Request.decode snapshot.request (nodeRules.sender snapshot) = .ok parsed ∧
      parsed.dnsNames = ["worker-1.cluster.local"] := by
  have names : (Request.decode snapshot.request (nodeRules.sender snapshot)).map
      (·.dnsNames) = .ok ["worker-1.cluster.local"] := by
    cases shown
    decide +kernel
  cases decoded : Request.decode snapshot.request (nodeRules.sender snapshot) with
  | error fault =>
      rw [decoded] at names
      cases names
  | ok parsed =>
      rw [decoded] at names
      exact ⟨parsed, rfl, Except.ok.inj names⟩

/-- The second attempt finds the stop, and the request waits to be looked at again. -/
theorem shutdown_undecided_node :
    (∃ after,
      nodeRules.EndsAborted World.api World.resolver "csr" stoppingWorld 2
          [.read "csr" (.error unavailable)] nodeObject "worker-1.cluster.local" after) ∧
      (stoppingController.processNext nodeSettings).2.dispatcher.work =
        ((WorkQueue.get (WorkQueue.add {} "csr")).2.addAfter "csr" 5).done "csr" ∧
      (nodeSettings.rules.attempt World.api.recorded World.resolver.beside "csr" 1
          (stoppedWorld, [])).2.2 = [.read "csr" (.ok nodeObject)] := by
  obtain ⟨aborted, requeued, unwritten⟩ := shutdown_undecided nodeSettings "csr" rfl
  obtain ⟨snapshot, shown⟩ : ∃ snapshot, Snapshot.ofObject nodeObject = .ok snapshot := ⟨_, rfl⟩
  obtain ⟨parsed, decoded, names⟩ := decode_node shown
  obtain ⟨delay, waited⟩ := Option.ne_none_iff_exists'.mp
    (show nodeRules.backoff.delay? (Int.ofNat 1 - 1) ≠ none by decide)
  let failed : World := (nodeRules.attempt World.api World.resolver "csr" 1 stoppingWorld).2
  let between : World := (World.api.read "csr" failed).2
  have second : Run.Makes nodeRules.backoff Failure.passing?
      (nodeRules.attempt World.api.recorded World.resolver.beside "csr") (stoppingWorld, []) 2
      (failed, [.read "csr" (.error unavailable)]) :=
    .next .first rfl rfl (by decide) waited
  have reviewable := Rules.leave?_eq_none.mp (leave?_node shown)
  have takesUp : nodeRules.TakesUp World.api "csr" failed nodeObject parsed between :=
    ⟨rfl, snapshot, shown, reviewable.1, reviewable.2, decoded⟩
  have givesUp : World.resolver.GivesUp parsed.dnsNames between "worker-1.cluster.local" _ :=
    names ▸ Rules.givesUp_of_stopped rfl rfl "worker-1.cluster.local" []
  have ends := aborted World.api World.resolver _ _ _ _ _ _ _ _ _ second takesUp givesUp
  have named : ∀ other found,
      Cluster.Api.readAnswer "csr" (.ok nodeObject) = .ok (some other) →
      Request.decode other.request (nodeRules.sender other) = .ok found → found.dnsNames ≠ [] := by
    intro other found answered foundIn
    obtain ⟨object, same, shownOther⟩ := Cluster.Api.object_of_readAnswer answered
    cases same
    obtain ⟨parsedOther, decodedOther, namesOther⟩ := decode_node shownOther
    cases foundIn.symm.trans decodedOther
    rw [namesOther]
    exact List.cons_ne_nil _ _
  have unwrittenFirst := unwritten World.api stoppedWorld _ [] 1 _ _ _ rfl rfl rfl named
  rw [List.nil_append] at unwrittenFirst
  exact ⟨⟨_, ends⟩, (requeued stoppingController _ 2 _ nodeObject _ _ rfl ends).2, unwrittenFirst⟩

end Control

end CertApproval
