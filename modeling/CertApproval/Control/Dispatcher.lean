import CertApproval.Control.Attempt
import CertApproval.Control.WorkQueue

/-!
Handing out names to workers and settling what comes of them: what is reported and counted,
and which names have to be looked at again. The steps of a worker stand apart, since the
steps of others may come between them.
-/

namespace CertApproval.Control

/-- What is counted: every outcome, and every check that failed, by its name. -/
structure Counters where
  outcomes : List Outcome := []
  failedChecks : List String := []
  deriving DecidableEq, Repr

namespace Counters

/-- Counts an outcome and the checks that failed. -/
def count (counters : Counters) (outcome : Outcome) (failedChecks : List String) : Counters where
  outcomes := counters.outcomes ++ [outcome]
  failedChecks := counters.failedChecks ++ failedChecks

def names : List String :=
  ["kubelet_csr_approver_check_failures_total", "kubelet_csr_approver_reconcile_total"]

end Counters

/-- The queue of names, and what was reported and counted. -/
structure Dispatcher where
  work : WorkQueue := {}
  journal : List Notice := []
  counters : Counters := {}
  deriving DecidableEq, Repr

namespace Dispatcher

def note (dispatcher : Dispatcher) (level : Level) (text : String) : Dispatcher :=
  { dispatcher with journal := dispatcher.journal ++ [⟨level, text⟩] }

def noteAll (dispatcher : Dispatcher) (level : Level) (texts : List String) : Dispatcher :=
  texts.foldl (fun dispatcher text => dispatcher.note level text) dispatcher

/-- Reports and counts what came of a request. -/
def record (dispatcher : Dispatcher) (report : Report) : Dispatcher :=
  { dispatcher with
    journal := dispatcher.journal ++ [report.notice]
    counters := dispatcher.counters.count report.outcome report.failedChecks }

/-- What is reported of a failure. -/
def failureNotice (name : String) (delay : Floating.Double) (failure : Failure) : Notice :=
  let seconds := Floating.text delay
  match failure.passing? with
  | some text => ⟨.warning, s!"CSR {name} 调和遇到临时错误，{seconds}s 后重新入队：{text}"⟩
  | none => ⟨.error, s!"CSR {name} 调和出现未预期错误，{seconds}s 后重新入队"⟩

def add (dispatcher : Dispatcher) (name : String) : Dispatcher :=
  { dispatcher with work := dispatcher.work.add name }

/-- Adds a name to the queue once more, after a delay. -/
def addAgain (dispatcher : Dispatcher) (name : String) (delay : Floating.Double) : Dispatcher :=
  { dispatcher with work := dispatcher.work.addAfter name delay }

/-- Whether a name has to be looked at again. -/
def again : Except Failure Report → Bool
  | .ok report => report.outcome = .aborted
  | .error _ => true

/-- Reports and counts how a run ended. -/
def conclude (dispatcher : Dispatcher) (delay : Floating.Double) (name : String) :
    Except Failure Report → Dispatcher
  | .ok report => dispatcher.record report
  | .error failure =>
    { dispatcher with
      journal := dispatcher.journal ++ [failureNotice name delay failure]
      counters := dispatcher.counters.count .transientError [] }

/-- Settles how a run ended, up to giving the name back. -/
def settle (dispatcher : Dispatcher) (delay : Floating.Double) (name : String)
    (result : Except Failure Report) : Dispatcher :=
  let dispatcher := dispatcher.conclude delay name result
  if again result then dispatcher.addAgain name delay else dispatcher

def take (dispatcher : Dispatcher) : Option String × Dispatcher :=
  let (name, work) := dispatcher.work.get
  (name, { dispatcher with work })

def release (dispatcher : Dispatcher) (name : String) : Dispatcher :=
  { dispatcher with work := dispatcher.work.done name }

end Dispatcher

end CertApproval.Control
