import CertApproval.Control.Controller

/-!
A controller with its workers: how they are named, and a whole run from the start to the
stop, in which the reading of one name may take longer than the stop can wait.
-/

namespace CertApproval.Control

namespace Settings

/-- The name of what follows the changes. -/
def watchThread : String := "csr-watch"

def workerThread (number : Nat) : String := s!"csr-worker-{number}"

def workerThreads (settings : Settings) : List String :=
  (List.range settings.workers.toNat).map workerThread

/-- The names of all that run at the same time. -/
def threads (settings : Settings) : List String := watchThread :: settings.workerThreads

end Settings

namespace Controller

/-- Whether a controller that was started, or was not, is running. -/
def running (controller : Controller) (started : Bool) : Bool :=
  started && !controller.world.stopped

/-- Lets workers take names until there are none, but not more than `most`. The answer says
whether a worker took the name that is held: it stays with the name, so there is one worker less
for the others. -/
def drainHolding (settings : Settings) (held : Option String) :
    (most : Nat) → (workers : Nat) → Controller → Bool × Controller
  | 0, _, controller => (false, controller)
  | _ + 1, 0, controller => (false, controller)
  | most + 1, workers + 1, controller =>
    match controller.dispatcher.take with
    | (none, dispatcher) => (false, { controller with dispatcher })
    | (some name, dispatcher) =>
      let controller := { controller with dispatcher }
      if held = some name then
        let (_, controller) := drainHolding settings none most workers controller
        (true, controller)
      else drainHolding settings held most (workers + 1) (controller.work settings name)

/-- What is seen of a whole run. -/
structure PoolRun where
  /-- The workers that did not end in time. -/
  late : List String
  /-- Whether all workers ended in time. -/
  ended : Bool
  runningAfterStart : Bool
  /-- The controller when it has stopped. -/
  atStop : Controller
  /-- The controller when the worker that was late has ended too. -/
  atEnd : Controller

/-- A whole run: names are queued, workers take them, and the controller is stopped. -/
def runPool (settings : Settings) (names : List String) (held : Option String)
    (controller : Controller) : PoolRun :=
  let fed := names.foldl enqueue controller
  let (holding, drained) :=
    fed.drainHolding settings held names.length settings.workers.toNat
  let late := if holding then settings.workerThreads.take 1 else []
  let (ended, atStop) := drained.stop late
  { late, ended, atStop
    runningAfterStart := controller.running true
    atEnd := if holding then atStop.work settings (held.getD "") else atStop }

end Controller

end CertApproval.Control
