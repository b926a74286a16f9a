import CertApproval.Floating.Arithmetic

/-!
A queue of names that are to be looked at. A name is in the hands of one worker at most; a
name that is added while a worker holds it is queued once more when the worker is done.
Names may also be added after a delay, by a timer.
-/

namespace CertApproval.Control

structure Timer where
  serial : Nat
  due : Floating.Double
  name : String
  deriving DecidableEq, Repr

/-- A queue of names. `dirty` holds the names that were added and not handed out since,
`processing` those that a worker holds, and `now` is the time of its clock. -/
structure WorkQueue where
  queue : List String := []
  dirty : List String := []
  processing : List String := []
  timers : List Timer := []
  nextSerial : Nat := 0
  now : Floating.Double := 0
  shuttingDown : Bool := false
  deriving DecidableEq, Repr

namespace WorkQueue

/-- The number of names that wait for a worker. -/
def length (work : WorkQueue) : Nat := work.queue.length

/-- Adds a name. A name that is dirty already is not added twice. -/
def add (work : WorkQueue) (name : String) : WorkQueue :=
  if work.shuttingDown ∨ name ∈ work.dirty then work
  else
    let work := { work with dirty := work.dirty ++ [name] }
    if name ∈ work.processing then work else { work with queue := work.queue ++ [name] }

def setTimer (work : WorkQueue) (name : String) (delay : Floating.Double) : WorkQueue :=
  { work with
    timers := work.timers ++ [⟨work.nextSerial, work.now + delay, name⟩]
    nextSerial := work.nextSerial + 1 }

/-- Adds a name after a delay, and at once if the delay is not positive. -/
def addAfter (work : WorkQueue) (name : String) (delay : Floating.Double) : WorkQueue :=
  if delay ≤ 0 then work.add name
  else if work.shuttingDown then work
  else work.setTimer name delay

/-- Hands out the name that has waited longest. -/
def get (work : WorkQueue) : Option String × WorkQueue :=
  match work.queue with
  | [] => (none, work)
  | name :: queue =>
    (some name,
      { work with
        queue
        dirty := work.dirty.filter (· ≠ name)
        processing := if name ∈ work.processing then work.processing
          else work.processing ++ [name] })

/-- Takes a name back from a worker. -/
def done (work : WorkQueue) (name : String) : WorkQueue :=
  let work := { work with processing := work.processing.filter (· ≠ name) }
  if name ∈ work.dirty ∧ ¬work.shuttingDown then { work with queue := work.queue ++ [name] }
  else work

/-- Closes the queue for good. -/
def shutDown (work : WorkQueue) : WorkQueue :=
  { work with shuttingDown := true, timers := [], queue := [] }

def dropTimer (work : WorkQueue) (timer : Timer) : WorkQueue :=
  { work with timers := work.timers.filter fun other => other.serial ≠ timer.serial }

/-- A timer that is due takes itself off and adds its name. -/
def fire (work : WorkQueue) (timer : Timer) : WorkQueue := (work.dropTimer timer).add timer.name

/-- The timers that are due, in the order in which they fire. -/
def dueTimers (work : WorkQueue) : List Timer :=
  (work.timers.filter fun timer => timer.due ≤ work.now).mergeSort fun first second =>
    first.due ≤ second.due

def advance (work : WorkQueue) (seconds : Floating.Double) : WorkQueue :=
  let work := { work with now := work.now + seconds }
  work.dueTimers.foldl fire work

end WorkQueue

end CertApproval.Control
