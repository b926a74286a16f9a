import CertApproval.Fields.Record
import CertApproval.Floating.Power

/-!
How long to wait before the next attempt: longer after every failure, up to a limit.
-/

namespace CertApproval.Retry

open CertApproval.Fields

/-- The waits between attempts, in seconds, and how many attempts there may be. -/
structure Backoff where
  maxAttempts : Nat
  initialDelay : Floating.Double
  factor : Floating.Double
  maxDelay : Floating.Double
  /-- There is always a first attempt. -/
  maxAttempts_pos : 0 < maxAttempts
  deriving DecidableEq, Repr

namespace Backoff

def defaultAttempts : Nat := 5

def defaultInitialDelay : Floating.Double := Floating.ofDecimal false 5 (-2)

def defaultFactor : Floating.Double := 2

def defaultMaxDelay : Floating.Double := 2

/-- The lesser of two waits, and the first of two that cannot be compared. -/
def lesser (wait limit : Floating.Double) : Floating.Double := if limit < wait then limit else wait

/-- The wait after a failure: the first wait times a power of the factor, but not more than
the limit. A power that no double can hold has no wait, however low the limit. -/
def delay? (backoff : Backoff) (retry : Int) : Option Floating.Double :=
  (Floating.power? backoff.factor retry).map fun growth =>
    lesser (backoff.initialDelay * growth) backoff.maxDelay

/-- A number of attempts, of which there is at least one. -/
def readAttempts (value : Json) : Except FieldFault { count : Nat // 0 < count } :=
  match readInt value with
  | .error fault => .error fault
  | .ok count =>
    if positive : 0 < count.toNat then .ok ⟨count.toNat, positive⟩ else .error .tooSmall

/-- A double that is not below a bound. -/
def readAtLeast (bound : Floating.Double) : Json → Except FieldFault Floating.Double :=
  ruled readFloat fun value => if value < bound then some .tooSmall else none

def ofRecord (record : Json) : Checked Backoff :=
  Checked.andThen
    (Checked.andThen
      (Checked.andThen
        ((optional record "max_attempts" ⟨defaultAttempts, by decide⟩ readAttempts).map
          fun attempts initialDelay factor maxDelay =>
            ⟨attempts.val, initialDelay, factor, maxDelay, attempts.property⟩)
        (optional record "initial_delay" defaultInitialDelay (readAtLeast 0)))
      (optional record "factor" defaultFactor (readAtLeast 1)))
    (optional record "max_delay" defaultMaxDelay (readAtLeast 0))

def standard : Backoff :=
  ⟨defaultAttempts, defaultInitialDelay, defaultFactor, defaultMaxDelay, by decide⟩

end Backoff

end CertApproval.Retry
