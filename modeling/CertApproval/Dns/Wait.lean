import CertApproval.Dns.Lookup

/-!
Waiting for a lookup that runs elsewhere. The wait is cut into intervals; after each of
them that brings no answer a signal to stop is looked for first, and only then whether
the time is up. Time is exact.
-/

namespace CertApproval.Dns

open CertApproval.Net (Address)

/-- What a lookup that runs elsewhere shows at one moment. -/
inductive Poll where
  | answered (addresses : List Address)
  | failed (cause : String)
  | crashed
  | pending
  deriving DecidableEq, Repr

/-- The longest time between two looks at the signal to stop, in seconds. -/
def pollInterval : Rat := 1 / 20

def waitTime (remaining : Rat) : Rat := if remaining < pollInterval then remaining else pollInterval

/-- The number of intervals that a time is cut into. -/
def intervals (remaining : Rat) : Nat := (20 * remaining).ceil.toNat

theorem twenty_mul_pollInterval : 20 * pollInterval = 1 := by decide +kernel

theorem intervals_sub_waitTime {remaining : Rat} (more : 0 < remaining - waitTime remaining) :
    intervals (remaining - waitTime remaining) < intervals remaining := by
  by_cases short : remaining < pollInterval
  · simp only [waitTime, if_pos short, Rat.sub_self] at more
    exact absurd more (by decide)
  · simp only [waitTime, if_neg short] at more ⊢
    have scaled : 20 * (remaining - pollInterval) = 20 * remaining - 1 := by
      rw [Rat.sub_eq_add_neg, Rat.mul_add, Rat.mul_neg, twenty_mul_pollInterval,
        Rat.sub_eq_add_neg]
    have positive : 0 < (20 * remaining - 1).ceil := by
      rw [← scaled]
      have twenty : (0 : Rat) < 20 := by decide
      apply Rat.lt_ceil_iff.mpr
      simpa using Rat.mul_pos twenty more
    simp only [intervals, scaled, Rat.ceil_sub_one] at positive ⊢
    omega

/-- Waits for a lookup of a name, for `remaining` of the time that was given at first.
`poll n` is what the lookup shows at the `n`-th look, and `stopped n` whether a stop is
signalled by then. -/
def wait (name : String) (timeout : Floating.Double) (poll : Nat → Poll) (stopped : Nat → Bool)
    (count : Nat) (remaining : Rat) : Lookup :=
  match poll count with
  | .answered addresses => .found addresses
  | .failed cause => .failed (.failed name cause)
  | .crashed => .crashed
  | .pending =>
    if stopped count then .aborted name
    else if _more : 0 < remaining - waitTime remaining then
      wait name timeout poll stopped (count + 1) (remaining - waitTime remaining)
    else .failed (.timedOut name timeout)
termination_by intervals remaining
decreasing_by exact intervals_sub_waitTime _more

/-- A finite number of seconds. -/
def secondsOf? (timeout : Floating.Double) : Option Rat :=
  (Floating.toRatio? timeout).map fun (negative, numerator, denominator) =>
    let size := mkRat numerator denominator
    if negative then -size else size

end CertApproval.Dns
