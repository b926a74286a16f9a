import CertApproval.Floating.Places
import CertApproval.Retry.Backoff

/-!
Attempts that go on until one succeeds, fails for good, or was the last that is allowed.
A run keeps what happened in it, from the first attempt to the last.
-/

namespace CertApproval.Retry

/-- What happens in the course of a run. -/
inductive Event where
  | attempt (number : Nat)
  /-- A wait after an attempt that failed, and what is said of the failure. -/
  | wait (number : Nat) (reason : String) (delay : Floating.Double)
  deriving DecidableEq, Repr

namespace Event

/-- The number of the attempt, if one was made. -/
def attempt? : Event → Option Nat
  | attempt number => some number
  | wait _ _ _ => none

/-- The time of the wait, if there was one. -/
def wait? : Event → Option Floating.Double
  | attempt _ => none
  | wait _ _ delay => some delay

/-- What is reported of a wait. -/
def notice? : Event → Option String
  | attempt _ => none
  | wait number reason delay =>
    some s!"第 {number} 次尝试失败（{reason}），{Floating.withPlaces 2 delay}s 后重试"

end Event

/-- How a run ends. -/
inductive Ending (ε α : Type) where
  | done (value : α)
  | failed (fault : ε)
  /-- The next wait is more than a double can hold. -/
  | overflow

/-- A run: what happened in it, and how it ended. -/
structure Run (ε α : Type) where
  events : List Event
  ending : Ending ε α

namespace Run

variable {σ ε α : Type}

/-- A run with events before its own. -/
def after (earlier : List Event) (run : Run ε α) : Run ε α :=
  { run with events := earlier ++ run.events }

def attempts (run : Run ε α) : List Nat := run.events.filterMap Event.attempt?

def waits (run : Run ε α) : List Floating.Double := run.events.filterMap Event.wait?

def notices (run : Run ε α) : List String := run.events.filterMap Event.notice?

/-- The attempts from a number on, with `left` more after it. A failure is tried again if
there is a reason for that. -/
def continueFrom (backoff : Backoff) (reason? : ε → Option String)
    (act : Nat → StateM σ (Except ε α)) :
    (left : Nat) → (number : Nat) → σ → Run ε α × σ
  | left, number, state =>
    match act number state with
    | (.ok value, state) => (⟨[.attempt number], .done value⟩, state)
    | (.error fault, state) =>
      match reason? fault, left with
      | none, _ => (⟨[.attempt number], .failed fault⟩, state)
      | some _, 0 => (⟨[.attempt number], .failed fault⟩, state)
      | some reason, left + 1 =>
        match backoff.delay? (Int.ofNat number - 1) with
        | none => (⟨[.attempt number], .overflow⟩, state)
        | some delay =>
          let (rest, state) := continueFrom backoff reason? act left (number + 1) state
          (rest.after [.attempt number, .wait number reason delay], state)

/-- All attempts, which are numbered from one. -/
def start (backoff : Backoff) (reason? : ε → Option String)
    (act : Nat → StateM σ (Except ε α)) : StateM σ (Run ε α) :=
  continueFrom backoff reason? act (backoff.maxAttempts - 1) 1

end Run

end CertApproval.Retry
