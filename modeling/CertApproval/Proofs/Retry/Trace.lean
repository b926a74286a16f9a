import CertApproval.Cluster.Fault
import CertApproval.Retry.Run
import Mathlib.Data.List.Range
import Mathlib.Data.Nat.Find

/-!
The trace of a run: its calls, the waits between them, and its end. Main statement: a run calls
again after every failure that may pass, up to the first other answer or up to its limit; it waits
between two calls, each time as long as the failures so far ask for, and never after the last; and
it ends as its last call does.
-/

namespace CertApproval.Retry

variable {σ ε α : Type}

/-- The end of a run whose last call has a given answer. -/
def Ending.ofAnswer : Except ε α → Ending ε α
  | .ok value => .done value
  | .error fault => .failed fault

namespace Run

/-! ## Calls and their answers -/

section Calls

variable (act : Nat → StateM σ (Except ε α)) (start : σ)

/-- The state that a number of calls leave behind. -/
def stateAfter : (calls : Nat) → σ
  | 0 => start
  | calls + 1 => (act (calls + 1) (stateAfter calls)).2

/-- What comes of the call of a number, once all calls before it were made. -/
def answer (number : Nat) : Except ε α := (act number (stateAfter act start (number - 1))).1

theorem act_eq (calls : Nat) :
    act (calls + 1) (stateAfter act start calls) =
      (answer act start (calls + 1), stateAfter act start (calls + 1)) := rfl

end Calls

/-- What is said of an answer that is a failure that may pass. -/
def passing? (reason? : ε → Option String) : Except ε α → Option String
  | .ok _ => none
  | .error fault => reason? fault

/-- What is said of the failure that the call of a number ends with. -/
def said (reason? : ε → Option String) (act : Nat → StateM σ (Except ε α)) (start : σ)
    (number : Nat) : String :=
  (passing? reason? (answer act start number)).getD ""

/-- Whether the call of a number is the last one: the first whose answer is not a failure that may
pass, or the one that the limit allows last, whichever is less. -/
structure IsLast (backoff : Backoff) (reason? : ε → Option String)
    (act : Nat → StateM σ (Except ε α)) (start : σ) (number : Nat) : Prop where
  pos : 1 ≤ number
  le : number ≤ backoff.maxAttempts
  earlier : ∀ other, 1 ≤ other → other < number →
    (passing? reason? (answer act start other)).isSome = true
  final : number = backoff.maxAttempts ∨ passing? reason? (answer act start number) = none

variable {backoff : Backoff} {reason? : ε → Option String}
  {act : Nat → StateM σ (Except ε α)} {start : σ}

theorem IsLast.not_lt {number other : Nat} (isLast : IsLast backoff reason? act start number)
    (otherLast : IsLast backoff reason? act start other) : ¬number < other := by
  intro less
  have passes := otherLast.earlier number isLast.pos less
  rcases isLast.final with limit | final
  · have within := otherLast.le
    omega
  · rw [final] at passes
    cases passes

theorem IsLast.unique {number other : Nat} (isLast : IsLast backoff reason? act start number)
    (otherLast : IsLast backoff reason? act start other) : number = other :=
  Nat.le_antisymm (Nat.not_lt.mp (otherLast.not_lt isLast))
    (Nat.not_lt.mp (isLast.not_lt otherLast))

theorem exists_isLast (backoff : Backoff) (reason? : ε → Option String)
    (act : Nat → StateM σ (Except ε α)) (start : σ) :
    ∃ number, IsLast backoff reason? act start number := by
  have ends : ∃ number, 1 ≤ number ∧
      (number = backoff.maxAttempts ∨ passing? reason? (answer act start number) = none) :=
    ⟨backoff.maxAttempts, backoff.maxAttempts_pos, Or.inl rfl⟩
  classical
  obtain ⟨positive, final⟩ := Nat.find_spec ends
  refine ⟨Nat.find ends, positive, ?_, ?_, final⟩
  · exact Nat.find_min' ends ⟨backoff.maxAttempts_pos, Or.inl rfl⟩
  · intro other first less
    have goesOn := Nat.find_min ends less
    exact Option.isSome_iff_ne_none.mpr fun none => goesOn ⟨first, Or.inr none⟩

/-! ## Traces -/

/-- Calls one after the other, each with the wait after it. -/
def rounds (text : Nat → String) (delay : Nat → Floating.Double) (first count : Nat) :
    List Event :=
  (List.range' first count).flatMap fun number =>
    [.attempt number, .wait number (text number) (delay (number - 1))]

theorem rounds_succ (text : Nat → String) (delay : Nat → Floating.Double) (calls count : Nat) :
    rounds text delay (calls + 1) (count + 1) =
      [.attempt (calls + 1), .wait (calls + 1) (text (calls + 1)) (delay calls)] ++
        rounds text delay (calls + 2) count := by
  rw [rounds, List.range'_succ, List.flatMap_cons]
  rfl

theorem filterMap_attempt?_rounds (text : Nat → String) (delay : Nat → Floating.Double)
    (first count : Nat) :
    (rounds text delay first count).filterMap Event.attempt? = List.range' first count := by
  simp [rounds, List.filterMap_flatMap, List.filterMap_cons, Event.attempt?]

theorem filterMap_wait?_rounds (text : Nat → String) (delay : Nat → Floating.Double)
    (first count : Nat) :
    (rounds text delay first count).filterMap Event.wait? =
      (List.range' first count).map fun number => delay (number - 1) := by
  simp [rounds, List.filterMap_flatMap, List.filterMap_cons, Event.wait?, List.map_eq_flatMap]

theorem continueFrom_of_final {left number : Nat} {state later : σ} {result : Except ε α}
    (acted : act number state = (result, later))
    (final : left = 0 ∨ passing? reason? result = none) :
    continueFrom backoff reason? act left number state =
      (⟨[.attempt number], Ending.ofAnswer result⟩, later) := by
  cases result with
  | ok value =>
      rw [continueFrom, acted]
      rfl
  | error fault =>
      cases said : reason? fault with
      | none =>
          rw [continueFrom, acted]
          simp only [said]
          rfl
      | some reason =>
          obtain rfl : left = 0 := by simpa [passing?, said] using final
          rw [continueFrom, acted]
          simp only [said]
          rfl

theorem continueFrom_of_passing {left number : Nat} {state later : σ} {result : Except ε α}
    {reason : String} {delay : Floating.Double} (acted : act number state = (result, later))
    (passes : passing? reason? result = some reason)
    (waits : backoff.delay? (Int.ofNat number - 1) = some delay) :
    continueFrom backoff reason? act (left + 1) number state =
      ((continueFrom backoff reason? act left (number + 1) later).1.after
          [.attempt number, .wait number reason delay],
        (continueFrom backoff reason? act left (number + 1) later).2) := by
  cases result with
  | ok value =>
      cases passes
  | error fault =>
      have said : reason? fault = some reason := passes
      rw [continueFrom, acted]
      simp only [said, waits]

theorem continueFrom_eq {delay : Nat → Floating.Double} {last : Nat}
    (isLast : IsLast backoff reason? act start last)
    (computes : ∀ retry : Nat, retry + 1 < last → backoff.delay? retry = some (delay retry))
    {left calls : Nat} (limit : calls + 1 + left = backoff.maxAttempts) (more : calls < last) :
    continueFrom backoff reason? act left (calls + 1) (stateAfter act start calls) =
      (⟨rounds (said reason? act start) delay (calls + 1) (last - (calls + 1)) ++ [.attempt last],
          Ending.ofAnswer (answer act start last)⟩,
        stateAfter act start last) := by
  induction left generalizing calls with
  | zero =>
      have within := isLast.le
      obtain rfl : last = calls + 1 := by omega
      rw [continueFrom_of_final (act_eq act start calls) (Or.inl rfl), Nat.sub_self]
      rfl
  | succ left inductionHypothesis =>
      by_cases now : calls + 1 = last
      · subst now
        have final : passing? reason? (answer act start (calls + 1)) = none :=
          isLast.final.resolve_left (by omega)
        rw [continueFrom_of_final (act_eq act start calls) (Or.inr final), Nat.sub_self]
        rfl
      · obtain ⟨reason, passes⟩ :=
          Option.isSome_iff_exists.mp (isLast.earlier (calls + 1) (by omega) (by omega))
        have text : said reason? act start (calls + 1) = reason := by
          rw [said, passes]
          rfl
        have waits : backoff.delay? (Int.ofNat (calls + 1) - 1) = some (delay calls) := by
          rw [← computes calls (by omega)]
          congr 1
          simp
        have oneLess : last - (calls + 1) = last - (calls + 1 + 1) + 1 := by omega
        rw [continueFrom_of_passing (act_eq act start calls) passes waits,
          inductionHypothesis (by omega) (by omega), oneLess, rounds_succ, text]
        rfl

/-- The last call of a run is the first whose answer is not a failure that may pass, or the one that
the limit allows last, whichever is less. If the waits before it can be told, the run makes the
calls up to it in order, with one wait between any two and none after the last, and it ends with
what comes of that call. -/
theorem start_traced (backoff : Backoff) (reason? : ε → Option String)
    (act : Nat → StateM σ (Except ε α)) (start : σ) :
    ∃ last, IsLast backoff reason? act start last ∧
      ∀ delay : Nat → Floating.Double,
        (∀ retry : Nat, retry + 1 < last → backoff.delay? retry = some (delay retry)) →
        let run := (Run.start backoff reason? act start).1
        run.events = rounds (said reason? act start) delay 1 (last - 1) ++ [.attempt last] ∧
          run.attempts = List.range' 1 last ∧
          run.waits = (List.range (last - 1)).map delay ∧
          run.ending = Ending.ofAnswer (answer act start last) ∧
          (Run.start backoff reason? act start).2 = stateAfter act start last := by
  obtain ⟨last, isLast⟩ := exists_isLast backoff reason? act start
  refine ⟨last, isLast, fun delay computes => ?_⟩
  have positive := isLast.pos
  have limit : 0 + 1 + (backoff.maxAttempts - 1) = backoff.maxAttempts := by
    have := backoff.maxAttempts_pos
    omega
  have traced : Run.start backoff reason? act start = _ :=
    continueFrom_eq isLast computes limit positive
  rw [traced]
  refine ⟨rfl, ?_, ?_, rfl, rfl⟩
  · simp only [attempts, List.filterMap_append, filterMap_attempt?_rounds]
    obtain ⟨less, rfl⟩ := Nat.exists_eq_add_of_le' positive
    simp [Event.attempt?, List.range'_1_concat, Nat.add_comm]
  · simp only [waits, List.filterMap_append, filterMap_wait?_rounds]
    simp [Event.wait?, List.range'_eq_map_range, Function.comp_def]

/-! ## Calls at a busy server -/

section BusyServer

open CertApproval.Cluster (ApiFault)

/-- What is said of a failure of the cluster that may pass. -/
def retried? (fault : ApiFault) : Option String :=
  if fault.kind.retries then some fault.message else none

/-- A write that meets another writer, and then a server that is down, before it is accepted. Its
state keeps the numbers of the calls. -/
def busyCall (number : Nat) : StateM (List Nat) (Except ApiFault String) := fun calls =>
  let result := match number with
    | 1 => .error (.status (.decide "csr") (some 409) (some "Conflict"))
    | 2 => .error (.status (.decide "csr") (some 503) (some "Service Unavailable"))
    | _ => .ok "written"
  (result, calls ++ [number])

/-- The usual waits with two calls at most. -/
def twice : Backoff := { Backoff.standard with maxAttempts := 2, maxAttempts_pos := by decide }

theorem start_traced_busy :
    ((Run.start .standard retried? busyCall []).1.attempts = [1, 2, 3] ∧
        (Run.start .standard retried? busyCall []).1.waits =
          [Floating.ofDecimal false 5 (-2), Floating.ofDecimal false 1 (-1)] ∧
        (Run.start .standard retried? busyCall []).1.ending = .done "written" ∧
        (Run.start .standard retried? busyCall []).2 = [1, 2, 3]) ∧
      (Run.start twice retried? busyCall []).1.attempts = [1, 2] ∧
        (Run.start twice retried? busyCall []).1.waits = [Floating.ofDecimal false 5 (-2)] ∧
        (Run.start twice retried? busyCall []).1.ending =
          .failed (.status (.decide "csr") (some 503) (some "Service Unavailable")) := by
  let delay (retry : Nat) : Floating.Double := (Backoff.standard.delay? retry).getD 0
  have third : IsLast .standard retried? busyCall [] 3 := by
    refine ⟨by decide, by decide, ?_, Or.inr rfl⟩
    intro other first less
    obtain rfl | rfl : other = 1 ∨ other = 2 := by omega
    · rfl
    · rfl
  have second : IsLast twice retried? busyCall [] 2 := by
    refine ⟨by decide, by decide, ?_, Or.inl rfl⟩
    intro other first less
    obtain rfl : other = 1 := by omega
    rfl
  have early : ∀ retry : Nat, retry + 1 < 3 →
      Backoff.standard.delay? retry = some (delay retry) := by
    intro retry less
    obtain rfl | rfl : retry = 0 ∨ retry = 1 := by omega
    · decide +kernel
    · decide +kernel
  refine ⟨?_, ?_⟩
  · obtain ⟨last, isLast, traced⟩ := start_traced .standard retried? busyCall []
    obtain rfl := isLast.unique third
    obtain ⟨_, attempts, waits, ending, state⟩ := traced delay early
    refine ⟨attempts, waits.trans ?_, ending, state⟩
    decide +kernel
  · obtain ⟨last, isLast, traced⟩ := start_traced twice retried? busyCall []
    obtain rfl := isLast.unique second
    have earlyTwice (retry : Nat) (less : retry + 1 < 2) :
        twice.delay? retry = some (delay retry) := by
      rw [← early retry (by omega)]
      rfl
    obtain ⟨_, attempts, waits, ending, _⟩ := traced delay earlyTwice
    refine ⟨attempts, waits.trans ?_, ending⟩
    decide +kernel

end BusyServer

end Run

end CertApproval.Retry
