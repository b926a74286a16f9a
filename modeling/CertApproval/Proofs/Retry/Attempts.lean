import CertApproval.Retry.Run
import Mathlib.Data.List.Range

/-!
The attempts that a run makes: the first one, and each that follows one that failed in a way that
may pass and was waited for. Main statements: a run ends with the first attempt that has a value,
and else with the last attempt that it makes.
-/

namespace CertApproval.Retry.Run

variable {σ ε α : Type} {backoff : Backoff} {reason? : ε → Option String}
  {act : Nat → StateM σ (Except ε α)} {start : σ}

/-- Whether a run from a start makes an attempt of a number, and in which state it begins. -/
inductive Makes (backoff : Backoff) (reason? : ε → Option String)
    (act : Nat → StateM σ (Except ε α)) (start : σ) : Nat → σ → Prop
  | first : Makes backoff reason? act start 1 start
  | next {number : Nat} {state later : σ} {fault : ε} {reason : String} {delay : Floating.Double}
      (earlier : Makes backoff reason? act start number state)
      (failed : act number state = (.error fault, later)) (passing : reason? fault = some reason)
      (more : number < backoff.maxAttempts)
      (waited : backoff.delay? (Int.ofNat number - 1) = some delay) :
      Makes backoff reason? act start (number + 1) later

theorem Makes.pos {number : Nat} {state : σ}
    (made : Makes backoff reason? act start number state) : 0 < number := by
  cases made <;> omega

/-! ## A run from one of its attempts on -/

theorem after_nil (run : Run ε α) : run.after [] = run := rfl

theorem after_after (first second : List Event) (run : Run ε α) :
    (run.after second).after first = run.after (first ++ second) := by
  simp [after, List.append_assoc]

theorem attempts_after (events : List Event) (run : Run ε α) :
    (run.after events).attempts = events.filterMap Event.attempt? ++ run.attempts := by
  simp [after, attempts]

theorem range'_concat_self {number : Nat} (positive : 0 < number) :
    List.range' 1 (number - 1) ++ [number] = List.range' 1 number := by
  obtain ⟨less, rfl⟩ := Nat.exists_eq_succ_of_ne_zero positive.ne'
  rw [Nat.succ_sub_one, List.range'_1_concat, Nat.one_add]

/-- What a run does from one of its attempts on does not depend on what it did before. -/
theorem Makes.start_eq {number : Nat} {state : σ}
    (made : Makes backoff reason? act start number state) :
    ∃ earlier : List Event,
      earlier.filterMap Event.attempt? = List.range' 1 (number - 1) ∧
        Run.start backoff reason? act start =
          ((continueFrom backoff reason? act (backoff.maxAttempts - number) number
              state).1.after earlier,
            (continueFrom backoff reason? act (backoff.maxAttempts - number) number state).2) := by
  induction made with
  | first =>
      exact ⟨[], rfl, rfl⟩
  | @next number state later fault reason delay made failed passing more waited
      inductionHypothesis =>
      obtain ⟨earlier, numbered, same⟩ := inductionHypothesis
      have oneMore : backoff.maxAttempts - number = backoff.maxAttempts - (number + 1) + 1 := by
        omega
      refine ⟨earlier ++ [.attempt number, .wait number reason delay], ?_, ?_⟩
      · rw [List.filterMap_append, numbered, Nat.add_sub_cancel]
        exact range'_concat_self made.pos
      · rw [same, oneMore, continueFrom, failed]
        simp only [passing, waited, after_after]

/-- A run ends with an attempt that has a value. -/
theorem Makes.ends {number : Nat} {state last : σ} {value : α}
    (made : Makes backoff reason? act start number state)
    (succeeded : act number state = (.ok value, last)) :
    (Run.start backoff reason? act start).1.ending = .done value ∧
      (Run.start backoff reason? act start).1.attempts = List.range' 1 number ∧
      (Run.start backoff reason? act start).2 = last := by
  obtain ⟨earlier, numbered, same⟩ := made.start_eq
  have single : continueFrom backoff reason? act (backoff.maxAttempts - number) number state =
      (⟨[.attempt number], .done value⟩, last) := by
    rw [continueFrom, succeeded]
  rw [same, single]
  refine ⟨rfl, ?_, rfl⟩
  rw [attempts_after, numbered]
  exact range'_concat_self made.pos

/-- Whether what came of an attempt ends a run, and how. -/
inductive Closes (backoff : Backoff) (reason? : ε → Option String) (number : Nat) :
    Except ε α → Ending ε α → Prop
  | done (value : α) : Closes backoff reason? number (.ok value) (.done value)
  | failed {fault : ε} (final : reason? fault = none ∨ number = backoff.maxAttempts) :
      Closes backoff reason? number (.error fault) (.failed fault)
  | overflow {fault : ε} (passing : (reason? fault).isSome = true)
      (more : number < backoff.maxAttempts)
      (tooLong : backoff.delay? (Int.ofNat number - 1) = none) :
      Closes backoff reason? number (.error fault) .overflow

theorem closes_continueFrom {left number : Nat} {state : σ}
    (made : Makes backoff reason? act start number state)
    (within : left + number = backoff.maxAttempts) :
    ∃ last reached, Makes backoff reason? act start last reached ∧
      (continueFrom backoff reason? act left number state).2 = (act last reached).2 ∧
      Closes backoff reason? last (act last reached).1
        (continueFrom backoff reason? act left number state).1.ending := by
  fun_induction continueFrom backoff reason? act left number state with
  | case1 left number state value next acted =>
      exact ⟨number, state, made, by rw [acted], by rw [acted]; exact .done value⟩
  | case2 left number state fault next acted final =>
      exact ⟨number, state, made, by rw [acted], by rw [acted]; exact .failed (Or.inl final)⟩
  | case3 number state fault next acted reason passing =>
      have isLast : number = backoff.maxAttempts := by omega
      exact ⟨number, state, made, by rw [acted], by rw [acted]; exact .failed (Or.inr isLast)⟩
  | case4 number state fault next acted reason left passing tooLong =>
      have isPassing : (reason? fault).isSome = true := Option.isSome_of_eq_some passing
      have more : number < backoff.maxAttempts := by omega
      exact ⟨number, state, made, by rw [acted],
        by rw [acted]; exact .overflow isPassing more tooLong⟩
  | case5 number state fault next acted reason left passing delay waited rest last ended
      inductionHypothesis =>
      rw [ended] at inductionHypothesis
      exact inductionHypothesis (made.next acted passing (by omega) waited) (by omega)

/-- A run ends with the last attempt that it makes. -/
theorem closes_start (backoff : Backoff) (reason? : ε → Option String)
    (act : Nat → StateM σ (Except ε α)) (start : σ) :
    ∃ number state, Makes backoff reason? act start number state ∧
      (Run.start backoff reason? act start).2 = (act number state).2 ∧
      Closes backoff reason? number (act number state).1
        (Run.start backoff reason? act start).1.ending := by
  have positive := backoff.maxAttempts_pos
  exact closes_continueFrom .first (by omega)

end CertApproval.Retry.Run
