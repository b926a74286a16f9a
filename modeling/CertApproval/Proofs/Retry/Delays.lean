import CertApproval.Proofs.Fields.Records
import CertApproval.Proofs.Floating.Power
import CertApproval.Proofs.Retry.Attempts
import CertApproval.Proofs.Retry.Trace

/-!
The waits between attempts. Main statement: there is a wait, and none beyond the limit, as long as
the growth of the waits can be held by a double, and none where it lies beyond all doubles; and
this is all that can end a run otherwise than with what comes of an attempt.
-/

namespace CertApproval

namespace Retry

open CertApproval.Fields
open CertApproval.Floating

namespace Backoff

/-! ## Waits from records -/

theorem readAtLeast_eq_ok {bound value : Double} {json : Json} :
    readAtLeast bound json = .ok value ↔ readFloat json = .ok value ∧ ¬value < bound := by
  rw [readAtLeast, ruled_eq_ok]
  simp

/-- A field that has a bound is not read below it. -/
theorem not_lt_of_optional {record : Json} {name : String} {bound absent value : Double}
    (accepted : Fields.optional record name absent (readAtLeast bound) = .ok value)
    (notBelow : ¬absent < bound) : ¬value < bound := by
  rcases optional_eq_ok accepted with rfl | ⟨json, isRead⟩
  · exact notBelow
  · exact (readAtLeast_eq_ok.mp isRead).2

/-- Whether the waits are what they are meant to be: numbers, none of which is below its bound. -/
structure Sound (backoff : Backoff) : Prop where
  finiteInitial : isFinite backoff.initialDelay = true
  finiteFactor : isFinite backoff.factor = true
  finiteMax : isFinite backoff.maxDelay = true
  initial : 0 ≤ backoff.initialDelay
  factor : 1 ≤ backoff.factor
  max : 0 ≤ backoff.maxDelay

instance (backoff : Backoff) : Decidable backoff.Sound :=
  decidable_of_iff
    ((isFinite backoff.initialDelay = true ∧ isFinite backoff.factor = true ∧
        isFinite backoff.maxDelay = true) ∧
      0 ≤ backoff.initialDelay ∧ 1 ≤ backoff.factor ∧ 0 ≤ backoff.maxDelay)
    ⟨fun ⟨⟨finiteInitial, finiteFactor, finiteMax⟩, initial, factor, max⟩ =>
        { finiteInitial, finiteFactor, finiteMax, initial, factor, max },
      fun sound => ⟨⟨sound.finiteInitial, sound.finiteFactor, sound.finiteMax⟩,
        sound.initial, sound.factor, sound.max⟩⟩

/-- The waits that a record is accepted for are sound, as long as they are numbers. -/
theorem sound_of_ofRecord {record : Json} {backoff : Backoff}
    (accepted : ofRecord record = .ok backoff)
    (finite : ∀ value ∈ [backoff.initialDelay, backoff.factor, backoff.maxDelay],
      isFinite value = true) : backoff.Sound := by
  obtain ⟨withMax, maxDelay, acceptedThree, isMax, rfl⟩ := Checked.andThen_eq_ok.mp accepted
  obtain ⟨withFactor, factor, acceptedTwo, isFactor, rfl⟩ :=
    Checked.andThen_eq_ok.mp acceptedThree
  obtain ⟨withInitial, initialDelay, acceptedOne, isInitial, rfl⟩ :=
    Checked.andThen_eq_ok.mp acceptedTwo
  have notBelowMax : ¬maxDelay < 0 :=
    not_lt_of_optional isMax (by decide +kernel)
  have notBelowFactor : ¬factor < 1 :=
    not_lt_of_optional isFactor (by decide +kernel)
  have notBelowInitial : ¬initialDelay < 0 :=
    not_lt_of_optional isInitial (by decide +kernel)
  cases attempts : Fields.optional record "max_attempts" ⟨defaultAttempts, by decide⟩
      readAttempts with
  | error issues =>
      rw [attempts] at acceptedOne
      cases acceptedOne
  | ok count =>
      rw [attempts] at acceptedOne
      obtain rfl := Except.ok.inj acceptedOne
      simp only [List.forall_mem_cons] at finite
      obtain ⟨finiteInitial, finiteFactor, finiteMax, _⟩ := finite
      exact
        { finiteInitial, finiteFactor, finiteMax
          initial := (not_lt_iff_le finiteInitial isFinite_zero).mp notBelowInitial
          factor := (not_lt_iff_le finiteFactor isFinite_one).mp notBelowFactor
          max := (not_lt_iff_le finiteMax isFinite_zero).mp notBelowMax }

/-! ## Single waits -/

theorem lesser_le {wait limit : Double} (finiteLimit : isFinite limit = true)
    (nonnegLimit : 0 ≤ limit) (product : isFinite wait = true ∧ 0 ≤ wait ∨ wait = infinity false) :
    0 ≤ lesser wait limit ∧ lesser wait limit ≤ limit := by
  have same : limit ≤ limit := (le_iff_toRat finiteLimit finiteLimit).mpr le_rfl
  unfold lesser
  rcases product with ⟨finite, nonneg⟩ | rfl
  · split_ifs with capped
    · exact ⟨nonnegLimit, same⟩
    · exact ⟨nonneg, (not_lt_iff_le finiteLimit finite).mp capped⟩
  · rw [if_pos (lt_infinity finiteLimit)]
    exact ⟨nonnegLimit, same⟩

variable {backoff : Backoff}

theorem Sound.one_le_toRat (sound : backoff.Sound) : 1 ≤ backoff.factor.toRat :=
  toRat_one ▸ (le_iff_toRat isFinite_one sound.finiteFactor).mp sound.factor

/-- There is a wait, which is not beyond the limit, as long as the growth of the waits is not too
large to be rounded. -/
theorem Sound.delay?_of_lt (sound : backoff.Sound) {retry : Nat}
    (fits : backoff.factor.toRat ^ retry < roundingLimit) :
    ∃ delay, backoff.delay? retry = some delay ∧ 0 ≤ delay ∧ delay ≤ backoff.maxDelay := by
  obtain ⟨growth, significand, exponent, isPower, isParts⟩ := power?_of_lt sound.one_le_toRat fits
  refine ⟨_, by rw [delay?, isPower]; rfl, ?_⟩
  exact lesser_le sound.finiteMax sound.max
    (mul_of_nonneg sound.finiteInitial sound.initial isParts)

/-- There is no wait where the growth of the waits lies beyond all doubles. -/
theorem Sound.delay?_eq_none (sound : backoff.Sound) {retry : Nat}
    (large : (2 : ℚ) ^ (1024 : Int) ≤ backoff.factor.toRat ^ retry) :
    backoff.delay? retry = none := by
  rw [delay?, power?_eq_none sound.one_le_toRat large]
  rfl

end Backoff

/-! ## Runs -/

namespace Run

variable {σ ε α : Type} {backoff : Backoff} {reason? : ε → Option String}
  {act : Nat → StateM σ (Except ε α)} {start : σ}

/-- Every attempt but the first was waited for. -/
theorem Makes.waited {number : Nat} {state : σ}
    (made : Makes backoff reason? act start number state) {retry : Nat}
    (earlier : retry + 1 < number) : backoff.delay? retry ≠ none := by
  induction made with
  | first =>
      omega
  | @next number state later fault reason delay made failed passing more waited
      inductionHypothesis =>
      by_cases last : retry + 1 = number
      · have same : Int.ofNat number - 1 = retry := by
          rw [← last, Int.ofNat_eq_natCast]
          omega
        rw [same] at waited
        rw [waited]
        exact Option.some_ne_none delay
      · exact inductionHypothesis (by omega)

/-- What closes a run is what comes of an attempt, or the lack of a wait after it. -/
theorem Closes.ending_eq {number : Nat} {result : Except ε α} {ending : Ending ε α}
    (closes : Closes backoff reason? number result ending) :
    ending = Ending.ofAnswer result ∨
      ending = .overflow ∧ (passing? reason? result).isSome = true ∧
        number < backoff.maxAttempts ∧ backoff.delay? (Int.ofNat number - 1) = none := by
  cases closes with
  | done value =>
      exact Or.inl rfl
  | failed final =>
      exact Or.inl rfl
  | overflow passing more tooLong =>
      exact Or.inr ⟨rfl, passing, more, tooLong⟩

theorem Closes.ending_of_passing {number : Nat} {result : Except ε α} {ending : Ending ε α}
    (closes : Closes backoff reason? number result ending)
    (passing : (passing? reason? result).isSome = true) (more : number ≠ backoff.maxAttempts) :
    ending = .overflow := by
  cases closes with
  | done value =>
      cases passing
  | failed final =>
      have isFinal := final.resolve_right more
      rw [passing?, isFinal] at passing
      cases passing
  | overflow _ _ _ =>
      rfl

/-- Whatever is attempted, a run whose waits all can be held ends with what comes of one of its
attempts. -/
theorem ending_of_fits (sound : backoff.Sound)
    (fits : ∀ retry : Nat, retry + 1 < backoff.maxAttempts →
      backoff.factor.toRat ^ retry < roundingLimit) :
    ∃ number state, Makes backoff reason? act start number state ∧
      (Run.start backoff reason? act start).1.ending = Ending.ofAnswer (act number state).1 := by
  obtain ⟨number, state, made, _, closes⟩ := closes_start backoff reason? act start
  refine ⟨number, state, made, closes.ending_eq.resolve_right ?_⟩
  rintro ⟨_, _, more, tooLong⟩
  have positive := made.pos
  obtain ⟨retry, rfl⟩ := Nat.exists_eq_add_of_le' positive
  obtain ⟨delay, waits, _⟩ := sound.delay?_of_lt (fits retry more)
  have same : Int.ofNat (retry + 1) - 1 = retry := by
    rw [Int.ofNat_eq_natCast]
    omega
  rw [same, waits] at tooLong
  cases tooLong

/-- If all attempts fail in a way that may pass and one of the waits cannot be held, a run ends
for lack of it. -/
theorem ending_of_large (sound : backoff.Sound)
    (fails : ∀ number state, (passing? reason? (act number state).1).isSome = true) {retry : Nat}
    (more : retry + 1 < backoff.maxAttempts)
    (large : (2 : ℚ) ^ (1024 : Int) ≤ backoff.factor.toRat ^ retry) :
    (Run.start backoff reason? act start).1.ending = .overflow := by
  obtain ⟨number, state, made, _, closes⟩ := closes_start backoff reason? act start
  refine closes.ending_of_passing (fails number state) ?_
  rintro rfl
  exact made.waited more (sound.delay?_eq_none large)

/-- Trying again adds one failure of its own and no other. A run ends with what comes of one of its
attempts, or for lack of a wait after one that failed. There is a wait, which is not beyond the
limit, as long as the growth of the waits is not too large to be rounded, and none where the growth
lies beyond all doubles, however low the limit is. So a run whose waits all can be held adds
nothing, and one with a wait that cannot be held ends for lack of it if all attempts fail in a way
that may pass. -/
theorem start_overflows (sound : backoff.Sound) (reason? : ε → Option String)
    (act : Nat → StateM σ (Except ε α)) (start : σ) :
    (∃ number state, Makes backoff reason? act start number state ∧
      ((Run.start backoff reason? act start).1.ending = Ending.ofAnswer (act number state).1 ∨
        (Run.start backoff reason? act start).1.ending = .overflow ∧
          (passing? reason? (act number state).1).isSome = true ∧
          number < backoff.maxAttempts ∧ backoff.delay? (Int.ofNat number - 1) = none)) ∧
      (∀ retry : Nat, backoff.factor.toRat ^ retry < 2 ^ (1024 : Int) - 2 ^ (970 : Int) →
        ∃ delay, backoff.delay? retry = some delay ∧ 0 ≤ delay ∧ delay ≤ backoff.maxDelay) ∧
      (∀ retry : Nat, 2 ^ (1024 : Int) ≤ backoff.factor.toRat ^ retry →
        backoff.delay? retry = none) ∧
      ((∀ retry : Nat, retry + 1 < backoff.maxAttempts →
          backoff.factor.toRat ^ retry < 2 ^ (1024 : Int) - 2 ^ (970 : Int)) →
        ∃ number state, Makes backoff reason? act start number state ∧
          (Run.start backoff reason? act start).1.ending = Ending.ofAnswer (act number state).1) ∧
      ((∀ number state, (passing? reason? (act number state).1).isSome = true) →
        ∀ retry : Nat, retry + 1 < backoff.maxAttempts →
          2 ^ (1024 : Int) ≤ backoff.factor.toRat ^ retry →
            (Run.start backoff reason? act start).1.ending = .overflow) := by
  refine ⟨?_, fun retry => sound.delay?_of_lt, fun retry => sound.delay?_eq_none,
    ending_of_fits sound, fun fails retry => ending_of_large sound fails⟩
  obtain ⟨number, state, made, _, closes⟩ := closes_start backoff reason? act start
  exact ⟨number, state, made, closes.ending_eq⟩

/-! ## A server that is always busy -/

open CertApproval.Cluster (ApiFault)

/-- A read that a server is always too busy for. -/
def busyRead (_ : Nat) : StateM Unit (Except ApiFault String) :=
  pure (.error (.status (.read "csr") (some 503) (some "Service Unavailable")))

/-- The usual waits before so many attempts that the growth comes to the least power of two that no
double holds. -/
def patient : Backoff := { Backoff.standard with maxAttempts := 1026, maxAttempts_pos := by decide }

/-- All waits but the last are there, and that one is not, although none may be longer than two
seconds. -/
theorem start_overflows_patient :
    (∃ delay, patient.delay? 1023 = some delay ∧ 0 ≤ delay ∧ delay ≤ 2) ∧
      patient.delay? 1024 = none ∧
      (Run.start patient retried? busyRead ()).1.ending = .overflow := by
  have isParts : parts patient.factor = .finite false (2 ^ 52) (-51) := by decide +kernel
  have doubles : patient.factor.toRat = 2 := by
    rw [toRat_of_parts isParts]
    norm_num
  obtain ⟨_, waits, waitsNot, _, overflows⟩ :=
    start_overflows (by decide +kernel : patient.Sound) retried? busyRead ()
  rw [doubles] at waits waitsNot overflows
  have large : (2 : ℚ) ^ (1024 : Int) ≤ 2 ^ 1024 := (zpow_ofNat 2 1024).le
  have fits : (2 : ℚ) ^ 1023 < 2 ^ (1024 : Int) - 2 ^ (970 : Int) :=
    (zpow_ofNat (2 : ℚ) 1023).symm.trans_lt (two_zpow_lt_roundingLimit le_rfl)
  exact ⟨waits 1023 fits, waitsNot 1024 large, overflows (fun _ _ => rfl) 1024 (by decide) large⟩

/-- Waits that grow by so much that no double holds the third, and four attempts. -/
def steep : Backoff :=
  { Backoff.standard with
    maxAttempts := 4
    maxAttempts_pos := by decide
    factor := ofDecimal false 1 200 }

/-- The fourth attempt is not made, and the run does not end with what comes of any attempt. -/
theorem not_ofAnswer_steep :
    steep.Sound ∧ (Run.start steep retried? busyRead ()).1.attempts = [1, 2, 3] ∧
      steep.delay? 2 = none ∧
      ¬∃ number, (Run.start steep retried? busyRead ()).1.ending =
        Ending.ofAnswer (busyRead number ()).1 := by
  refine ⟨by decide +kernel, by decide +kernel, by decide +kernel, ?_⟩
  have overflows : (match (Run.start steep retried? busyRead ()).1.ending with
      | .overflow => true
      | .done _ | .failed _ => false) = true := by
    decide +kernel
  rintro ⟨number, same⟩
  rw [same] at overflows
  cases overflows

end Run

end Retry

end CertApproval
