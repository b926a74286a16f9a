import CertApproval.Proofs.Pattern.Faults
import CertApproval.Proofs.Review.Networks

/-!
Building a policy. Main statement: a policy is built exactly if every setting is in order, and
otherwise the settings are refused, unless the pattern fails to be read for a cause other than its
form. Only too long a number in the pattern, or switches that exclude each other, are such causes.
-/

namespace CertApproval.Review

open CertApproval.Pattern (AsksFor Compiled Overlong)

/-- Whether every setting is in order. -/
structure PolicySettings.Valid (naming : Pattern.Naming) (settings : PolicySettings) : Prop where
  pattern_ne_empty : settings.pattern ≠ ""
  compiles : ∃ pattern, Pattern.compile naming settings.pattern = .ok pattern
  expiration : 0 ≤ settings.maximumExpiration ∧ settings.maximumExpiration ≤ 367 * 24 * 3600
  names : 1 ≤ settings.allowedNames ∧ settings.allowedNames ≤ 1000
  ranges : ∀ item ∈ Policy.items settings.prefixes, Policy.IsRange item

/-- Whether a number is what a policy cannot be built with. -/
def PolicyFault.OnNumber (fault : PolicyFault) : Prop :=
  fault = .refused .expirationRange ∨ fault = .refused .nameCountRange

namespace Policy

variable {naming : Pattern.Naming} {settings : PolicySettings} {text : String} {policy : Policy}

/-- Whether settings make a policy or are refused. -/
def Answered (naming : Pattern.Naming) (settings : PolicySettings) : Prop :=
  (∃ policy, build naming settings = .ok policy) ∨
    ∃ fault, build naming settings = .error (.refused fault)

/-- Whether nothing but the form of a pattern can be wrong with it. -/
def Foreseen (naming : Pattern.Naming) (text : String) : Prop :=
  ∀ fault, Pattern.compile naming text = .error fault → fault = .malformed

/-! ## The pattern -/

theorem readPattern_empty : readPattern naming "" = .error (.refused .noPattern) := rfl

theorem readPattern_of_ne_empty (nonempty : text ≠ "") :
    readPattern naming text =
      match Pattern.compile naming text with
      | .ok pattern => .ok pattern
      | .error .malformed => .error (.refused (.badPattern text))
      | .error .countTooLarge => .error .patternCount
      | .error .numeralTooLong => .error .patternValue
      | .error .conflictingSwitches => .error .patternValue :=
  if_neg (mt String.isEmpty_iff.mp nonempty)

theorem readPattern_eq_ok {pattern : Compiled} :
    readPattern naming text = .ok pattern ↔
      text ≠ "" ∧ Pattern.compile naming text = .ok pattern := by
  by_cases empty : text = ""
  · simp [empty, readPattern_empty]
  · rw [readPattern_of_ne_empty empty]
    cases Pattern.compile naming text with
    | ok found =>
        simp [empty]
    | error fault =>
        cases fault <;> simp

/-- A pattern is refused if nothing but its form is wrong. -/
theorem readPattern_refused_iff {fault : PolicyFault}
    (failed : readPattern naming text = .error fault) :
    (∃ cause, fault = .refused cause) ↔ text = "" ∨ Foreseen naming text := by
  by_cases empty : text = ""
  · subst empty
    obtain rfl := Except.error.inj failed
    simp
  · rw [readPattern_of_ne_empty empty] at failed
    cases compiled : Pattern.compile naming text with
    | ok found =>
        simp [compiled] at failed
    | error cause =>
        rw [compiled] at failed
        have foreseen : Foreseen naming text ↔ cause = .malformed := by simp [Foreseen, compiled]
        rw [foreseen]
        cases cause <;> obtain rfl := Except.error.inj failed <;> simp [empty]

theorem not_onNumber_of_readPattern {fault : PolicyFault}
    (failed : readPattern naming text = .error fault) : ¬fault.OnNumber := by
  by_cases empty : text = ""
  · subst empty
    obtain rfl := Except.error.inj failed
    simp [PolicyFault.OnNumber]
  · rw [readPattern_of_ne_empty empty] at failed
    cases compiled : Pattern.compile naming text with
    | ok pattern =>
        simp [compiled] at failed
    | error cause =>
        rw [compiled] at failed
        cases cause <;> obtain rfl := Except.error.inj failed <;> simp [PolicyFault.OnNumber]

/-! ## All settings -/

theorem build_of_pattern_error {fault : PolicyFault}
    (failed : readPattern naming settings.pattern = .error fault) :
    build naming settings = .error fault := by
  rw [build, failed]
  rfl

/-- Once the pattern is read, the limits are checked before the ranges. -/
theorem build_of_pattern {pattern : Compiled}
    (compiled : readPattern naming settings.pattern = .ok pattern) :
    build naming settings =
      if expirationFits settings.maximumExpiration then
        if nameCountFits settings.allowedNames then
          ((readPrefixes settings.prefixes).map (settings.policy pattern)).mapError .refused
        else .error (.refused .nameCountRange)
      else .error (.refused .expirationRange) := by
  rw [build, compiled]
  cases expirationFits settings.maximumExpiration with
  | false =>
      rfl
  | true =>
      cases nameCountFits settings.allowedNames with
      | false =>
          rfl
      | true =>
          cases readPrefixes settings.prefixes with
          | error fault =>
              rfl
          | ok networks =>
              rfl

theorem build_eq_ok :
    build naming settings = .ok policy ↔
      ∃ pattern networks, readPattern naming settings.pattern = .ok pattern ∧
        expirationFits settings.maximumExpiration = true ∧
        nameCountFits settings.allowedNames = true ∧
        readPrefixes settings.prefixes = .ok networks ∧
        policy = settings.policy pattern networks := by
  cases compiled : readPattern naming settings.pattern with
  | error fault =>
      simp [build_of_pattern_error compiled]
  | ok pattern =>
      rw [build_of_pattern compiled]
      cases expirationFits settings.maximumExpiration <;>
        cases nameCountFits settings.allowedNames <;>
        cases readPrefixes settings.prefixes <;>
        simp [Except.map, Except.mapError, eq_comm]

/-- What goes wrong once the pattern is read is refused. -/
theorem answered_of_pattern {pattern : Compiled}
    (compiled : readPattern naming settings.pattern = .ok pattern) : Answered naming settings := by
  rw [Answered, build_of_pattern compiled]
  cases expirationFits settings.maximumExpiration <;>
    cases nameCountFits settings.allowedNames <;>
    cases readPrefixes settings.prefixes <;>
    simp [Except.map, Except.mapError]

theorem not_onNumber_of_readPrefixes {fault : ConfigFault}
    (failed : readPrefixes text = .error fault) : ¬(PolicyFault.refused fault).OnNumber := by
  obtain ⟨_, item, _, -, -, isItem⟩ := mapM_eq_error.mp failed
  rcases readPrefix_eq_error isItem with rfl | ⟨range, rfl⟩ <;> simp [PolicyFault.OnNumber]

/-- A policy fails on a number exactly if its pattern is read and one of its two numbers lies beyond
its range. -/
theorem build_onNumber_iff :
    (∃ fault, build naming settings = .error fault ∧ fault.OnNumber) ↔
      (∃ pattern, readPattern naming settings.pattern = .ok pattern) ∧
        ¬(expirationFits settings.maximumExpiration = true ∧
          nameCountFits settings.allowedNames = true) := by
  cases compiled : readPattern naming settings.pattern with
  | error cause =>
      rw [build_of_pattern_error compiled]
      refine iff_of_false ?_ (by simp)
      rintro ⟨_, ⟨⟩, onNumber⟩
      exact not_onNumber_of_readPattern compiled onNumber
  | ok pattern =>
      rw [build_of_pattern compiled]
      cases expirationFits settings.maximumExpiration with
      | false =>
          simp [PolicyFault.OnNumber]
      | true =>
          cases nameCountFits settings.allowedNames with
          | false =>
              simp [PolicyFault.OnNumber]
          | true =>
              refine iff_of_false ?_ (by simp)
              rintro ⟨fault, failed, onNumber⟩
              cases isRead : readPrefixes settings.prefixes with
              | ok networks =>
                  simp [isRead, Except.map, Except.mapError] at failed
              | error cause =>
                  rw [isRead] at failed
                  obtain rfl := Except.error.inj failed
                  exact not_onNumber_of_readPrefixes isRead onNumber

theorem expirationFits_iff {seconds : Int} :
    expirationFits seconds = true ↔ 0 ≤ seconds ∧ seconds ≤ 367 * 24 * 3600 := by
  rw [expirationFits, Bool.and_eq_true, decide_eq_true_iff, decide_eq_true_iff]
  rfl

theorem nameCountFits_iff {count : Int} :
    nameCountFits count = true ↔ 1 ≤ count ∧ count ≤ 1000 := by
  rw [nameCountFits, Bool.and_eq_true, decide_eq_true_iff, decide_eq_true_iff]
  rfl

theorem build_succeeds_iff :
    (∃ policy, build naming settings = .ok policy) ↔ settings.Valid naming := by
  simp only [build_eq_ok, readPattern_eq_ok, expirationFits_iff, nameCountFits_iff]
  constructor
  · rintro ⟨_, pattern, networks, ⟨nonempty, compiled⟩, expiration, names, read, _⟩
    exact ⟨nonempty, ⟨pattern, compiled⟩, expiration, names,
      (readPrefixes_succeeds_iff _).mp ⟨networks, read⟩⟩
  · rintro ⟨nonempty, ⟨pattern, compiled⟩, expiration, names, ranges⟩
    obtain ⟨networks, read⟩ := (readPrefixes_succeeds_iff _).mpr ranges
    exact ⟨_, pattern, networks, ⟨nonempty, compiled⟩, expiration, names, read, rfl⟩

theorem answered_iff :
    Answered naming settings ↔ settings.pattern = "" ∨ Foreseen naming settings.pattern := by
  cases compiled : readPattern naming settings.pattern with
  | ok pattern =>
      have compiles := (readPattern_eq_ok.mp compiled).2
      refine iff_of_true (answered_of_pattern compiled) (Or.inr fun fault failed => ?_)
      rw [compiles] at failed
      cases failed
  | error fault =>
      rw [← readPattern_refused_iff compiled, Answered, build_of_pattern_error compiled]
      simp

/-- Settings make a policy exactly if all of them are in order, and otherwise they are refused, if
nothing but its form is wrong with the pattern. That is so unless it has too long a number of
repetitions, or switches that exclude each other. -/
theorem build_answers (naming : Pattern.Naming) (settings : PolicySettings) :
    ((∃ policy, build naming settings = .ok policy) ↔ settings.Valid naming) ∧
    (Answered naming settings ↔ settings.pattern = "" ∨ Foreseen naming settings.pattern) ∧
    (¬Overlong settings.pattern →
      ¬(AsksFor settings.pattern .ascii ∧ AsksFor settings.pattern .unicode) →
      Answered naming settings) := by
  refine ⟨build_succeeds_iff, answered_iff, fun short consistent => ?_⟩
  have foreseen : Foreseen naming settings.pattern := fun _ failed =>
    Pattern.compile_malformed failed short consistent
  exact answered_iff.mpr (Or.inr foreseen)

/-! ## A pattern that is refused, and one that is not -/

/-- The pattern has a number of repetitions and a bracket that is not closed. -/
def openSettings : PolicySettings where
  pattern := "\\d\x7b1,3\x7d("
  prefixes := "10.0.0.0/16"
  maximumExpiration := 86400

theorem build_answers_open : ∃ fault, build noNames openSettings = .error (.refused fault) := by
  have short : ¬Overlong openSettings.pattern :=
    Pattern.not_overlong fun digits _ holds => holds.length_le.trans_lt (by decide)
  have noSwitches : ¬(AsksFor openSettings.pattern .ascii ∧
      AsksFor openSettings.pattern .unicode) := by
    rintro ⟨⟨letters, _, _, holds⟩, _⟩
    have mark : '?' ∈ openSettings.pattern.toList := holds.subset (by simp)
    exact absurd mark (by decide)
  obtain ⟨made, _, answered⟩ := build_answers noNames openSettings
  refine (answered short noSwitches).resolve_left fun built => ?_
  obtain ⟨pattern, compiled⟩ := (made.mp built).compiles
  have fails : Pattern.fault? noNames openSettings.pattern = some .malformed := by decide +kernel
  rw [Pattern.fault?_eq_some, compiled] at fails
  cases fails

/-- The same settings with a number of repetitions that is too large. -/
def countSettings : PolicySettings :=
  { openSettings with pattern := "a\x7b4294967295\x7d" }

theorem countSettings_unanswered :
    build noNames countSettings = .error .patternCount ∧ ¬Answered noNames countSettings := by
  have compiled : Pattern.compile noNames countSettings.pattern = .error .countTooLarge :=
    Pattern.fault?_eq_some.mp (by decide +kernel)
  have failed : build noNames countSettings = .error .patternCount := by
    refine build_of_pattern_error ?_
    rw [readPattern_of_ne_empty (by decide), compiled]
  exact ⟨failed, by simp [Answered, failed]⟩

end Policy

end CertApproval.Review
