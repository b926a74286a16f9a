import CertApproval.Proofs.Retry.Delays
import CertApproval.Proofs.Settings.Merging
import CertApproval.Service.Assembly

/-!
Putting a controller together from a configuration that was loaded. Main statement: no number of
it is in the way, but for a delay between attempts that is below zero. The settings leave such a
delay alone, and the waits refuse it.
-/

namespace CertApproval.Service

open CertApproval.Fields
open CertApproval.Floating (isFinite isFinite_zero not_lt_iff_le)
open CertApproval.Retry (Backoff)
open CertApproval.Review (Policy)
open CertApproval.Review.Policy (noNames)
open CertApproval.Settings (Configuration ControlSettings Setting Site)

namespace Assembly

variable {naming : Pattern.Naming} {control : ControlSettings} {configuration : Configuration}

/-! ## The waits -/

/-- What is wrong with the waits that are asked for. -/
def waitIssues (control : ControlSettings) : List Issue :=
  (if control.retryAttempts < 1 then [⟨["max_attempts"], .tooSmall⟩] else []) ++
    (if control.retryInitialDelay < 0 then [⟨["initial_delay"], .tooSmall⟩] else []) ++
    if control.retryMaxDelay < 0 then [⟨["max_delay"], .tooSmall⟩] else []

/-- Whether waits are those that are asked for. -/
structure AskedFor (control : ControlSettings) (backoff : Backoff) : Prop where
  attempts : backoff.maxAttempts = control.retryAttempts
  initialDelay : backoff.initialDelay = control.retryInitialDelay
  factor : backoff.factor = 2
  maxDelay : backoff.maxDelay = control.retryMaxDelay

theorem waits_def (control : ControlSettings) :
    waits control =
      Checked.andThen
        (Checked.andThen
          (Checked.andThen
            ((readValue "max_attempts" Backoff.readAttempts (.int control.retryAttempts)).map
              fun attempts initialDelay factor maxDelay =>
                ⟨attempts.val, initialDelay, factor, maxDelay, attempts.property⟩)
            (readValue "initial_delay" (Backoff.readAtLeast 0) (.float control.retryInitialDelay)))
          (.ok Backoff.defaultFactor))
        (readValue "max_delay" (Backoff.readAtLeast 0) (.float control.retryMaxDelay)) := rfl

theorem readAttempts_int (count : Int) :
    Backoff.readAttempts (.int count) =
      if positive : 0 < count.toNat then .ok ⟨count.toNat, positive⟩ else .error .tooSmall := rfl

/-- Every wait is checked, whatever is wrong with the others. -/
theorem issues_waits (control : ControlSettings) :
    Checked.issues (waits control) = waitIssues control := by
  have delay (name : String) (x : Floating.Double) :
      Checked.issues (readValue name (Backoff.readAtLeast 0) (.float x)) =
        if x < 0 then [⟨[name], .tooSmall⟩] else [] := by
    by_cases negative : x < 0
    · simp [readValue, Backoff.readAtLeast, ruled, readFloat, negative, Checked.issues]
    · simp [readValue, Backoff.readAtLeast, ruled, readFloat, negative, Checked.issues]
  have attempts :
      Checked.issues
          (readValue "max_attempts" Backoff.readAttempts (.int control.retryAttempts)) =
        if control.retryAttempts < 1 then [⟨["max_attempts"], .tooSmall⟩] else [] := by
    by_cases few : control.retryAttempts < 1
    · have notPositive : ¬0 < control.retryAttempts.toNat := by omega
      rw [readValue, readAttempts_int, dif_neg notPositive, if_pos few]
      rfl
    · have positive : 0 < control.retryAttempts.toNat := by omega
      rw [readValue, readAttempts_int, dif_pos positive, if_neg few]
      rfl
  rw [waits_def, Checked.issues_andThen, Checked.issues_andThen, Checked.issues_andThen,
    Checked.issues_map, attempts, delay, delay, waitIssues, Checked.issues, List.append_nil]

theorem waitIssues_eq_nil :
    waitIssues control = [] ↔ 1 ≤ control.retryAttempts ∧ ¬control.retryInitialDelay < 0 ∧
      ¬control.retryMaxDelay < 0 := by
  simp [waitIssues]

theorem waits_succeeds_iff :
    (∃ backoff, waits control = .ok backoff) ↔ 1 ≤ control.retryAttempts ∧
      ¬control.retryInitialDelay < 0 ∧ ¬control.retryMaxDelay < 0 := by
  rw [← waitIssues_eq_nil]
  constructor
  · rintro ⟨backoff, accepted⟩
    rw [← issues_waits, accepted, Checked.issues]
  · intro noIssues
    obtain ⟨atLeastOne, initial, max⟩ := waitIssues_eq_nil.mp noIssues
    have positive : 0 < control.retryAttempts.toNat := by omega
    have isAttempts : Backoff.readAttempts (.int control.retryAttempts) =
        .ok ⟨control.retryAttempts.toNat, positive⟩ :=
      dif_pos positive
    have isInitial : Backoff.readAtLeast 0 (.float control.retryInitialDelay) =
        .ok control.retryInitialDelay :=
      Backoff.readAtLeast_eq_ok.mpr ⟨rfl, initial⟩
    have isMax : Backoff.readAtLeast 0 (.float control.retryMaxDelay) =
        .ok control.retryMaxDelay :=
      Backoff.readAtLeast_eq_ok.mpr ⟨rfl, max⟩
    rw [waits_def, readValue_eq_ok.mpr isAttempts, readValue_eq_ok.mpr isInitial,
      readValue_eq_ok.mpr isMax]
    exact ⟨_, rfl⟩

theorem askedFor_of_waits {backoff : Backoff} (accepted : waits control = .ok backoff) :
    AskedFor control backoff := by
  obtain ⟨atLeastOne, -, -⟩ := waits_succeeds_iff.mp ⟨backoff, accepted⟩
  rw [waits_def] at accepted
  obtain ⟨_, maxDelay, acceptedThree, isMax, rfl⟩ := Checked.andThen_eq_ok.mp accepted
  obtain ⟨_, _, acceptedTwo, ⟨⟩, rfl⟩ := Checked.andThen_eq_ok.mp acceptedThree
  obtain ⟨_, initialDelay, acceptedOne, isInitial, rfl⟩ := Checked.andThen_eq_ok.mp acceptedTwo
  obtain ⟨count, isCount, rfl⟩ := Checked.map_eq_ok.mp acceptedOne
  have positive : 0 < control.retryAttempts.toNat := by omega
  have isRead := readValue_eq_ok.mp isCount
  rw [readAttempts_int, dif_pos positive] at isRead
  obtain rfl := Except.ok.inj isRead
  exact
    { attempts := Int.toNat_of_nonneg (by omega)
      initialDelay :=
        (Except.ok.inj (Backoff.readAtLeast_eq_ok.mp (readValue_eq_ok.mp isInitial)).1).symm
      factor := rfl
      maxDelay := (Except.ok.inj (Backoff.readAtLeast_eq_ok.mp (readValue_eq_ok.mp isMax)).1).symm }

/-! ## The whole -/

/-- The policy comes first, and then the waits. -/
theorem ofConfiguration_eq_error {fault : AssemblyFault} :
    ofConfiguration naming configuration = .error fault ↔
      (∃ cause, Policy.build naming configuration.policy = .error cause ∧ fault = .policy cause) ∨
        ∃ policy issues, Policy.build naming configuration.policy = .ok policy ∧
          waits configuration.control = .error issues ∧ fault = .waits issues := by
  rw [ofConfiguration]
  cases Policy.build naming configuration.policy with
  | error cause =>
      simp [Except.mapError, bind, Except.bind, eq_comm]
  | ok policy =>
      cases waits configuration.control <;>
        simp [Except.mapError, bind, Except.bind, pure, Except.pure, eq_comm]

/-- Whether no number of a configuration keeps a controller from being put together. -/
structure AcceptsNumbers (naming : Pattern.Naming) (configuration : Configuration) : Prop where
  policy : ∀ fault, Policy.build naming configuration.policy = .error fault → ¬fault.OnNumber
  waits : ∃ backoff, Assembly.waits configuration.control = .ok backoff

theorem not_onNumber_of_fits (fits : configuration.Fits) {fault : Review.PolicyFault}
    (failed : Policy.build naming configuration.policy = .error fault) : ¬fault.OnNumber := by
  intro onNumber
  obtain ⟨_, beyond⟩ := Policy.build_onNumber_iff.mp ⟨fault, failed, onNumber⟩
  exact beyond ⟨Policy.expirationFits_iff.mpr (fits .maximumExpiration),
    Policy.nameCountFits_iff.mpr (fits .allowedNames)⟩

theorem acceptsNumbers_iff (fits : configuration.Fits) :
    AcceptsNumbers naming configuration ↔
      ¬configuration.control.retryInitialDelay < 0 ∧ ¬configuration.control.retryMaxDelay < 0 := by
  have atLeastOne : 1 ≤ configuration.control.retryAttempts := fits .retryAttempts
  constructor
  · intro accepts
    exact (waits_succeeds_iff.mp accepts.waits).2
  · intro notNegative
    exact ⟨fun _ => not_onNumber_of_fits fits, waits_succeeds_iff.mpr ⟨atLeastOne, notNegative⟩⟩

/-- Of the numbers that the settings let pass, only a delay that is below zero keeps a controller
from being put together, and it is what is reported. -/
theorem ofConfiguration_of_load (naming : Pattern.Naming) {site : Site}
    {arguments : List (String × Json)} (loaded : site.load arguments = .ok configuration) :
    configuration.Fits ∧
    (AcceptsNumbers naming configuration ↔ ¬configuration.control.retryInitialDelay < 0 ∧
      ¬configuration.control.retryMaxDelay < 0) ∧
    (isFinite configuration.control.retryInitialDelay = true →
      isFinite configuration.control.retryMaxDelay = true →
      (AcceptsNumbers naming configuration ↔ 0 ≤ configuration.control.retryInitialDelay ∧
        0 ≤ configuration.control.retryMaxDelay)) ∧
    (∀ backoff, waits configuration.control = .ok backoff →
      AskedFor configuration.control backoff) ∧
    ∀ fault, ofConfiguration naming configuration = .error fault →
      (∃ cause, fault = .policy cause ∧ ¬cause.OnNumber) ∨
        fault = .waits (waitIssues configuration.control) ∧
          ¬AcceptsNumbers naming configuration := by
  have fits := Configuration.fits_of_load loaded
  have accepts := @acceptsNumbers_iff naming configuration fits
  refine ⟨fits, accepts, fun finiteInitial finiteMax => ?_, fun _ => askedFor_of_waits,
    fun fault failed => ?_⟩
  · rw [accepts, not_lt_iff_le finiteInitial isFinite_zero, not_lt_iff_le finiteMax isFinite_zero]
  · rcases ofConfiguration_eq_error.mp failed with
      ⟨cause, noPolicy, rfl⟩ | ⟨_, issues, -, noWaits, rfl⟩
    · exact Or.inl ⟨cause, rfl, not_onNumber_of_fits fits noPolicy⟩
    · right
      have isIssues := issues_waits configuration.control
      rw [noWaits, Checked.issues] at isIssues
      refine ⟨congrArg AssemblyFault.waits isIssues, fun accepted => ?_⟩
      obtain ⟨backoff, isBackoff⟩ := accepted.waits
      cases noWaits.symm.trans isBackoff

/-- A configuration as that of a process that is given nothing, but with a first delay and a level
of its own. -/
def delayed (initialDelay : Floating.Double) : Configuration :=
  let plain := Configuration.ofValues Setting.absent
  { plain with
    control := { plain.control with retryInitialDelay := initialDelay }
    process := { plain.process with logLevel := Text.toUpper (Text.trim "debug") } }

theorem fits_delayed (initialDelay : Floating.Double) : (delayed initialDelay).Fits := by
  intro setting
  cases setting <;>
    simp [Setting.Fits, Configuration.value, delayed, Configuration.ofValues, Setting.absent,
      Policy.expirationLimit]

theorem load_delayed (initialDelay : Floating.Double) :
    Site.load {} ((delayed initialDelay).arguments "debug") = .ok (delayed initialDelay) :=
  (fits_delayed initialDelay).load_arguments rfl

theorem ofConfiguration_of_load_patient :
    Site.load {} ((delayed 1).arguments "debug") = .ok (delayed 1) ∧
      AcceptsNumbers noNames (delayed 1) := by
  obtain ⟨-, -, accepts, -⟩ := ofConfiguration_of_load noNames (load_delayed 1)
  have notNegative : 0 ≤ (delayed 1).control.retryInitialDelay ∧
      0 ≤ (delayed 1).control.retryMaxDelay := by
    decide +kernel
  exact ⟨load_delayed 1, (accepts (by decide +kernel) (by decide +kernel)).mpr notNegative⟩

theorem not_acceptsNumbers_negative :
    Site.load {} ((delayed (Floating.ofInt (-1))).arguments "debug") =
        .ok (delayed (Floating.ofInt (-1))) ∧
      waits (delayed (Floating.ofInt (-1))).control =
        .error [⟨["initial_delay"], .tooSmall⟩] ∧
      ofConfiguration noNames (delayed (Floating.ofInt (-1))) =
        .error (.waits [⟨["initial_delay"], .tooSmall⟩]) ∧
      ¬AcceptsNumbers noNames (delayed (Floating.ofInt (-1))) := by
  have refused : waits (delayed (Floating.ofInt (-1))).control =
      .error [⟨["initial_delay"], .tooSmall⟩] := by
    decide +kernel
  have isBuilt : (Policy.build noNames (delayed (Floating.ofInt (-1))).policy).isOk = true := by
    decide +kernel
  have negative : ¬AcceptsNumbers noNames (delayed (Floating.ofInt (-1))) := by
    rintro ⟨-, backoff, accepted⟩
    cases refused.symm.trans accepted
  refine ⟨load_delayed _, refused, ?_, negative⟩
  cases built : Policy.build noNames (delayed (Floating.ofInt (-1))).policy with
  | error cause =>
      rw [built] at isBuilt
      cases isBuilt
  | ok policy =>
      exact ofConfiguration_eq_error.mpr (Or.inr ⟨policy, _, built, refused, rfl⟩)

end Assembly

end CertApproval.Service
