import CertApproval.Proofs.Fields.Denotation
import CertApproval.Proofs.Fields.Records
import CertApproval.Proofs.Review.Building
import CertApproval.Settings.Configuration
import Mathlib.Data.List.Forall2

/-!
The settings one by one: their names, what their values may be, and what they are where nothing is
selected for them. Main statements: a configuration is read exactly if each of its settings is, and
otherwise the issues are those of the settings, in their order.
-/

namespace CertApproval.Settings

open CertApproval.Fields
open CertApproval.Floating (Double)
open CertApproval.Review.Policy (expirationFits_iff nameCountFits_iff)

/-- The settings of a configuration. -/
inductive Setting where
  | pattern
  | prefixes
  | maximumExpiration
  | allowedNames
  | bypassResolution
  | bypassHostname
  | bypassIdentity
  | signerName
  | kubeconfig
  | dnsTimeout
  | workers
  | retryAttempts
  | retryInitialDelay
  | retryMaxDelay
  | requeueDelay
  | shutdownGrace
  | logLevel
  | probeHost
  | probePort
  deriving DecidableEq, Repr

namespace Setting

/-- All settings, in the order in which their faults are reported. -/
def all : List Setting :=
  [pattern, prefixes, maximumExpiration, allowedNames, bypassResolution, bypassHostname,
    bypassIdentity, signerName, kubeconfig, dnsTimeout, workers, retryAttempts, retryInitialDelay,
    retryMaxDelay, requeueDelay, shutdownGrace, logLevel, probeHost, probePort]

def name : Setting → String
  | pattern => "provider_regex"
  | prefixes => "provider_ip_prefixes"
  | maximumExpiration => "max_expiration_sec"
  | allowedNames => "allowed_dns_names"
  | bypassResolution => "bypass_dns_resolution"
  | bypassHostname => "bypass_hostname_check"
  | bypassIdentity => "ignore_non_system_node"
  | signerName => "signer_name"
  | kubeconfig => "kubeconfig"
  | dnsTimeout => "dns_timeout_seconds"
  | workers => "workers"
  | retryAttempts => "retry_attempts"
  | retryInitialDelay => "retry_initial_delay"
  | retryMaxDelay => "retry_max_delay"
  | requeueDelay => "requeue_delay_seconds"
  | shutdownGrace => "shutdown_grace_seconds"
  | logLevel => "log_level"
  | probeHost => "probe_host"
  | probePort => "probe_port"

/-- The kind of a setting. -/
abbrev Value : Setting → Type
  | pattern | prefixes | signerName | logLevel | probeHost => String
  | kubeconfig => Option String
  | maximumExpiration | allowedNames | workers | retryAttempts | probePort => Int
  | bypassResolution | bypassHostname | bypassIdentity => Bool
  | dnsTimeout | retryInitialDelay | retryMaxDelay | requeueDelay | shutdownGrace => Double

/-- The value of a setting for which nothing is selected. -/
def absent : (setting : Setting) → setting.Value
  | pattern => ".*"
  | prefixes => "0.0.0.0/0,::/0"
  | maximumExpiration => Review.Policy.expirationLimit
  | allowedNames => (1 : Int)
  | bypassResolution => false
  | bypassHostname => false
  | bypassIdentity => false
  | signerName => servingSigner
  | kubeconfig => none
  | dnsTimeout => (1 : Double)
  | workers => (2 : Int)
  | retryAttempts => (5 : Int)
  | retryInitialDelay => Retry.Backoff.defaultInitialDelay
  | retryMaxDelay => (2 : Double)
  | requeueDelay => (5 : Double)
  | shutdownGrace => (10 : Double)
  | logLevel => "INFO"
  | probeHost => "0.0.0.0"
  | probePort => (8081 : Int)

/-- Which raw values denote a value of the kind of a setting. The level of the reports has no
blanks around it and is in upper case. -/
def Denotes : (setting : Setting) → Json → setting.Value → Prop
  | pattern | prefixes | signerName | probeHost => DenotesText
  | logLevel => fun raw level =>
    ∃ text, DenotesText raw text ∧ level = Text.toUpper (Text.trim text)
  | kubeconfig => DenotesOptionalText
  | maximumExpiration | allowedNames | workers | retryAttempts | probePort => DenotesInt
  | bypassResolution | bypassHostname | bypassIdentity => DenotesBool
  | dnsTimeout | retryInitialDelay | retryMaxDelay | requeueDelay | shutdownGrace => DenotesFloat

/-- Whether a value lies in the range of a setting. -/
def Fits : (setting : Setting) → setting.Value → Prop
  | maximumExpiration => fun seconds => 0 ≤ seconds ∧ seconds ≤ 367 * 24 * 3600
  | allowedNames => fun count => 1 ≤ count ∧ count ≤ 1000
  | workers | retryAttempts => fun count => 1 ≤ count
  | pattern | prefixes | bypassResolution | bypassHostname | bypassIdentity | signerName
  | kubeconfig | dnsTimeout | retryInitialDelay | retryMaxDelay | requeueDelay | shutdownGrace
  | logLevel | probeHost | probePort => fun _ => True

/-- How the value of a setting is read. -/
def read : (setting : Setting) → Json → Except FieldFault setting.Value
  | pattern | prefixes | signerName | probeHost => readText
  | logLevel => readLevel
  | kubeconfig => readOptionalText
  | maximumExpiration => readRuledInt Review.Policy.expirationFits
  | allowedNames => readRuledInt Review.Policy.nameCountFits
  | workers | retryAttempts => readRuledInt isPositive
  | probePort => readInt
  | bypassResolution | bypassHostname | bypassIdentity => readBool
  | dnsTimeout | retryInitialDelay | retryMaxDelay | requeueDelay | shutdownGrace => readFloat

/-- A raw value that denotes a value. The level of the reports is given by a text that becomes
it. -/
def write (level : String) : (setting : Setting) → setting.Value → Json
  | pattern | prefixes | signerName | probeHost => .string
  | logLevel => fun _ => .string level
  | kubeconfig => fun path? => path?.elim .null .string
  | maximumExpiration | allowedNames | workers | retryAttempts | probePort => .int
  | bypassResolution | bypassHostname | bypassIdentity => .bool
  | dnsTimeout | retryInitialDelay | retryMaxDelay | requeueDelay | shutdownGrace => .float

/-- A setting as it is read from what is selected. -/
def checked (setting : Setting) (select : String → Option Json) : Checked setting.Value :=
  readSelected select setting.name setting.absent setting.read

end Setting

/-- The value of a setting in a configuration. -/
def Configuration.value (configuration : Configuration) : (setting : Setting) → setting.Value
  | .pattern => configuration.policy.pattern
  | .prefixes => configuration.policy.prefixes
  | .maximumExpiration => configuration.policy.maximumExpiration
  | .allowedNames => configuration.policy.allowedNames
  | .bypassResolution => configuration.policy.bypassResolution
  | .bypassHostname => configuration.policy.bypassHostname
  | .bypassIdentity => configuration.policy.bypassIdentity
  | .signerName => configuration.control.signerName
  | .kubeconfig => configuration.control.kubeconfig
  | .dnsTimeout => configuration.control.dnsTimeout
  | .workers => configuration.control.workers
  | .retryAttempts => configuration.control.retryAttempts
  | .retryInitialDelay => configuration.control.retryInitialDelay
  | .retryMaxDelay => configuration.control.retryMaxDelay
  | .requeueDelay => configuration.control.requeueDelay
  | .shutdownGrace => configuration.control.shutdownGrace
  | .logLevel => configuration.process.logLevel
  | .probeHost => configuration.process.probeHost
  | .probePort => configuration.process.probePort

variable {select : String → Option Json} {configuration : Configuration}

/-! ## Single settings -/

theorem readRuledInt_eq_ok {rule : Int → Bool} {raw : Json} {value : Int} :
    readRuledInt rule raw = .ok value ↔ DenotesInt raw value ∧ rule value = true := by
  rw [readRuledInt, ruled_eq_ok, readInt_eq_ok, accepting, ite_eq_left_iff]
  simp

theorem readRuledInt_refused_iff {rule : Int → Bool} {raw : Json} :
    readRuledInt rule raw = .error .refused ↔
      ∃ value, DenotesInt raw value ∧ ¬rule value = true := by
  simp only [readRuledInt, ruled_eq_error, readInt_ne_refused, false_or, readInt_eq_ok, accepting,
    ite_eq_right_iff, reduceCtorEq, imp_false]

theorem readLevel_eq_ok {raw : Json} {level : String} :
    readLevel raw = .ok level ↔
      ∃ text, DenotesText raw text ∧ level = Text.toUpper (Text.trim text) := by
  constructor
  · intro isRead
    cases raw with
    | string text =>
        exact ⟨text, .string text, (Except.ok.inj isRead).symm⟩
    | _ =>
        cases isRead
  · rintro ⟨_, ⟨⟩, rfl⟩
    rfl

theorem readLevel_ne_refused (raw : Json) : readLevel raw ≠ .error .refused := by
  cases raw <;> simp [readLevel, readText]

theorem isPositive_iff {count : Int} : isPositive count = true ↔ 1 ≤ count :=
  decide_eq_true_iff

namespace Setting

variable {setting : Setting}

theorem mem_all (setting : Setting) : setting ∈ all := by
  cases setting <;> decide

theorem name_injective : Function.Injective name := by
  have apart : ∀ one ∈ all, ∀ other ∈ all, one.name = other.name → one = other := by
    decide +kernel
  exact fun one other => apart one (mem_all one) other (mem_all other)

/-- A setting is read if its raw value denotes one of its kind that lies in its range. -/
theorem read_eq_ok {raw : Json} {value : setting.Value} :
    setting.read raw = .ok value ↔ setting.Denotes raw value ∧ setting.Fits value := by
  cases setting with
  | pattern | prefixes | signerName | probeHost =>
      exact readText_eq_ok.trans (and_iff_left trivial).symm
  | kubeconfig =>
      exact readOptionalText_eq_ok.trans (and_iff_left trivial).symm
  | logLevel =>
      exact readLevel_eq_ok.trans (and_iff_left trivial).symm
  | bypassResolution | bypassHostname | bypassIdentity =>
      exact readBool_eq_ok.trans (and_iff_left trivial).symm
  | dnsTimeout | retryInitialDelay | retryMaxDelay | requeueDelay | shutdownGrace =>
      exact readFloat_eq_ok.trans (and_iff_left trivial).symm
  | probePort =>
      exact readInt_eq_ok.trans (and_iff_left trivial).symm
  | workers | retryAttempts =>
      exact readRuledInt_eq_ok.trans (and_congr_right' isPositive_iff)
  | maximumExpiration =>
      exact readRuledInt_eq_ok.trans (and_congr_right' expirationFits_iff)
  | allowedNames =>
      exact readRuledInt_eq_ok.trans (and_congr_right' nameCountFits_iff)

/-- A value is refused if it is one of the kind of a setting that lies beyond its range. -/
theorem read_refused_iff {raw : Json} :
    setting.read raw = .error .refused ↔
      ∃ value, setting.Denotes raw value ∧ ¬setting.Fits value := by
  cases setting with
  | pattern | prefixes | signerName | probeHost =>
      exact iff_of_false (readText_ne_refused raw) fun ⟨_, _, beyond⟩ => beyond trivial
  | kubeconfig =>
      exact iff_of_false (readOptionalText_ne_refused raw) fun ⟨_, _, beyond⟩ => beyond trivial
  | logLevel =>
      exact iff_of_false (readLevel_ne_refused raw) fun ⟨_, _, beyond⟩ => beyond trivial
  | bypassResolution | bypassHostname | bypassIdentity =>
      exact iff_of_false (readBool_ne_refused raw) fun ⟨_, _, beyond⟩ => beyond trivial
  | dnsTimeout | retryInitialDelay | retryMaxDelay | requeueDelay | shutdownGrace =>
      exact iff_of_false (readFloat_ne_refused raw) fun ⟨_, _, beyond⟩ => beyond trivial
  | probePort =>
      exact iff_of_false (readInt_ne_refused raw) fun ⟨_, _, beyond⟩ => beyond trivial
  | workers | retryAttempts =>
      simp only [Setting.read, readRuledInt_refused_iff, isPositive_iff, Denotes, Fits]
  | maximumExpiration =>
      simp only [Setting.read, readRuledInt_refused_iff, expirationFits_iff, Denotes, Fits]
  | allowedNames =>
      simp only [Setting.read, readRuledInt_refused_iff, nameCountFits_iff, Denotes, Fits]

theorem fits_absent (setting : Setting) : setting.Fits setting.absent := by
  cases setting <;> simp [Fits, absent, Review.Policy.expirationLimit]

theorem checked_eq_ok {value : setting.Value} :
    setting.checked select = .ok value ↔
      select setting.name = none ∧ value = setting.absent ∨
        ∃ raw, select setting.name = some raw ∧ setting.Denotes raw value ∧ setting.Fits value := by
  rw [checked, readSelected]
  cases select setting.name with
  | none =>
      simp [eq_comm]
  | some raw =>
      simp [readValue_eq_ok, read_eq_ok]

theorem checked_eq_error {issues : List Issue} :
    setting.checked select = .error issues ↔
      ∃ raw fault, select setting.name = some raw ∧ setting.read raw = .error fault ∧
        issues = [⟨[setting.name], fault⟩] := by
  rw [checked, readSelected]
  cases select setting.name with
  | none =>
      simp
  | some raw =>
      simp [readValue_eq_error]

theorem issues_checked_eq_nil :
    Checked.issues (setting.checked select) = [] ↔
      ∃ value, setting.checked select = .ok value := by
  cases isChecked : setting.checked select with
  | ok value =>
      simp [Checked.issues]
  | error issues =>
      obtain ⟨raw, fault, -, -, rfl⟩ := checked_eq_error.mp isChecked
      simp [Checked.issues]

end Setting

/-! ## All settings -/

namespace Configuration

/-- The configuration with given values of its settings. -/
def ofValues (values : (setting : Setting) → setting.Value) : Configuration where
  policy := {
    pattern := values .pattern
    prefixes := values .prefixes
    maximumExpiration := values .maximumExpiration
    allowedNames := values .allowedNames
    bypassResolution := values .bypassResolution
    bypassHostname := values .bypassHostname
    bypassIdentity := values .bypassIdentity }
  control := {
    signerName := values .signerName
    kubeconfig := values .kubeconfig
    dnsTimeout := values .dnsTimeout
    workers := values .workers
    retryAttempts := values .retryAttempts
    retryInitialDelay := values .retryInitialDelay
    retryMaxDelay := values .retryMaxDelay
    requeueDelay := values .requeueDelay
    shutdownGrace := values .shutdownGrace }
  process := {
    logLevel := values .logLevel
    probeHost := values .probeHost
    probePort := values .probePort }

theorem value_ofValues (values : (setting : Setting) → setting.Value) (setting : Setting) :
    (ofValues values).value setting = values setting := by
  cases setting <;> rfl

theorem read_of_checked {values : (setting : Setting) → setting.Value}
    (each : ∀ setting : Setting, setting.checked select = .ok (values setting)) :
    read select = .ok (ofValues values) := by
  have listed : ∀ setting ∈ Setting.all, setting.checked select = .ok (values setting) :=
    fun setting _ => each setting
  simp only [Setting.all, List.forall_mem_cons, Setting.checked, Setting.name, Setting.absent,
    Setting.read] at listed
  simp only [read, readPolicy, readControl, readProcess, listed]
  rfl

/-- Nothing counts that is selected for other names than those of settings. -/
theorem read_congr {other : String → Option Json}
    (same : ∀ setting : Setting, select setting.name = other setting.name) :
    read select = read other := by
  have listed : ∀ setting ∈ Setting.all, setting.checked select = setting.checked other := by
    intro setting _
    rw [Setting.checked, Setting.checked, readSelected, readSelected, same]
  simp only [Setting.all, List.forall_mem_cons, Setting.checked, Setting.name, Setting.absent,
    Setting.read] at listed
  simp only [read, readPolicy, readControl, readProcess, listed]

/-- The issues of a configuration are those of its settings. -/
theorem issues_read (select : String → Option Json) :
    Checked.issues (read select) =
      Setting.all.flatMap fun setting => Checked.issues (setting.checked select) := by
  simp only [read, readPolicy, readControl, readProcess, Checked.issues_andThen,
    Checked.issues_map, List.append_assoc, Setting.all, List.flatMap_cons, List.flatMap_nil,
    List.append_nil]
  rfl

/-- A configuration is read exactly if each of its settings is. -/
theorem read_eq_ok :
    read select = .ok configuration ↔
      ∀ setting : Setting, setting.checked select = .ok (configuration.value setting) := by
  refine ⟨fun isRead => ?_, read_of_checked⟩
  have noIssues := issues_read select
  rw [isRead, Checked.issues, eq_comm, List.flatMap_eq_nil_iff] at noIssues
  have each (setting : Setting) : ∃ value, setting.checked select = .ok value :=
    Setting.issues_checked_eq_nil.mp (noIssues setting (Setting.mem_all setting))
  choose values isChecked using each
  obtain rfl := Except.ok.inj (isRead.symm.trans (read_of_checked isChecked))
  simpa only [value_ofValues] using isChecked

/-- Whether the value of every setting lies in its range. -/
def Fits (configuration : Configuration) : Prop :=
  ∀ setting : Setting, setting.Fits (configuration.value setting)

theorem fits_of_read (isRead : read select = .ok configuration) : configuration.Fits := by
  intro setting
  have isChecked := read_eq_ok.mp isRead setting
  rcases Setting.checked_eq_ok.mp isChecked with ⟨_, isAbsent⟩ | ⟨_, _, _, fits⟩
  · rw [isAbsent]
    exact setting.fits_absent
  · exact fits

/-- The arguments that give a process all values of a configuration. -/
def arguments (configuration : Configuration) (level : String) : List (String × Json) :=
  Setting.all.map fun setting => (setting.name, setting.write level (configuration.value setting))

theorem denotes_write {level : String}
    (isLevel : configuration.process.logLevel = Text.toUpper (Text.trim level))
    (setting : Setting) :
    setting.Denotes (setting.write level (configuration.value setting))
      (configuration.value setting) := by
  cases setting with
  | logLevel =>
      exact ⟨level, .string level, isLevel⟩
  | pattern | prefixes | signerName | probeHost =>
      exact .string _
  | kubeconfig =>
      rw [Setting.write]
      cases configuration.value .kubeconfig with
      | none =>
          exact .null
      | some text =>
          exact .string text
  | maximumExpiration | allowedNames | workers | retryAttempts | probePort =>
      exact .int _
  | bypassResolution | bypassHostname | bypassIdentity =>
      exact .bool _
  | dnsTimeout | retryInitialDelay | retryMaxDelay | requeueDelay | shutdownGrace =>
      exact .float _

end Configuration

end CertApproval.Settings
