import CertApproval.Proofs.Settings.Layers
import CertApproval.Proofs.Settings.Values

/-!
Merging the sources of settings. Main statement: sources are merged setting by setting. Each takes
the value of the first source that gives it one, whatever the others hold; all of them have to be in
order, and those that are not are named, in their order.
-/

namespace CertApproval.Settings

open CertApproval.Fields

namespace Setting

variable (setting : Setting) (layers : Layers)

/-- Whether a setting takes a value: that which its selected raw value denotes, if it lies in its
range, or its own where nothing is selected. -/
inductive Takes : setting.Value → Prop
  | absent (nothing : layers.Selects setting.name none) : Takes setting.absent
  | given {raw : Json} {value : setting.Value}
      (selected : layers.Selects setting.name (some raw)) (denotes : setting.Denotes raw value)
      (fits : setting.Fits value) : Takes value

/-- Whether the value that is selected for a setting is not one that it can take. -/
def IsBad : Prop :=
  ∃ raw, layers.Selects setting.name (some raw) ∧
    ∀ value, setting.Denotes raw value → ¬setting.Fits value

/-- Whether an issue is that of a setting with a bad value. A value of the right kind is refused,
and others have faults of their own. -/
structure Faulty (issue : Issue) : Prop where
  place : issue.place = [setting.name]
  bad : setting.IsBad layers
  refused : issue.fault = .refused ↔
    ∃ raw value, layers.Selects setting.name (some raw) ∧ setting.Denotes raw value

variable {setting layers}

theorem takes_iff {value : setting.Value} :
    setting.Takes layers value ↔
      setting.checked (Source.select layers.sources) = .ok value := by
  rw [checked_eq_ok]
  constructor
  · rintro (nothing | ⟨selected, denotes, fits⟩)
    · exact Or.inl ⟨Layers.selects_iff.mp nothing, rfl⟩
    · exact Or.inr ⟨_, Layers.selects_iff.mp selected, denotes, fits⟩
  · rintro (⟨nothing, rfl⟩ | ⟨raw, selected, denotes, fits⟩)
    · exact .absent (Layers.selects_iff.mpr nothing)
    · exact .given (Layers.selects_iff.mpr selected) denotes fits

theorem isBad_iff :
    setting.IsBad layers ↔
      Checked.issues (setting.checked (Source.select layers.sources)) ≠ [] := by
  simp only [IsBad, Layers.selects_iff, ne_eq, issues_checked_eq_nil, checked_eq_ok]
  constructor
  · rintro ⟨raw, selected, bad⟩ ⟨value, ⟨nothing, _⟩ | ⟨other, isOther, denotes, fits⟩⟩
    · cases selected.symm.trans nothing
    · cases selected.symm.trans isOther
      exact bad value denotes fits
  · intro bad
    cases selected : Source.select layers.sources setting.name with
    | none =>
        exact absurd ⟨_, Or.inl ⟨selected, rfl⟩⟩ bad
    | some raw =>
        exact ⟨raw, rfl, fun value denotes fits =>
          bad ⟨value, Or.inr ⟨raw, selected, denotes, fits⟩⟩⟩

theorem faulty_of_checked {issue : Issue}
    (isChecked : Checked.issues (setting.checked (Source.select layers.sources)) = [issue]) :
    setting.Faulty layers issue := by
  have bad : setting.IsBad layers := isBad_iff.mpr (by simp [isChecked])
  cases found : setting.checked (Source.select layers.sources) with
  | ok value =>
      simp [found, Checked.issues] at isChecked
  | error issues =>
      obtain ⟨raw, fault, selected, isRead, rfl⟩ := checked_eq_error.mp found
      rw [found] at isChecked
      obtain rfl := List.singleton_inj.mp isChecked
      have isSelected := Layers.selects_iff.mpr selected
      refine ⟨rfl, bad, ?_⟩
      constructor
      · rintro rfl
        obtain ⟨value, denotes, _⟩ := read_refused_iff.mp isRead
        exact ⟨raw, value, isSelected, denotes⟩
      · rintro ⟨other, value, isOther, denotes⟩
        cases selected.symm.trans (Layers.selects_iff.mp isOther)
        obtain ⟨_, isBad, beyond⟩ := bad
        cases selected.symm.trans (Layers.selects_iff.mp isBad)
        have refused := read_refused_iff.mpr ⟨value, denotes, beyond value denotes⟩
        exact Except.error.inj (isRead.symm.trans refused)

theorem checked_cases (setting : Setting) (select : String → Option Json) :
    Checked.issues (setting.checked select) = [] ∨
      ∃ issue, Checked.issues (setting.checked select) = [issue] := by
  cases found : setting.checked select with
  | ok value =>
      exact Or.inl rfl
  | error issues =>
      obtain ⟨raw, fault, -, -, rfl⟩ := checked_eq_error.mp found
      exact Or.inr ⟨_, rfl⟩

end Setting

/-- What is wrong with some of the items, each of which has one issue or none. -/
theorem forall₂_flatMap {α β : Type} {issues : α → List β}
    (single : ∀ item, issues item = [] ∨ ∃ issue, issues item = [issue]) (items : List α) :
    List.Forall₂ (fun item issue => issues item = [issue])
      (items.filter fun item => !(issues item).isEmpty) (items.flatMap issues) := by
  induction items with
  | nil =>
      exact .nil
  | cons item rest inductionHypothesis =>
      rcases single item with none | ⟨issue, one⟩
      · simpa [none] using inductionHypothesis
      · simpa [one] using inductionHypothesis

namespace Layers

variable {layers : Layers}

theorem load_eq_ok {configuration : Configuration} :
    layers.load = .ok configuration ↔
      ∀ setting : Setting, setting.Takes layers (configuration.value setting) := by
  simp only [Setting.takes_iff]
  exact Configuration.read_eq_ok

theorem load_succeeds_iff :
    (∃ configuration, layers.load = .ok configuration) ↔
      ∀ setting : Setting, ¬setting.IsBad layers := by
  simp only [Setting.isBad_iff, not_not, Setting.issues_checked_eq_nil]
  constructor
  · rintro ⟨configuration, loaded⟩ setting
    exact ⟨_, Configuration.read_eq_ok.mp loaded setting⟩
  · intro each
    choose values isChecked using each
    exact ⟨_, Configuration.read_of_checked isChecked⟩

/-- The settings with bad values are reported, in their order. -/
theorem faulty_of_load {issues : List Issue} (failed : layers.load = .error issues) :
    ∃ bad : List Setting, bad.Sublist Setting.all ∧
      (∀ setting, setting ∈ bad ↔ setting.IsBad layers) ∧
      List.Forall₂ (fun setting issue => setting.Faulty layers issue) bad issues := by
  have found := Configuration.issues_read (Source.select layers.sources)
  rw [load, Configuration.ofSources] at failed
  rw [failed, Checked.issues] at found
  refine ⟨Setting.all.filter fun setting =>
    !(Checked.issues (setting.checked (Source.select layers.sources))).isEmpty,
    List.filter_sublist, fun setting => ?_, ?_⟩
  · simp [Setting.isBad_iff, Setting.mem_all]
  · rw [found]
    have single (setting : Setting) := setting.checked_cases (Source.select layers.sources)
    exact (forall₂_flatMap single Setting.all).imp fun _ _ => Setting.faulty_of_checked

theorem select_congr {other : Layers}
    (same : ∀ (setting : Setting) raw?,
      layers.Selects setting.name raw? ↔ other.Selects setting.name raw?) :
    layers.load = other.load :=
  Configuration.read_congr fun setting =>
    (selects_iff.mp ((same setting _).mp (selects_iff.mpr rfl))).symm

end Layers

/-! ## What is loaded by some process -/

namespace Configuration

variable {configuration : Configuration}

theorem fits_of_load {site : Site} {arguments : List (String × Json)}
    (loaded : site.load arguments = .ok configuration) : configuration.Fits := by
  obtain ⟨sources, _, isRead⟩ := Site.load_eq_ok.mp loaded
  exact fits_of_read isRead

theorem lookup_arguments {level : String} (setting : Setting) :
    (configuration.arguments level).lookup setting.name =
      some (setting.write level (configuration.value setting)) := by
  obtain ⟨before, after, split, isFirst⟩ := List.eq_append_cons_of_mem setting.mem_all
  refine List.lookup_eq_some_iff.mpr
    ⟨_, _, by rw [arguments, split, List.map_append, List.map_cons], ?_⟩
  intro entry member
  obtain ⟨other, isBefore, rfl⟩ := List.mem_map.mp member
  refine bne_iff_ne.mpr fun sameName => ?_
  exact isFirst (Setting.name_injective sameName ▸ isBefore)

/-- A process that is given all settings loads them, if they lie in their ranges. -/
theorem Fits.load_arguments (fits : configuration.Fits) {level : String}
    (isLevel : configuration.process.logLevel = Text.toUpper (Text.trim level)) :
    Site.load {} (configuration.arguments level) = .ok configuration := by
  have held : Site.Holds {} (configuration.arguments level)
      ⟨configuration.arguments level, [], [], []⟩ :=
    ⟨rfl, rfl, rfl, rfl⟩
  have order : Layer.order = [] ++ .arguments :: [.environment, .assignments, .record] := rfl
  have loaded : Layers.load ⟨configuration.arguments level, [], [], []⟩ = .ok configuration :=
    Layers.load_eq_ok.mpr fun setting =>
      .given (.first order (Or.inl (lookup_arguments setting)) (by simp))
        (denotes_write isLevel setting) (fits setting)
  rw [held.load_eq, loaded]
  rfl

end Configuration

/-! ## The whole of a load -/

/-- Sources are merged setting by setting. They are what a process finds, unless it has a file that
cannot be read. -/
theorem load_merges (layers : Layers) :
    (∀ configuration, layers.load = .ok configuration ↔
      ∀ setting : Setting, setting.Takes layers (configuration.value setting)) ∧
    ((∃ configuration, layers.load = .ok configuration) ↔
      ∀ setting : Setting, ¬setting.IsBad layers) ∧
    (∀ issues, layers.load = .error issues →
      ∃ bad : List Setting, bad.Sublist Setting.all ∧
        (∀ setting, setting ∈ bad ↔ setting.IsBad layers) ∧
        List.Forall₂ (fun setting issue => setting.Faulty layers issue) bad issues) ∧
    (∀ other : Layers,
      (∀ (setting : Setting) raw?,
        layers.Selects setting.name raw? ↔ other.Selects setting.name raw?) →
      layers.load = other.load) ∧
    (∀ site arguments, Site.Holds site arguments layers →
      site.load arguments = layers.load.mapError .fields) ∧
    ∀ (site : Site) arguments, (∃ held, site.Holds arguments held) ∨
      ∃ fault, site.load arguments = .error (.file fault) :=
  ⟨fun _ => Layers.load_eq_ok, Layers.load_succeeds_iff, fun _ => Layers.faulty_of_load,
    fun _ => Layers.select_congr, fun _ _ held => held.load_eq, Site.holds_or_unreadable⟩

/-- A process that is given a bad number of workers and a good number of attempts, while its
environment has it the other way round. -/
def shadowingLayers : Layers where
  arguments := [("workers", .int 0), ("retry_attempts", .int 3)]
  environment := [("WORKERS", "6"), ("RETRY_ATTEMPTS", "0")]
  assignments := []
  record := []

def shadowedSite : Site where
  environment := shadowingLayers.environment

theorem load_merges_shadowed :
    shadowedSite.Holds shadowingLayers.arguments shadowingLayers ∧
    ∃ bad issues, shadowedSite.load shadowingLayers.arguments = .error (.fields issues) ∧
      List.Forall₂ (fun setting issue => setting.Faulty shadowingLayers issue) bad issues ∧
      Setting.workers ∈ bad ∧ Setting.retryAttempts ∉ bad := by
  obtain ⟨-, succeeds, fails, -, loads, -⟩ := load_merges shadowingLayers
  have held : shadowedSite.Holds shadowingLayers.arguments shadowingLayers :=
    ⟨rfl, rfl, rfl, rfl⟩
  have order : Layer.order = [] ++ .arguments :: [.environment, .assignments, .record] := rfl
  have workers : shadowingLayers.Selects "workers" (some (.int 0)) :=
    .first order (Or.inl rfl) (by simp)
  have attempts : shadowingLayers.Selects "retry_attempts" (some (.int 3)) :=
    .first order (Or.inl rfl) (by simp)
  have isBad : Setting.workers.IsBad shadowingLayers := by
    refine ⟨.int 0, workers, ?_⟩
    rintro _ ⟨⟩
    simp [Setting.Fits]
  cases loaded : shadowingLayers.load with
  | ok configuration =>
      exact absurd isBad (succeeds.mp ⟨configuration, loaded⟩ .workers)
  | error issues =>
      obtain ⟨bad, -, mem_bad, faulty⟩ := fails issues loaded
      refine ⟨held, bad, issues, ?_, faulty, (mem_bad _).mpr isBad, fun member => ?_⟩
      · rw [loads _ _ held, loaded]
        rfl
      · obtain ⟨raw, selected, unfit⟩ := (mem_bad _).mp member
        cases (Layers.selects_iff.mp attempts).symm.trans (Layers.selects_iff.mp selected)
        exact unfit 3 (.int 3) (by simp [Setting.Fits])

end CertApproval.Settings
