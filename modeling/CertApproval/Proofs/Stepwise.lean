import Mathlib.Data.List.Forall2

/-!
Steps one after the other: those that change a state, and those that go on up to the first that
fails. Main statements: steps over a list succeed exactly if each of them does, and they fail as
the first that fails.
-/

namespace CertApproval

/-! ## Steps in a state -/

section States

variable {σ α β : Type}

@[simp]
theorem pure_apply (value : α) (state : σ) : (pure value : StateM σ α) state = (value, state) := rfl

@[simp]
theorem bind_apply (first : StateM σ α) (next : α → StateM σ β) (state : σ) :
    (first >>= next) state = next (first state).1 (first state).2 := rfl

@[simp]
theorem map_apply (change : α → β) (first : StateM σ α) (state : σ) :
    (change <$> first) state = (change (first state).1, (first state).2) := rfl

@[simp]
theorem get_apply (state : σ) : (get : StateM σ σ) state = (state, state) := rfl

@[simp]
theorem set_apply (next state : σ) : (set next : StateM σ PUnit) state = (⟨⟩, next) := rfl

/-- Whether a step that begins in a changed state does what another one does in the state
itself, up to a change of what it gives. -/
def Carries {τ : Type} (change : σ → τ) (translate : α → β) (step : StateM σ α)
    (changed : StateM τ β) : Prop :=
  ∀ state, changed (change state) = (translate (step state).1, change (step state).2)

variable {τ γ δ : Type} {change : σ → τ} {translate : α → β}

theorem Carries.apply {step : StateM σ α} {changed : StateM τ β} {state next : σ} {value : α}
    (carries : Carries change translate step changed) (stepped : step state = (value, next)) :
    changed (change state) = (translate value, change next) := by
  rw [carries state, stepped]

theorem Carries.pure (value : α) :
    Carries change translate (pure value) (pure (translate value)) := fun _ => rfl

theorem Carries.bind {translateLast : γ → δ} {first : StateM σ α} {firstChanged : StateM τ β}
    {next : α → StateM σ γ} {nextChanged : β → StateM τ δ}
    (carriesFirst : Carries change translate first firstChanged)
    (carriesNext : ∀ value,
      Carries change translateLast (next value) (nextChanged (translate value))) :
    Carries change translateLast (first >>= next) (firstChanged >>= nextChanged) := by
  intro state
  rw [bind_apply, bind_apply, carriesFirst state, carriesNext]

end States

/-! ## Steps that may fail -/

section Steps

variable {ε α β : Type}

theorem bind_eq_ok {first : Except ε α} {next : α → Except ε β} {value : β} :
    first >>= next = .ok value ↔ ∃ given, first = .ok given ∧ next given = .ok value := by
  cases first <;> simp [bind, Except.bind]

theorem bind_eq_error {first : Except ε α} {next : α → Except ε β} {fault : ε} :
    first >>= next = .error fault ↔
      first = .error fault ∨ ∃ given, first = .ok given ∧ next given = .error fault := by
  cases first <;> simp [bind, Except.bind]

variable {step : α → Except ε β} {items : List α}

theorem mapM_eq_ok {values : List β} :
    items.mapM step = .ok values ↔
      List.Forall₂ (fun item value => step item = .ok value) items values := by
  induction items generalizing values with
  | nil =>
      simp [pure, Except.pure, eq_comm]
  | cons item items inductionHypothesis =>
      simp only [List.mapM_cons, bind_eq_ok, inductionHypothesis, List.forall₂_cons_left_iff]
      constructor
      · rintro ⟨value, first, others, each, same⟩
        exact ⟨value, others, first, each, (Except.ok.inj same).symm⟩
      · rintro ⟨value, others, first, each, rfl⟩
        exact ⟨value, first, others, each, rfl⟩

/-- Steps over a list succeed if each of them does. -/
theorem mapM_succeeds_iff :
    (∃ values, items.mapM step = .ok values) ↔ ∀ item ∈ items, ∃ value, step item = .ok value := by
  simp only [mapM_eq_ok]
  induction items with
  | nil =>
      simp
  | cons item items inductionHypothesis =>
      rw [List.forall_mem_cons, ← inductionHypothesis]
      constructor
      · rintro ⟨_, each⟩
        cases each with
        | cons first rest =>
            exact ⟨⟨_, first⟩, _, rest⟩
      · rintro ⟨⟨value, first⟩, values, rest⟩
        exact ⟨value :: values, .cons first rest⟩

/-- Steps over a list fail as the first step that fails. -/
theorem mapM_eq_error {fault : ε} :
    items.mapM step = .error fault ↔
      ∃ before item after, items = before ++ item :: after ∧
        (∀ earlier ∈ before, ∃ value, step earlier = .ok value) ∧ step item = .error fault := by
  induction items with
  | nil =>
      simp [pure, Except.pure]
  | cons head items inductionHypothesis =>
      simp only [List.mapM_cons, bind_eq_error, inductionHypothesis]
      constructor
      · rintro (failed | ⟨value, first, ⟨before, item, after, rfl, passed, failed⟩ | ⟨_, _, done⟩⟩)
        · exact ⟨[], head, items, rfl, by simp, failed⟩
        · refine ⟨head :: before, item, after, rfl, ?_, failed⟩
          exact List.forall_mem_cons.mpr ⟨⟨value, first⟩, passed⟩
        · cases done
      · rintro ⟨before, item, after, split, passed, failed⟩
        cases before with
        | nil =>
            cases split
            exact Or.inl failed
        | cons earlier before =>
            cases split
            obtain ⟨⟨value, first⟩, passedRest⟩ := List.forall_mem_cons.mp passed
            exact Or.inr ⟨value, first, Or.inl ⟨before, item, after, rfl, passedRest, failed⟩⟩

end Steps

theorem exists_mem_iff_of_forall₂ {α β : Type} {relation : α → β → Prop} {left : α → Prop}
    {right : β → Prop} {items : List α} {values : List β}
    (related : List.Forall₂ relation items values)
    (same : ∀ item value, relation item value → (left item ↔ right value)) :
    (∃ item ∈ items, left item) ↔ ∃ value ∈ values, right value := by
  induction related with
  | nil =>
      simp
  | cons first _ inductionHypothesis =>
      rw [List.exists_mem_cons_iff, List.exists_mem_cons_iff, same _ _ first, inductionHypothesis]

end CertApproval
