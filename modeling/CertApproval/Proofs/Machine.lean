/-!
Systems that go from state to state, one event after the other. Which events may come in a
state is said apart from what they do, so a history is a list of events, and whether it can
happen is a property of it. Main statement: what holds at the start and is kept by every
event that may come holds after every history that can happen.
-/

namespace CertApproval

/-- A system: the events that may come in a state, and the states that they lead to. -/
structure Machine (σ ε : Type) where
  allows : σ → ε → Prop
  next : σ → ε → σ

namespace Machine

variable {σ ε : Type}

def after (machine : Machine σ ε) (start : σ) (history : List ε) : σ :=
  history.foldl machine.next start

/-- Whether every event of a history may come when it comes. -/
def Legal (machine : Machine σ ε) : (start : σ) → (history : List ε) → Prop
  | _, [] => True
  | state, event :: history =>
      machine.allows state event ∧ machine.Legal (machine.next state event) history

/-- Whether an event of one kind came in a history, and none of another kind since then. -/
def Since (machine : Machine σ ε) (begins ends : σ → ε → Prop)
    (start : σ) (history : List ε) : Prop :=
  ∃ earlier event later,
    history = earlier ++ event :: later ∧
      begins (machine.after start earlier) event ∧
      ∀ between last rest,
        later = between ++ last :: rest →
          ¬ends (machine.after start (earlier ++ event :: between)) last

/-- A system in which fewer events may come. -/
def restrict (machine : Machine σ ε) (also : σ → ε → Prop) : Machine σ ε where
  allows state event := machine.allows state event ∧ also state event
  next := machine.next

variable {machine : Machine σ ε}

@[simp]
theorem after_nil (start : σ) : machine.after start [] = start := rfl

@[simp]
theorem after_cons (start : σ) (event : ε) (history : List ε) :
    machine.after start (event :: history) =
      machine.after (machine.next start event) history := rfl

@[simp]
theorem after_append (start : σ) (earlier later : List ε) :
    machine.after start (earlier ++ later) =
      machine.after (machine.after start earlier) later :=
  List.foldl_append

theorem after_snoc (start : σ) (history : List ε) (event : ε) :
    machine.after start (history ++ [event]) =
      machine.next (machine.after start history) event := by
  simp only [after_append, after_cons, after_nil]

theorem legal_append (start : σ) (earlier later : List ε) :
    machine.Legal start (earlier ++ later) ↔
      machine.Legal start earlier ∧ machine.Legal (machine.after start earlier) later := by
  induction earlier generalizing start with
  | nil =>
      simp [Legal]
  | cons event earlier inductionHypothesis =>
      simp only [List.cons_append, Legal, after_cons, inductionHypothesis, and_assoc]

theorem not_since_nil {begins ends : σ → ε → Prop} {start : σ} :
    ¬machine.Since begins ends start [] := by
  rintro ⟨earlier, event, later, split, _⟩
  simp at split

theorem since_snoc {begins ends : σ → ε → Prop} {start : σ} {history : List ε} {event : ε} :
    machine.Since begins ends start (history ++ [event]) ↔
      begins (machine.after start history) event ∨
        (machine.Since begins ends start history ∧
          ¬ends (machine.after start history) event) := by
  constructor
  · rintro ⟨earlier, first, later, split, begun, unended⟩
    rcases List.eq_nil_or_concat later with rfl | ⟨later, last, rfl⟩
    · obtain ⟨same, equal⟩ := List.append_inj' split rfl
      rw [same, List.singleton_inj.mp equal]
      exact Or.inl begun
    · rw [List.concat_eq_append, ← List.cons_append, ← List.append_assoc] at split
      obtain ⟨same, equal⟩ := List.append_inj' split rfl
      obtain rfl := List.singleton_inj.mp equal
      refine Or.inr ⟨⟨earlier, first, later, same, begun, ?_⟩, ?_⟩
      · rintro between final rest rfl
        exact unended between final (rest ++ [event]) (by simp)
      · rw [same]
        exact unended later event [] (by simp)
  · rintro (begun | ⟨⟨earlier, first, later, rfl, begun, unended⟩, notNow⟩)
    · refine ⟨history, event, [], rfl, begun, ?_⟩
      intro between last rest split
      simp at split
    · refine ⟨earlier, first, later ++ [event], by simp, begun, ?_⟩
      intro between last rest split
      rcases List.eq_nil_or_concat rest with rfl | ⟨rest, final, rfl⟩
      · obtain ⟨rfl, equal⟩ := List.append_inj' split rfl
        rw [← List.singleton_inj.mp equal]
        exact notNow
      · rw [List.concat_eq_append, ← List.cons_append, ← List.append_assoc] at split
        exact unended between last rest (List.append_inj' split rfl).1

/-- The invariant may speak of the history that led to a state. -/
theorem holds_after_history
    (holds : List ε → σ → Prop)
    (kept :
      ∀ history state event,
        holds history state → machine.allows state event →
          holds (history ++ [event]) (machine.next state event))
    {start : σ} {earlier later : List ε}
    (atStart : holds earlier start) (legal : machine.Legal start later) :
    holds (earlier ++ later) (machine.after start later) := by
  induction later generalizing start earlier with
  | nil =>
      simpa using atStart
  | cons event later inductionHypothesis =>
      have stepped : holds (earlier ++ [event]) (machine.next start event) :=
        kept earlier start event atStart legal.1
      simpa [List.append_assoc] using inductionHypothesis stepped legal.2

theorem holds_after
    (holds : σ → Prop)
    (kept : ∀ state event, holds state → machine.allows state event →
      holds (machine.next state event))
    {start : σ} (atStart : holds start)
    {history : List ε} (legal : machine.Legal start history) :
    holds (machine.after start history) := by
  induction history generalizing start with
  | nil =>
      exact atStart
  | cons event history inductionHypothesis =>
      exact inductionHypothesis (kept start event atStart legal.1) legal.2

theorem legal_of_restrict {also : σ → ε → Prop} {start : σ} {history : List ε}
    (legal : (machine.restrict also).Legal start history) :
    machine.Legal start history := by
  induction history generalizing start with
  | nil =>
      trivial
  | cons event history inductionHypothesis =>
      exact ⟨legal.1.1, inductionHypothesis legal.2⟩

instance (machine : Machine σ ε) (also : σ → ε → Prop)
    [∀ state event, Decidable (machine.allows state event)]
    [∀ state event, Decidable (also state event)] (state : σ) (event : ε) :
    Decidable ((machine.restrict also).allows state event) :=
  inferInstanceAs (Decidable (_ ∧ _))

/-- Whether a history can happen is decided event by event. -/
instance decidableLegal (machine : Machine σ ε)
    [∀ state event, Decidable (machine.allows state event)] :
    (start : σ) → (history : List ε) → Decidable (machine.Legal start history)
  | _, [] => inferInstanceAs (Decidable True)
  | start, event :: history =>
      have := decidableLegal machine (machine.next start event) history
      inferInstanceAs (Decidable (_ ∧ _))

end Machine

end CertApproval
