import CertApproval.Cluster.Fault
import Mathlib.Tactic.Tauto

/-!
What refusals of the cluster mean. Main statement: a refusal is final, or it may pass, or it is
one that nobody is prepared for.
-/

namespace CertApproval.Cluster

/-- Whether the same may be tried again after a refusal. -/
def Refusal.Passes : Refusal → Prop
  | .status (some code) _ =>
      code = conflictCode ∨ code = throttledCode ∨ ¬(400 ≤ code ∧ code < 500)
  | .status none _ | .disconnected _ => True
  | .crashed => False

instance : DecidablePred Refusal.Passes
  | .status (some _) _ => inferInstanceAs (Decidable (_ ∨ _))
  | .status none _ | .disconnected _ => inferInstanceAs (Decidable True)
  | .crashed => inferInstanceAs (Decidable False)

/-- Whether a question is refused for good. -/
def Refusal.IsFinal : Refusal → Prop
  | .status (some code) _ =>
      400 ≤ code ∧ code < 500 ∧ code ≠ conflictCode ∧ code ≠ throttledCode
  | .status none _ | .disconnected _ | .crashed => False

theorem Refusal.not_passes_of_isFinal {refusal : Refusal} (final : refusal.IsFinal) :
    ¬refusal.Passes := by
  rcases refusal with ⟨_ | code, reason⟩ | cause | _
  · exact final.elim
  · simp only [IsFinal] at final
    simp only [Passes]
    tauto
  · exact final.elim
  · exact final.elim

theorem kindOfCode_eq_malformed (code : Int) :
    kindOfCode code = .malformed ↔
      400 ≤ code ∧ code < 500 ∧ code ≠ conflictCode ∧ code ≠ throttledCode := by
  unfold kindOfCode
  by_cases conflict : code = conflictCode
  · simp [conflict]
  · by_cases final : 400 ≤ code ∧ code < 500 ∧ code ≠ throttledCode
    · simp [conflict, final]
    · simp only [conflict, final, if_false]
      tauto

theorem kindOfCode_eq_conflict (code : Int) :
    kindOfCode code = .conflict ↔ code = conflictCode := by
  unfold kindOfCode
  by_cases conflict : code = conflictCode
  · simp [conflict]
  · simp only [conflict, if_false, iff_false]
    split <;> simp

theorem FaultKind.retries_iff (kind : FaultKind) : kind.retries = true ↔ kind ≠ .malformed := by
  cases kind <;> decide

/-- A refusal means one of three things. -/
theorem Failure.ofRefusal_cases (action : Action) (refusal : Refusal) :
    (refusal.IsFinal ∧ ∃ fault, ofRefusal action refusal = .api fault ∧ fault.kind = .malformed) ∨
      (¬refusal.IsFinal ∧ refusal.Passes ∧
        ∃ fault, ofRefusal action refusal = .api fault ∧ fault.kind.retries = true) ∨
      (refusal = .crashed ∧ ofRefusal action refusal = .crashed) := by
  cases refusal with
  | status code reason =>
      cases code with
      | none =>
          exact Or.inr (Or.inl ⟨id, trivial, .status action none reason, rfl, rfl⟩)
      | some code =>
          by_cases final : (Refusal.status (some code) reason).IsFinal
          · exact Or.inl ⟨final, _, rfl, (kindOfCode_eq_malformed code).mpr final⟩
          · refine Or.inr (Or.inl ⟨final, ?_, _, rfl, ?_⟩)
            · simp only [Refusal.IsFinal] at final
              simp only [Refusal.Passes]
              tauto
            · rw [FaultKind.retries_iff]
              exact mt (kindOfCode_eq_malformed code).mp final
  | disconnected cause =>
      exact Or.inr (Or.inl ⟨id, trivial, .disconnected action cause, rfl, rfl⟩)
  | crashed =>
      exact Or.inr (Or.inr ⟨rfl, rfl⟩)

/-- What is to be done about a refusal: it is a conflict, it is final, or it may pass. -/
theorem Failure.ofRefusal_kind (action : Action) {refusal : Refusal}
    (foreseen : refusal ≠ .crashed) :
    ∃ fault, ofRefusal action refusal = .api fault ∧
      (fault.kind = .conflict ↔ refusal.hasCode conflictCode = true) ∧
      (fault.kind = .malformed ↔ refusal.IsFinal) ∧
      (fault.kind = .transient ↔ ¬refusal.hasCode conflictCode = true ∧ ¬refusal.IsFinal) := by
  have third (kind : FaultKind) : kind = .transient ↔ ¬kind = .conflict ∧ ¬kind = .malformed := by
    cases kind <;> decide
  cases refusal with
  | crashed =>
      exact absurd rfl foreseen
  | disconnected cause =>
      refine ⟨.disconnected action cause, rfl, ?_, ?_, ?_⟩ <;>
        simp [ApiFault.kind, Refusal.hasCode, Refusal.IsFinal]
  | status code reason =>
      refine ⟨.status action code reason, rfl, ?_⟩
      have conflict : (ApiFault.status action code reason).kind = .conflict ↔
          (Refusal.status code reason).hasCode conflictCode = true := by
        cases code with
        | none =>
            simp [ApiFault.kind, Refusal.hasCode, kindOfCode_eq_conflict, conflictCode]
        | some code =>
            simp [ApiFault.kind, Refusal.hasCode, kindOfCode_eq_conflict]
      have final : (ApiFault.status action code reason).kind = .malformed ↔
          (Refusal.status code reason).IsFinal := by
        cases code with
        | none =>
            simp [ApiFault.kind, Refusal.IsFinal, kindOfCode_eq_malformed]
        | some code =>
            exact kindOfCode_eq_malformed code
      exact ⟨conflict, final, by rw [third, conflict, final]⟩

end CertApproval.Cluster
