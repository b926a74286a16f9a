import CertApproval.Fields.Record

/-!
Records with named fields. Main statement: what is put together from parts is read exactly if
each part is, and otherwise the issues are those of all parts, in their order.
-/

namespace CertApproval.Fields

variable {α β : Type} {name : String} {value : α} {json : Json}
  {read : Json → Except FieldFault α}

namespace Checked

theorem andThen_eq_ok {first : Checked (α → β)} {second : Checked α} {result : β} :
    Checked.andThen first second = .ok result ↔
      ∃ change value, first = .ok change ∧ second = .ok value ∧ change value = result := by
  cases first <;> cases second <;> simp [Checked.andThen]

theorem map_eq_ok {change : α → β} {checked : Checked α} {result : β} :
    checked.map change = .ok result ↔ ∃ value, checked = .ok value ∧ change value = result := by
  cases checked <;> simp [Except.map]

/-- All that is wrong with a part. -/
def issues : Checked α → List Issue
  | .ok _ => []
  | .error issues => issues

@[simp]
theorem issues_map (change : α → β) (checked : Checked α) :
    issues (checked.map change) = issues checked := by
  cases checked <;> rfl

@[simp]
theorem issues_andThen (first : Checked (α → β)) (second : Checked α) :
    issues (andThen first second) = issues first ++ issues second := by
  cases first <;> cases second <;> simp [andThen, issues]

end Checked

theorem readValue_eq_ok : readValue name read json = .ok value ↔ read json = .ok value := by
  rw [readValue]
  cases read json <;> simp

/-- A field that cannot be read has one issue, at its own place. -/
theorem readValue_eq_error {issues : List Issue} :
    readValue name read json = .error issues ↔
      ∃ fault, read json = .error fault ∧ issues = [⟨[name], fault⟩] := by
  rw [readValue]
  cases read json <;> simp [eq_comm]

theorem optional_eq_ok {record : Json} {absent : α}
    (accepted : optional record name absent read = .ok value) :
    value = absent ∨ ∃ json, read json = .ok value := by
  unfold optional at accepted
  split at accepted
  · next json present =>
      exact Or.inr ⟨json, readValue_eq_ok.mp accepted⟩
  · exact Or.inl (Except.ok.inj accepted).symm

/-- A value is read under a rule if it is read and the rule has nothing against it. -/
theorem ruled_eq_ok {rule : α → Option FieldFault} :
    ruled read rule json = .ok value ↔ read json = .ok value ∧ rule value = none := by
  rw [ruled]
  cases read json with
  | error fault =>
      simp
  | ok found =>
      simp only [Except.ok.injEq]
      cases isRuled : rule found with
      | some fault =>
          simp only [reduceCtorEq, false_iff]
          rintro ⟨rfl, accepted⟩
          cases isRuled.symm.trans accepted
      | none =>
          simp only [Except.ok.injEq]
          exact ⟨fun same => ⟨same, same ▸ isRuled⟩, fun both => both.1⟩

theorem ruled_eq_error {rule : α → Option FieldFault} {fault : FieldFault} :
    ruled read rule json = .error fault ↔
      read json = .error fault ∨ ∃ value, read json = .ok value ∧ rule value = some fault := by
  rw [ruled]
  cases read json with
  | error _ =>
      simp
  | ok found =>
      simp only [reduceCtorEq, false_or, Except.ok.injEq, exists_eq_left']
      cases rule found <;> simp

end CertApproval.Fields
