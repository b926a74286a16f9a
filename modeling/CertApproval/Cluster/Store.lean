import CertApproval.Cluster.Fault
import CertApproval.Cluster.Object
import CertApproval.Fields.Lenient
import CertApproval.Table

/-!
Objects by name, each at a version. A write is accepted only at the version that is stored,
and every accepted change moves the version on.
-/

namespace CertApproval.Cluster

/-- Objects by name, in the order in which the names came up. -/
structure Store where
  entries : List (String × Object)
  deriving Repr

namespace Store

def empty : Store := ⟨[]⟩

def get? (store : Store) (name : String) : Option Object := store.entries.lookup name

def put (store : Store) (name : String) (object : Object) : Store :=
  ⟨Table.put name object store.entries⟩

def erase (store : Store) (name : String) : Store :=
  ⟨store.entries.filter fun entry => entry.1 ≠ name⟩

/-- The version after a version. Versions are numbers, and a missing one comes before the
first. -/
def nextVersion (version : Option String) : String :=
  toString ((version.bind Fields.readIntText?).getD 0 + 1)

/-- The answer about an object that is not there. -/
def missing : Refusal := .status (some missingCode) (some "Not Found")

/-- The answer to a write at a version that is not the stored one. -/
def outdated : Refusal := .status (some conflictCode) (some "Conflict")

/-- Replaces an object by a body that carries its version. -/
def replace (store : Store) (name : String) (body : Object) : Except Refusal Store :=
  match store.get? name with
  | none => .error missing
  | some object =>
    if body.version = object.version then
      .ok (store.put name (body.atVersion (nextVersion object.version)))
    else .error outdated

/-- Adds a condition to an object, as someone else may do at any time. -/
def addCondition (store : Store) (name : String) (condition : StoredCondition) : Store :=
  match store.get? name with
  | none => store
  | some object =>
    store.put name ((object.addCondition condition).atVersion (nextVersion object.version))

/-- A name that was put has its object, and every other name keeps what it had. -/
@[simp]
theorem get?_put (store : Store) (name other : String) (object : Object) :
    (store.put name object).get? other =
      if other = name then some object else store.get? other :=
  Table.lookup_put name other object store.entries

/-- A name that was erased has no object, and every other name keeps what it had. -/
@[simp]
theorem get?_erase (store : Store) (name other : String) :
    (store.erase name).get? other = if other = name then none else store.get? other := by
  obtain ⟨entries⟩ := store
  simp only [get?, erase]
  induction entries with
  | nil =>
    simp
  | cons entry rest lookup_rest =>
    obtain ⟨key, held⟩ := entry
    by_cases erased : key = name
    · subst erased
      by_cases same : other = key
      · simpa [same] using lookup_rest
      · simpa [List.lookup_cons, same, beq_eq_false_iff_ne.mpr same] using lookup_rest
    · by_cases here : other = key
      · subst here
        simp [erased]
      · simpa [erased, List.lookup_cons, beq_eq_false_iff_ne.mpr here] using lookup_rest

theorem get?_of_get?_erase {store : Store} {name other : String} {object : Object}
    (found : (store.erase name).get? other = some object) : store.get? other = some object := by
  rw [get?_erase] at found
  by_cases erased : other = name
  · rw [if_pos erased] at found
    cases found
  · rw [if_neg erased] at found
    exact found

end Store

end CertApproval.Cluster
