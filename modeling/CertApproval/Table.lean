/-!
Tables: names with values, in the order in which the names came up first. Main statement:
after a name is put, it has its new value, and every other name keeps what it had.
-/

namespace CertApproval.Table

variable {α : Type}

/-- A table in which a name has a value. A new name comes last. -/
def put (name : String) (value : α) : List (String × α) → List (String × α)
  | [] => [(name, value)]
  | (other, held) :: rest =>
    if other = name then (name, value) :: rest else (other, held) :: put name value rest

/-- A table of pairs. Of several values of a name the last counts. -/
def ofPairs (pairs : List (String × α)) : List (String × α) :=
  pairs.foldl (fun table (name, value) => put name value table) []

theorem lookup_put (name other : String) (value : α) (table : List (String × α)) :
    (put name value table).lookup other =
      if other = name then some value else table.lookup other := by
  induction table with
  | nil =>
    by_cases same : other = name
    · simp [put, same]
    · simp [put, List.lookup_cons, same, beq_eq_false_iff_ne.mpr same]
  | cons entry rest lookup_rest =>
    obtain ⟨key, held⟩ := entry
    by_cases found : key = name
    · subst found
      by_cases same : other = key
      · simp [put, same]
      · simp [put, List.lookup_cons, same, beq_eq_false_iff_ne.mpr same]
    · by_cases here : other = key
      · subst here
        simp [put, found]
      · simp [put, List.lookup_cons, found, beq_eq_false_iff_ne.mpr here, lookup_rest]

end CertApproval.Table
