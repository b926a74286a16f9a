import CertApproval.Fields.Lenient

/-!
Records with named fields. All faults of a record are found, in the order of its fields,
and not only the first.
-/

namespace CertApproval.Fields

/-- A fault and the place where it was found. -/
structure Issue where
  place : List String
  fault : FieldFault
  deriving DecidableEq, Repr

/-- The place of a fault as one text. -/
def Issue.location (issue : Issue) : String := ".".intercalate issue.place

/-- What was read, or all that is wrong with it. -/
abbrev Checked (α : Type) := Except (List Issue) α

namespace Checked

/-- Applies what one part gives to what the next part gives; the faults of both count. -/
def andThen {α β : Type} (first : Checked (α → β)) (second : Checked α) : Checked β :=
  match first, second with
  | .ok f, .ok value => .ok (f value)
  | .ok _, .error issues => .error issues
  | .error issues, .ok _ => .error issues
  | .error issues, .error more => .error (issues ++ more)

/-- What was read within a part of a record. -/
def within {α : Type} (place : String) : Checked α → Checked α
  | .ok value => .ok value
  | .error issues => .error (issues.map fun issue => { issue with place := place :: issue.place })

/-- All of a list, each with its place. -/
def list {α : Type} (read : Json → Checked α) : (start : Nat) → List Json → Checked (List α)
  | _, [] => .ok []
  | start, item :: items =>
    andThen ((within (toString start) (read item)).map List.cons) (list read (start + 1) items)

end Checked

def readValue {α : Type} (name : String) (read : Json → Except FieldFault α) (value : Json) :
    Checked α :=
  match read value with
  | .ok value => .ok value
  | .error fault => .error [⟨[name], fault⟩]

/-- A field that must be there. -/
def required {α : Type} (record : Json) (name : String) (read : Json → Except FieldFault α) :
    Checked α :=
  match record.member? name with
  | some value => readValue name read value
  | none => .error [⟨[name], .missing⟩]

/-- A field that has a value of its own where it is absent. -/
def optional {α : Type} (record : Json) (name : String) (absent : α)
    (read : Json → Except FieldFault α) : Checked α :=
  match record.member? name with
  | some value => readValue name read value
  | none => .ok absent

/-- A record where one is wanted. -/
def inRecord {α : Type} (read : Json → Checked α) : Json → Checked α
  | .object members => read (.object members)
  | _ => .error [⟨[], .recordType⟩]

def optionalList {α : Type} (record : Json) (name : String) (read : Json → Checked α) :
    Checked (List α) :=
  match record.member? name with
  | none => .ok []
  | some (.array items) => Checked.within name (Checked.list (inRecord read) 0 items)
  | some _ => .error [⟨[name], .listType⟩]

/-- Reads a value and applies a rule of its own. -/
def ruled {α : Type} (read : Json → Except FieldFault α) (rule : α → Option FieldFault)
    (value : Json) : Except FieldFault α :=
  match read value with
  | .error fault => .error fault
  | .ok value =>
    match rule value with
    | some fault => .error fault
    | none => .ok value

end CertApproval.Fields
