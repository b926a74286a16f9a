import CertApproval.Json
import CertApproval.Settings.Expansion
import CertApproval.Text.Case

/-!
Sources of settings. Names are compared without regard to case. Of several sources the first
that knows a setting counts, whatever the others say.
-/

namespace CertApproval.Settings

/-- A source of settings. Of several entries of one name the first counts, and an entry
without a value hides those after it. -/
structure Source where
  entries : List (String × Option Json)

namespace Source

def empty : Source := ⟨[]⟩

def find? (source : Source) (name : String) : Option Json := (source.entries.lookup name).join

/-- The texts of an environment. Where names differ in case alone, the last counts. -/
def ofTexts (values : EnvValues) : Source :=
  ⟨(values.map fun (name, value) => (Text.toLower name, value.map Json.string)).reverse⟩

/-- The members of a record. A name in lower case goes before others that differ from it in
case; of these the last counts. -/
def ofMembers (members : List (String × Json)) : Source :=
  ⟨members.map (fun (name, value) => (name, some value)) ++
    (members.map fun (name, value) => (Text.toLower name, some value)).reverse⟩

/-- The value of a setting in the first source that knows it. -/
def select (sources : List Source) (name : String) : Option Json :=
  sources.findSome? fun source => source.find? name

end Source

/-- How a file of settings fails. -/
inductive FileFault where
  /-- No structured value can be read from the text. -/
  | unreadable {cause : Json.Fault}
  /-- The value is no record, and nothing that could be taken for one. -/
  | noRecord
  /-- The value is a list, but not one of pairs. -/
  | noPair
  deriving DecidableEq, Repr

namespace FileFault

/-- Two values from an item of a list: an array of two, a text of two characters, or the two
names of a record. What is made of other values can be no name. -/
def pairOf : Json → Except FileFault (Json × Json)
  | .array [.array _, _] => .error .noRecord
  | .array [.object _, _] => .error .noRecord
  | .array [name, value] => .ok (name, value)
  | .array _ => .error .noPair
  | .string text =>
    match text.toList with
    | [name, value] => .ok (.string (String.singleton name), .string (String.singleton value))
    | _ => .error .noPair
  | .object [(name, _), (value, _)] => .ok (.string name, .string value)
  | .object _ => .error .noPair
  | _ => .error .noRecord

/-- A name and its value from two values, the first of which must be a text. -/
def namedOf : Json × Json → Except FileFault (String × Json)
  | (.string name, value) => .ok (name, value)
  | _ => .error .noRecord

/-- Names and values from the items of a list. -/
def membersOf (items : List Json) : Except FileFault (List (String × Json)) := do
  let pairs ← items.mapM pairOf
  return Table.ofPairs (← pairs.mapM namedOf)

end FileFault

namespace Source

/-- The members of a value that is a record or can be taken for one. -/
def membersOf : Json → Except FileFault (List (String × Json))
  | .object members => .ok members
  | .array items => FileFault.membersOf items
  | .string text => if text.isEmpty then .ok [] else .error .noPair
  | _ => .error .noRecord

/-- The settings of a file. A file that is absent or empty has none. -/
def ofFile (text : Option String) : Except FileFault Source :=
  match text with
  | none => .ok empty
  | some text =>
    if text.isEmpty then .ok empty
    else
      match Json.read text with
      | .error cause => .error (@FileFault.unreadable cause)
      | .ok value => (membersOf value).map ofMembers

end Source

end CertApproval.Settings
