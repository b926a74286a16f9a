import CertApproval.Settings.EnvFile
import CertApproval.Text.Ranges

/-!
Values that refer to others. A reference is a name in braces after a dollar sign, with
perhaps a text that stands in for a name that is not known.
-/

namespace CertApproval.Settings

/-- The environment: names with values. -/
abbrev Environment := List (String × String)

/-- An environment from a block in which every assignment ends with the null character. -/
def Environment.ofBlock (block : String) : Environment :=
  (Text.splitAtChar '\x00' block.toList).filterMap fun assignment =>
    let name := assignment.takeWhile (· ≠ '=')
    match assignment.drop name.length with
    | [] => none
    | _ :: value => some (String.ofList name, String.ofList value)

/-- Values of names; a name may be known to have none. -/
abbrev EnvValues := List (String × Option String)

namespace Expansion

/-- A reference: a name and what stands in for it. -/
structure Reference where
  name : List Char
  standIn : List Char := []

/-- A reference after its dollar sign and brace, and what follows it. -/
def readReference (text : List Char) : Option (Reference × List Char) :=
  let name := text.takeWhile fun c => c ≠ '\x7d' && c ≠ ':'
  match text.drop name.length with
  | ':' :: '-' :: rest =>
    let standIn := rest.takeWhile (· ≠ '\x7d')
    match rest.drop standIn.length with
    | _ :: after => some (⟨name, standIn⟩, after)
    | [] => none
  | '\x7d' :: after => some (⟨name, []⟩, after)
  | _ => none

/-- Replaces the references of a text, of which there are at most `fuel`. -/
def expandFrom (meaning : Reference → List Char) : (fuel : Nat) → List Char → List Char
  | 0, text => text
  | _ + 1, [] => []
  | fuel + 1, c :: rest =>
    match c, rest with
    | '$', '\x7b' :: inside =>
      match readReference inside with
      | some (reference, after) => meaning reference ++ expandFrom meaning fuel after
      | none => c :: expandFrom meaning fuel rest
    | _, _ => c :: expandFrom meaning fuel rest

/-- Which values count where a name is known from a file and from the environment. -/
inductive Priority where
  | file
  | environment
  deriving DecidableEq, Repr

/-- What is known of a name. -/
def known (priority : Priority) (environment : Environment) (values : EnvValues)
    (name : String) : Option (Option String) :=
  let fromFile := values.lookup name
  let fromEnvironment := (environment.lookup name).map some
  match priority with
  | .file => fromFile.orElse fun _ => fromEnvironment
  | .environment => fromEnvironment.orElse fun _ => fromFile

/-- What a reference stands for. A name that is known to have no value stands for nothing. -/
def meaning (priority : Priority) (environment : Environment) (values : EnvValues)
    (reference : Reference) : List Char :=
  match known priority environment values (String.ofList reference.name) with
  | some (some value) => value.toList
  | some none => []
  | none => reference.standIn

def expand (priority : Priority) (environment : Environment) (values : EnvValues)
    (value : String) : String :=
  String.ofList
    (expandFrom (meaning priority environment values) value.toList.length value.toList)

/-- The values of a file. An assignment may refer to those before it. -/
def resolve (priority : Priority) (environment : Environment) (entries : List EnvEntry) :
    EnvValues :=
  entries.foldl
    (fun values entry =>
      Table.put entry.name (entry.value.map (expand priority environment values)) values)
    []

/-- The environment together with the values of a file, for the names that it does not know
already. -/
def extend (environment : Environment) (entries : List EnvEntry) : Environment :=
  (resolve .environment environment entries).foldl
    (fun extended (name, value) =>
      match value with
      | none => extended
      | some value =>
        if (extended.lookup name).isSome then extended else extended ++ [(name, value)])
    environment

end Expansion

end CertApproval.Settings
