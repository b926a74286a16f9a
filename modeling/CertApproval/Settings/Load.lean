import CertApproval.Settings.Configuration

/-!
Loading the configuration of a process: arguments go before the environment, the
environment before a file of assignments, and that file before a file with a record.
-/

namespace CertApproval.Settings

/-- What a process finds when it starts: its environment, and files by their names. -/
structure Site where
  environment : Environment := []
  files : List (String × String) := []

/-- How loading the configuration fails. -/
inductive LoadFault where
  | file (fault : FileFault)
  | fields (issues : List Fields.Issue)
  deriving DecidableEq, Repr

namespace Site

/-- The name of the file of assignments. -/
def envFileName : String := ".env"

/-- The name of the file with a record, unless the environment gives another. -/
def recordFileName : String := "config.json"

/-- What gives another name for the file with a record. -/
def recordFileVariable : String := "CONFIG_FILE"

/-- A path without the parts that lead nowhere. -/
def plainPath (path : String) : String :=
  let parts := (Text.splitAtChar '/' path.toList).map String.ofList
  let lead := if path.startsWith "/" then "/" else ""
  lead ++ "/".intercalate (parts.filter fun part => part ≠ "" && part ≠ ".")

def file? (site : Site) (path : String) : Option String := site.files.lookup (plainPath path)

/-- The path of the file with a record. -/
def recordPath (site : Site) : String :=
  match site.environment.lookup recordFileVariable with
  | none => recordFileName
  | some path => if path.isEmpty then recordFileName else path

def assignments (site : Site) : List EnvEntry :=
  match site.file? envFileName with
  | none => []
  | some text => EnvFile.read text

/-- The sources of the settings, in the order in which they count. -/
def sources (site : Site) (arguments : List (String × Json)) : Except FileFault (List Source) := do
  let record ← Source.ofFile (site.file? site.recordPath)
  return [
    .ofMembers arguments,
    .ofTexts (site.environment.map fun (name, value) => (name, some value)),
    .ofTexts (Expansion.resolve .file site.environment site.assignments),
    record]

def load (site : Site) (arguments : List (String × Json)) : Except LoadFault Configuration :=
  match site.sources arguments with
  | .error fault => .error (.file fault)
  | .ok sources =>
    match Configuration.ofSources sources with
    | .error issues => .error (.fields issues)
    | .ok configuration => .ok configuration

/-- A site whose environment also holds the assignments of the file. -/
def withAssignments (site : Site) : Site :=
  { site with environment := Expansion.extend site.environment site.assignments }

/-- A site whose environment holds more values. -/
def withVariables (site : Site) (values : Environment) : Site :=
  let put (known : Environment) (entry : String × String) := Table.put entry.1 entry.2 known
  { site with environment := values.foldl put site.environment }

/-- Loads the configuration once: what was loaded before is kept, a failure is not. -/
def loadOnce (site : Site) (loaded : Option Configuration) :
    Except LoadFault Configuration × Option Configuration :=
  match loaded with
  | some configuration => (.ok configuration, some configuration)
  | none =>
    match site.load [] with
    | .ok configuration => (.ok configuration, some configuration)
    | .error fault => (.error fault, none)

end Site

end CertApproval.Settings
