import CertApproval.Floating.Shortest
import CertApproval.Net.Address
import CertApproval.Text.Case

/-!
Looking up the addresses of a name: how a lookup ends, and a table of records that is
asked without regard to case. A lookup may change the state that it runs in.
-/

namespace CertApproval.Dns

open CertApproval.Net (Address)

/-- Why a name has no addresses. -/
inductive ResolutionFault where
  | unknownName (name : String)
  | failed (name cause : String)
  | timedOut (name : String) (timeout : Floating.Double)
  deriving DecidableEq, Repr

namespace ResolutionFault

def message : ResolutionFault → String
  | unknownName name => s!"解析 {name} 失败: 名称不存在"
  | failed name cause => s!"解析 {name} 失败: {cause}"
  | timedOut name timeout => s!"解析 {name} 超时（{Floating.text timeout}s）"

end ResolutionFault

/-- What is said of a lookup that was given up at shutdown. -/
def abortedMessage (name : String) : String := s!"解析 {name} 被中止：进程正在关闭"

/-- How a lookup ends. -/
inductive Lookup where
  | found (addresses : List Address)
  | failed (fault : ResolutionFault)
  /-- The process is shutting down; this says nothing about the name. -/
  | aborted (name : String)
  /-- A failure that nobody has prepared for. -/
  | crashed
  deriving DecidableEq, Repr

/-- Something that looks up names and keeps a state. -/
abbrev Resolver (σ : Type) := String → StateM σ Lookup

/-- The addresses of names that are in lower case. -/
structure Records where
  entries : List (String × List Address)

namespace Records

/-- One record: a name and the texts of its addresses. -/
def readEntry? (record : String × List String) : Option (String × List Address) :=
  (record.2.mapM Address.read?).map fun addresses =>
    (Text.toLower record.1, Net.addressSet addresses)

/-- The sets of addresses of names. Nothing results where a text is no address. Where two
names differ in case alone the later one counts. -/
def ofTexts? (records : List (String × List String)) : Option Records :=
  (records.mapM readEntry?).map fun entries => ⟨entries.reverse⟩

/-- What a name leads to. -/
def find (records : Records) (name : String) : Lookup :=
  match records.entries.lookup (Text.toLower name) with
  | some addresses => .found addresses
  | none => .failed (.unknownName name)

/-- Looks up names in the records and keeps the names that were asked, in order. -/
def resolver (records : Records) : Resolver (List String) := fun name => do
  modify (· ++ [name])
  return records.find name

end Records

end CertApproval.Dns
