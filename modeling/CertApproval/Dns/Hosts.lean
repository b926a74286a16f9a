import CertApproval.Dns.Wait

/-!
Looking up names with the help of the system. A few lookups run at the same time; one
that never answers keeps its place, and while all places are taken no other begins.
-/

namespace CertApproval.Dns

open CertApproval.Net (Address)

/-- What the system says of a name. -/
inductive HostAnswer where
  | addresses (texts : List String)
  | refused (cause : String)
  /-- The lookup itself reports that its time is up, which counts as no answer yet. -/
  | unready
  | crash
  /-- No answer, ever. -/
  | silent
  deriving DecidableEq, Repr

/-- A name that the system knows of. The lookup may signal a stop before it answers. -/
structure Host where
  signalsStop : Bool := false
  answer : HostAnswer
  deriving DecidableEq, Repr

/-- All names that the system knows of, and how long to wait for one. -/
structure Hosts where
  entries : List (String × Host)
  timeout : Floating.Double

/-- The state in which lookups run: whether a stop is signalled, and how many lookups never
answered. -/
structure Lookups where
  stopped : Bool := false
  stuck : Nat := 0
  deriving DecidableEq, Repr

namespace HostAnswer

/-- The text of an error with arguments: a number and a text, a text alone, or nothing. -/
def errorText : List String → String
  | [] => ""
  | [text] => text
  | number :: text :: _ => s!"[Errno {number}] {text}"

/-- The number of the error that says that the time is up. -/
def timeoutNumber : String := "110"

/-- What an error of the system amounts to. -/
def ofError (arguments : List String) : HostAnswer :=
  if 2 ≤ arguments.length ∧ arguments.head? = some timeoutNumber then .unready
  else .refused (errorText arguments)

/-- The addresses of texts, what follows a percent sign being dropped. -/
def readAddresses (texts : List String) : Poll :=
  let texts := texts.map fun text => String.ofList (text.toList.takeWhile (· ≠ '%'))
  match texts.find? fun text => (Address.read? text).isNone with
  | some text => .failed (Address.invalidMessage text)
  | none => .answered (Net.addressSet (texts.filterMap Address.read?))

/-- What a lookup shows that has had time to run. -/
def poll : HostAnswer → Poll
  | addresses texts => readAddresses texts
  | refused cause => .failed cause
  | unready => .pending
  | crash => .crashed
  | silent => .pending

end HostAnswer

namespace Hosts

/-- The number of lookups that run at the same time. -/
def places : Nat := 4

/-- What the system says of a name that it does not know. -/
def unknown : Host where
  answer := .refused (HostAnswer.errorText ["-2", "Name or service not known"])

/-- Looks up a name. At shutdown nothing is begun; a lookup that never answers keeps its place
for good; and a wait without an end can only end by a stop. -/
def resolver (hosts : Hosts) : Resolver Lookups := fun name => do
  let lookups ← get
  if lookups.stopped then return .aborted name
  let host := (hosts.entries.lookup name).getD unknown
  let begins : Bool := lookups.stuck < places
  let stopped := begins && host.signalsStop
  let poll : Poll := if begins then host.answer.poll else .pending
  set (Lookups.mk stopped
    (if begins ∧ host.answer = .silent then lookups.stuck + 1 else lookups.stuck))
  match secondsOf? hosts.timeout with
  | some seconds => return wait name hosts.timeout (fun _ => poll) (fun _ => stopped) 0 seconds
  | none =>
    match poll with
    | .answered addresses => return .found addresses
    | .failed cause => return .failed (.failed name cause)
    | .crashed => return .crashed
    | .pending => return .aborted name

end Hosts

end CertApproval.Dns
