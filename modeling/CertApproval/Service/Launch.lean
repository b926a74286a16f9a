import CertApproval.Control.Journal
import CertApproval.Settings.Load

/-!
Launching the process: its configuration is loaded, the reports are set to their level, and
the server for the probes is told where to listen.
-/

namespace CertApproval.Service

open CertApproval.Control (Level Notice)
open CertApproval.Settings (FileFault LoadFault Site)

/-- How the process is launched. -/
structure Launch where
  /-- The least weight of the reports that are shown. -/
  level : Level
  /-- Where the probes are answered. -/
  probeHost : String
  probePort : Int
  deriving DecidableEq, Repr

/-- How launching the process fails. -/
inductive LaunchFault where
  | load (fault : LoadFault)
  | level (word : String)
  deriving DecidableEq, Repr

namespace LaunchFault

def message : LaunchFault → String
  | load (.file (@FileFault.unreadable .malformed)) =>
    "the file with a record holds no structured value"
  | load (.file (@FileFault.unreadable .overlong)) =>
    "the file with a record holds a number with too many digits"
  | load (.file .noRecord) => "the file with a record holds no record"
  | load (.file .noPair) => "the file with a record holds no pairs"
  | load (.fields issues) =>
    "\n".intercalate (issues.map fun issue => issue.location ++ ": " ++ issue.fault.word)
  | level word => s!"unknown level {Text.quoted word}"

end LaunchFault

namespace Launch

def startNotice : Notice := ⟨.info, "Kubelet CSR Approver, start running!"⟩

/-- Whether the start is shown. -/
def showsStart (launch : Launch) : Bool := launch.level.shows startNotice.level

/-- The word by which the server for the probes knows a level. -/
def serverWord : Level → String
  | .trace => "trace"
  | .debug => "debug"
  | .info => "info"
  | .success => "info"
  | .warning => "warning"
  | .error => "error"
  | .critical => "critical"

/-- Launches a process. The file of assignments counts as part of the environment. -/
def ofSite (site : Site) : Except LaunchFault Launch :=
  match site.withAssignments.load [] with
  | .error fault => .error (.load fault)
  | .ok configuration =>
    let settings := configuration.process
    match Level.ofWord? settings.logLevel with
    | none => .error (.level settings.logLevel)
    | some level => .ok { level, probeHost := settings.probeHost, probePort := settings.probePort }

end Launch

end CertApproval.Service
