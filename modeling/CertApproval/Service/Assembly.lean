import CertApproval.Control.Controller
import CertApproval.Settings.Configuration

/-!
The controller that a configuration describes. The policy is built first, then the cluster
is reached, and last the waits between attempts are checked.
-/

namespace CertApproval.Service

open CertApproval.Retry (Backoff)
open CertApproval.Review (Policy PolicyFault)
open CertApproval.Settings (Configuration ControlSettings)

/-- What a controller is made of. -/
structure Assembly where
  settings : Control.Settings
  /-- How long an answer for a name may take, in seconds. -/
  dnsTimeout : Floating.Double
  /-- The file that tells how the cluster is reached. -/
  kubeconfig : Option String

/-- How putting a controller together fails. -/
inductive AssemblyFault where
  | policy (fault : PolicyFault)
  | waits (issues : List Fields.Issue)
  deriving DecidableEq, Repr

namespace AssemblyFault

def message : AssemblyFault → String
  | policy (.refused fault) => fault.message
  | policy .patternCount => "the repetition number is too large"
  | policy .patternValue => "the pattern holds a value that cannot be used"
  | waits issues => Review.joinTexts ", " (issues.map (·.location))

/-- Whether the cluster was reached before the fault was found. -/
def reachesCluster : AssemblyFault → Bool
  | policy _ => false
  | waits _ => true

end AssemblyFault

namespace Assembly

/-- The waits between attempts that a configuration asks for. -/
def waits (control : ControlSettings) : Fields.Checked Backoff :=
  Backoff.ofRecord (.object [
    ("max_attempts", .int control.retryAttempts),
    ("initial_delay", .float control.retryInitialDelay),
    ("max_delay", .float control.retryMaxDelay)])

def ofConfiguration (naming : Pattern.Naming) (configuration : Configuration) :
    Except AssemblyFault Assembly := do
  let control := configuration.control
  let policy ← (Policy.build naming configuration.policy).mapError .policy
  let backoff ← (waits control).mapError .waits
  return {
    settings := {
      rules := { policy, backoff, signerName := control.signerName }
      workers := control.workers
      requeueDelay := control.requeueDelay }
    dnsTimeout := control.dnsTimeout
    kubeconfig := control.kubeconfig }

end Assembly

end CertApproval.Service
