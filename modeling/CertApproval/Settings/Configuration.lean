import CertApproval.Fields.Record
import CertApproval.Retry.Backoff
import CertApproval.Review.Policy
import CertApproval.Settings.Source

/-!
The configuration: what is approved, how the controller works, and how the process runs. It
is read from the values that the sources give for its fields; all bad values are reported,
in the order of the fields.
-/

namespace CertApproval.Settings

open CertApproval.Fields
open CertApproval.Retry (Backoff)
open CertApproval.Review (Policy PolicySettings)

/-- How the controller works. -/
structure ControlSettings where
  signerName : String
  kubeconfig : Option String
  dnsTimeout : Floating.Double
  workers : Int
  retryAttempts : Int
  retryInitialDelay : Floating.Double
  retryMaxDelay : Floating.Double
  requeueDelay : Floating.Double
  shutdownGrace : Floating.Double
  deriving DecidableEq, Repr

/-- How the process runs. -/
structure ProcessSettings where
  logLevel : String
  probeHost : String
  probePort : Int
  deriving DecidableEq, Repr

structure Configuration where
  policy : PolicySettings
  control : ControlSettings
  process : ProcessSettings
  deriving DecidableEq, Repr

/-- The signer whose requests are looked at where no other is given. -/
def servingSigner : String := "kubernetes.io/kubelet-serving"

/-- A rule that refuses some values of a field. -/
def accepting {α : Type} (rule : α → Bool) (value : α) : Option FieldFault :=
  if rule value then none else some .refused

/-- A whole number that a rule accepts. -/
def readRuledInt (rule : Int → Bool) : Json → Except FieldFault Int :=
  ruled readInt (accepting rule)

/-- Whether there is at least one. -/
def isPositive (count : Int) : Bool := 1 ≤ count

/-- The name of a level, in upper case and without blanks around it. -/
def readLevel : Json → Except FieldFault String
  | .string text => .ok (Text.toUpper (Text.trim text))
  | value => readText value

/-- A field with a value of its own where none is selected. -/
def readSelected {α : Type} (select : String → Option Json) (name : String) (absent : α)
    (read : Json → Except FieldFault α) : Checked α :=
  match select name with
  | none => .ok absent
  | some value => Fields.readValue name read value

def readPolicy (select : String → Option Json) : Checked PolicySettings :=
  (readSelected select "provider_regex" ".*" readText).map PolicySettings.mk
    |> (Checked.andThen · (readSelected select "provider_ip_prefixes" "0.0.0.0/0,::/0" readText))
    |> (Checked.andThen · (readSelected select "max_expiration_sec" Policy.expirationLimit
        (readRuledInt Policy.expirationFits)))
    |> (Checked.andThen · (readSelected select "allowed_dns_names" 1
        (readRuledInt Policy.nameCountFits)))
    |> (Checked.andThen · (readSelected select "bypass_dns_resolution" false readBool))
    |> (Checked.andThen · (readSelected select "bypass_hostname_check" false readBool))
    |> (Checked.andThen · (readSelected select "ignore_non_system_node" false readBool))

def readControl (select : String → Option Json) : Checked ControlSettings :=
  (readSelected select "signer_name" servingSigner readText).map ControlSettings.mk
    |> (Checked.andThen · (readSelected select "kubeconfig" none readOptionalText))
    |> (Checked.andThen · (readSelected select "dns_timeout_seconds" 1 readFloat))
    |> (Checked.andThen · (readSelected select "workers" 2 (readRuledInt isPositive)))
    |> (Checked.andThen · (readSelected select "retry_attempts" 5 (readRuledInt isPositive)))
    |> (Checked.andThen · (readSelected select "retry_initial_delay" Backoff.defaultInitialDelay
        readFloat))
    |> (Checked.andThen · (readSelected select "retry_max_delay" 2 readFloat))
    |> (Checked.andThen · (readSelected select "requeue_delay_seconds" 5 readFloat))
    |> (Checked.andThen · (readSelected select "shutdown_grace_seconds" 10 readFloat))

def readProcess (select : String → Option Json) : Checked ProcessSettings :=
  (readSelected select "log_level" "INFO" readLevel).map ProcessSettings.mk
    |> (Checked.andThen · (readSelected select "probe_host" "0.0.0.0" readText))
    |> (Checked.andThen · (readSelected select "probe_port" 8081 readInt))

namespace Configuration

/-- Reads the configuration from the values that are selected for its fields. -/
def read (select : String → Option Json) : Checked Configuration :=
  (readPolicy select).map Configuration.mk
    |> (Checked.andThen · (readControl select))
    |> (Checked.andThen · (readProcess select))

/-- Reads the configuration from sources, the first of which goes before the others. -/
def ofSources (sources : List Source) : Checked Configuration := read (Source.select sources)

end Configuration

end CertApproval.Settings
