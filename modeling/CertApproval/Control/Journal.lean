/-!
What the program reports of its work, each report with its weight.
-/

namespace CertApproval.Control

/-- The weight of a report, from the least to the greatest. -/
inductive Level where
  | trace
  | debug
  | info
  | success
  | warning
  | error
  | critical
  deriving DecidableEq, Repr

def Level.word : Level → String
  | trace => "TRACE"
  | debug => "DEBUG"
  | info => "INFO"
  | success => "SUCCESS"
  | warning => "WARNING"
  | error => "ERROR"
  | critical => "CRITICAL"

/-- All weights, from the least to the greatest. -/
def Level.all : List Level := [trace, debug, info, success, warning, error, critical]

def Level.ofWord? (word : String) : Option Level :=
  Level.all.find? fun level => level.word = word

/-- Whether reports of a weight are shown where `least` is the least weight that is. -/
def Level.shows (least level : Level) : Bool := least.ctorIdx ≤ level.ctorIdx

structure Notice where
  level : Level
  text : String
  deriving DecidableEq, Repr

end CertApproval.Control
