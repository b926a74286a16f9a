import CertApproval.Control.Dispatcher
import CertApproval.Json

/-!
What the program answers when it is probed: whether it lives, whether it is ready, and what
it has counted.
-/

namespace CertApproval.Service

/-- A request of a probe. -/
structure ProbeRequest where
  method : String
  path : String
  deriving DecidableEq, Repr

/-- What a probe can ask for. -/
inductive Endpoint where
  | health
  | readiness
  | metrics
  deriving DecidableEq, Repr

/-- The content of an answer. -/
inductive ProbeBody where
  /-- The answer to a method that asks for no content. -/
  | nothing
  | status (word : String)
  | detail (text : String)
  | counters (names : List String)
  deriving DecidableEq, Repr

/-- An answer to a probe. -/
structure ProbeAnswer where
  code : Nat
  body : ProbeBody
  deriving DecidableEq, Repr

namespace Endpoint

/-- Where the counters are. -/
def metricsPath : String := "/metrics"

/-- A path without slashes at its end. -/
def withoutSlash (path : String) : List Char := Text.trimEnd (· = '/') path.toList

/-- Whether a path leads to the counters or below them. -/
def isMetrics (path : String) : Bool :=
  path = metricsPath || (metricsPath ++ "/").toList.isPrefixOf path.toList

/-- The endpoint of a path. Slashes at the end make no difference. -/
def ofPath? (path : String) : Option Endpoint :=
  if isMetrics path then some .metrics
  else
    let plain := String.ofList (withoutSlash path)
    if plain = "/healthz" then some .health
    else if plain = "/readyz" then some .readiness
    else none

/-- Whether an endpoint can be asked by a method. -/
def admits (endpoint : Endpoint) (method : String) : Bool :=
  endpoint = .metrics || method = "GET"

/-- The answer of an endpoint. -/
def answer (ready : Bool) : Endpoint → ProbeAnswer
  | health => ⟨200, .status "ok"⟩
  | readiness => if ready then ⟨200, .status "ready"⟩ else ⟨503, .status "not ready"⟩
  | metrics => ⟨200, .counters Control.Counters.names⟩

end Endpoint

namespace ProbeAnswer

def absent : ProbeAnswer := ⟨404, .detail "Not Found"⟩

/-- The answer to a method that an endpoint does not admit. -/
def refused : ProbeAnswer := ⟨405, .detail "Method Not Allowed"⟩

def withoutBody (answer : ProbeAnswer) : ProbeAnswer := { answer with body := .nothing }

end ProbeAnswer

namespace ProbeRequest

/-- A request that is written as its method and its path with blanks between them. -/
def ofLine? (line : String) : Option ProbeRequest :=
  let words := (Text.splitAtChar ' ' (Text.trim line).toList).filter (!·.isEmpty)
  match words with
  | [method, path] => some ⟨String.ofList method, String.ofList path⟩
  | _ => none

/-- The path without what may follow a question mark. -/
def plainPath (request : ProbeRequest) : String :=
  String.ofList (request.path.toList.takeWhile (· ≠ '?'))

/-- The answer to a request, with its content. -/
def fullAnswer (ready : Bool) (request : ProbeRequest) : ProbeAnswer :=
  match Endpoint.ofPath? request.plainPath with
  | none => .absent
  | some endpoint =>
    if endpoint.admits request.method then endpoint.answer ready else .refused

/-- The answer to a request. A method that asks for the head alone gets no content. -/
def answer (ready : Bool) (request : ProbeRequest) : ProbeAnswer :=
  let full := request.fullAnswer ready
  if request.method = "HEAD" then full.withoutBody else full

end ProbeRequest

namespace ProbeBody

/-- The content as a structured value. -/
def record : ProbeBody → Json
  | nothing => .null
  | status word => .object [("status", .string word)]
  | detail text => .object [("detail", .string text)]
  | counters names => .array (names.map .string)

end ProbeBody

end CertApproval.Service
