import CertApproval.Control.Journal

/-!
How the program learns where the cluster is: from a file that is named, or else from the
cluster in which it runs, or else from the file that everybody uses.
-/

namespace CertApproval.Service

open CertApproval.Control (Notice)

/-- A way to learn where the cluster is. A file without a path is the one in general use. -/
inductive AccessWay where
  | inside
  | file (path : Option String)
  deriving DecidableEq, Repr

/-- What came of looking for the cluster. -/
structure AccessSearch where
  /-- The ways that were tried, in their order. -/
  tried : List AccessWay
  notices : List Notice := []
  /-- Whether the last way led to the cluster. -/
  reached : Bool
  deriving DecidableEq, Repr

namespace AccessSearch

/-- What is reported when the program does not run inside a cluster. -/
def outsideText : String := "未检测到集群内配置，回退到默认 kubeconfig"

/-- Looks for the cluster by one way alone. -/
def only (works : AccessWay → Bool) (way : AccessWay) : AccessSearch :=
  { tried := [way], reached := works way }

/-- Looks for the cluster where no file is named. -/
def unnamed (works : AccessWay → Bool) : AccessSearch :=
  if works .inside then only works .inside
  else
    { tried := [.inside, .file none]
      notices := [⟨.debug, outsideText⟩]
      reached := works (.file none) }

/-- Looks for the cluster. A name that is empty names no file. -/
def run (works : AccessWay → Bool) : Option String → AccessSearch
  | none => unnamed works
  | some path => if path.isEmpty then unnamed works else only works (.file path)

end AccessSearch

end CertApproval.Service
