import CertApproval.Service.Launch
import CertApproval.Service.Probe

/-!
The program: it takes its settings from the environment and from files, says that it runs,
and answers probes, one request a line with its method and its path.
-/

namespace CertApproval

open CertApproval.Service (Launch LaunchFault ProbeRequest)
open CertApproval.Settings (Environment Site)

def readFile? (path : String) : IO (Option (String × String)) := do
  try
    let text ← IO.FS.readFile path
    return some (Site.plainPath path, text)
  catch _ => return none

/-- The environment of the process. -/
def readEnvironment : IO Environment := do
  match ← readFile? "/proc/self/environ" with
  | none => return []
  | some (_, text) => return Environment.ofBlock text

/-- What the process finds when it starts. -/
def readSite : IO Site := do
  let environment ← readEnvironment
  let assignments ← readFile? Site.envFileName
  let partly : Site := { environment, files := assignments.toList }
  let record ← readFile? partly.withAssignments.recordPath
  return { partly with files := partly.files ++ record.toList }

/-- Answers requests until there are none. The service has no controller that could run. -/
partial def answerProbes (input output : IO.FS.Stream) : IO Unit := do
  let line ← input.getLine
  if line.isEmpty then return
  match ProbeRequest.ofLine? line with
  | none => output.putStrLn "?"
  | some request =>
    let answer := request.answer false
    output.putStrLn s!"{answer.code} {answer.body.record.print}"
  output.flush
  answerProbes input output

end CertApproval

open CertApproval in
def main : IO UInt32 := do
  match Service.Launch.ofSite (← readSite) with
  | .error fault =>
    IO.eprintln fault.message
    return 1
  | .ok launch =>
    if launch.showsStart then IO.eprintln Service.Launch.startNotice.text
    answerProbes (← IO.getStdin) (← IO.getStdout)
    return 0
