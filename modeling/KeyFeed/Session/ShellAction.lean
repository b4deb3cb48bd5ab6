import KeyFeed.Host.Machine
import KeyFeed.Host.Shell.Run

/-! Actions as command lines for a shell. The command runs to its end before anything else happens, and only an end with
    status zero is a good one. -/

namespace KeyFeed.Session
open Host

/-- The shell that runs actions if no other is named. -/
def defaultShell : String := "sh"

def runShellAction (shell label command : String) (m : Machine) : Except ActionError Unit × Machine :=
  let (result, files) := Shell.runCommandLine shell command m.files
  let m := { m with files := files }
  match result with
  | .error cause => (.error (.spawn label command cause), m)
  | .ok (.exited 0) => (.ok (), m)
  | .ok ending => (.error (.failed label command ending.text), m)

end KeyFeed.Session
