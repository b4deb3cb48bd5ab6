import KeyFeed.Program
import KeyFeed.Supervisor.Operation

/-! The program: it looks at its arguments, reads the settings that they name, and says or serves what is asked for. It
    serves the adapter and the feed that live inside the program, and takes the end of its input for an interrupt. -/

namespace KeyFeed
open Host Session Supervisor

/-- Why a file of settings could not be read. -/
def refusalOf : IO.Error → OsError
  | .noFileOrDirectory _ _ _ => .noEntry
  | .permissionDenied _ _ _ => .permissionDenied
  | .inappropriateType _ _ _ => .isADirectory
  | _ => .invalidText

def readText (path : String) : IO (Except OsError String) := do
  try
    return .ok (← IO.FS.readFile path)
  catch e =>
    return .error (refusalOf e)

/-- The name that the system gives to the machine, if it can be read. -/
def readHostname : IO (Option String) := do
  match ← readText "/proc/sys/kernel/hostname" with
  | .ok name => return some (String.ofList (name.toList.takeWhile (· != '\n')))
  | .error _ => return none

/-- Waits until nothing more is to come. -/
partial def awaitEnd (input : IO.FS.Stream) : IO Unit := do
  if (← input.getLine).isEmpty then return
  awaitEnd input

/-- Serves until it is asked to end; the answer is the exit code. -/
def serve (options : Options) : IO UInt32 := do
  let operation := (Operation.prepare (Operation.shell defaultShell) options
    (Machine.withFiles Files.scratch)).installSignals.settle
  if operation.state.isFinished then
    IO.eprintln sessionComplaint
    return 1
  awaitEnd (← IO.getStdin)
  return if (operation.raise .interrupt).state.stage = .finished none then 0 else 1

/-- Does what the arguments ask for; the answer is the exit code. -/
def launch (args : List String) : IO UInt32 := do
  let hostname ← readHostname
  let content ← match Flags.parse args with
    | .ok flags => readText flags.configPath
    | .error _ => pure (.error .noEntry)
  match Launch.ofArguments hostname (fun _ => content) args with
  | .print text =>
    IO.print text
    return 0
  | .refuse cause =>
    IO.eprintln (complaint "the arguments are not understood")
    return UInt32.ofNat cause.exitCode
  | .fail text =>
    IO.eprintln text
    return 1
  | .serve _ warnings options =>
    warnings.forM IO.eprintln
    serve options

end KeyFeed

def main (args : List String) : IO UInt32 := KeyFeed.launch args
