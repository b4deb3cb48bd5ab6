import KeyFeed.Host.OsError
import KeyFeed.Text.Quoted

/-! The commands of the user that run when the device changes its state, and how they can fail. -/

namespace KeyFeed.Session
open Text Host

/-- The changes of state that can have a command. -/
inductive Transition where
  | standby | activate | deactivate
  deriving DecidableEq, Repr

def Transition.label : Transition → String
  | standby => "standby"
  | activate => "activate"
  | deactivate => "deactivate"

/-- The command of each transition, where one is set. -/
structure Hooks where
  onStandby : Option String
  onActivate : Option String
  onDeactivate : Option String
  deriving DecidableEq, Repr

namespace Hooks

def unset : Hooks := ⟨none, none, none⟩

def get? (h : Hooks) : Transition → Option String
  | .standby => h.onStandby
  | .activate => h.onActivate
  | .deactivate => h.onDeactivate

end Hooks

/-- How the run of a command went wrong. -/
inductive ActionError where
  /-- It never started. -/
  | spawn (label command : String) (cause : OsError)
  /-- It ran and did not end well. -/
  | failed (label command status : String)
  deriving DecidableEq, Repr

def ActionError.message : ActionError → String
  | .spawn label command cause =>
    "failed to start " ++ label ++ " action " ++ quoted command ++ ": " ++ cause.message
  | .failed label command status => label ++ " action " ++ quoted command ++ " exited with " ++ status

end KeyFeed.Session
