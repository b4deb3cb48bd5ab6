import KeyFeed.Adapter.Loopback
import KeyFeed.Flags.Reader
import KeyFeed.Settings.LogFilter
import KeyFeed.Settings.Reader

/-! What a command line asks the program to do. Flags are looked at before the settings, and the settings are read even
    when only a list of adapters is asked for. -/

namespace KeyFeed
open Host Adapter

def programName : String := "cec-lircd"

def programVersion : String := "0.1.0"

def versionText : String := programName ++ " " ++ programVersion ++ "\n"

def usageText : String := "HDMI-CEC to LIRC bridge\n\nUsage: " ++ programName ++ " [OPTIONS]\n"

inductive Launch where
  /-- Says something and ends well. -/
  | print (text : String)
  /-- Does not take the flags. -/
  | refuse (cause : FlagError)
  /-- Cannot begin. -/
  | fail (complaint : String)
  /-- Warns, and runs sessions until it is asked to end, in front of the user or detached. -/
  | serve (foreground : Bool) (warnings : List String) (options : Options)
  deriving DecidableEq, Repr

/-- How it begins what it says when something stands in the way. -/
def complaint (what : String) : String := "Error: " ++ what

/-- What is said when a session cannot begin. -/
def sessionComplaint : String := complaint "daemon failed"

/-- The first line of what is said. -/
def firstLine (texts : List String) : String :=
  String.ofList ((texts.headD "").toList.takeWhile (· ≠ '\n'))

/-- The launch that the arguments ask for, on a machine of the given name whose files are read by `read`. -/
def Launch.ofArguments (hostname : Option String) (read : String → Except OsError String) (args : List String) :
    Launch :=
  match Flags.parse args with
  | .error .displayHelp => .print usageText
  | .error .displayVersion => .print versionText
  | .error e => .refuse e
  | .ok flags => match Settings.load flags.configPath (read flags.configPath) with
    | .error _ => .fail (complaint ("cannot load config " ++ flags.configPath))
    | .ok settings =>
      if flags.list then .print (listing (Loopback.fresh : Loopback Unit).devices)
      else
        let settings := flags.applyTo settings
        .serve flags.foreground (LogFilter.complaints settings.daemon.logLevel) (Options.ofSettings hostname settings)

end KeyFeed
