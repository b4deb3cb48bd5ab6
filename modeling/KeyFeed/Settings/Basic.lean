import KeyFeed.Adapter.OsdName
import KeyFeed.Adapter.Basic
import KeyFeed.Bus.Address
import KeyFeed.Session.Action

/-! The settings of the program, and the options that a run takes from them. Settings keep what was written;
    options are checked and tidied, so nothing has to be looked at again while the program runs. -/

namespace KeyFeed
open Text Bus Host Adapter Session

/-- The settings about the feed, the adapter and the log. -/
structure DaemonSettings where
  socketPath : String
  device : Option String
  makeActive : Bool
  logLevel : String
  sourceTag : String
  target : Option HdmiAddress
  osdName : Option String
  deriving DecidableEq, Repr

/-- The commands that the user wants to run, as they were written. -/
structure ActionSettings where
  onStandby : Option String
  onActivate : Option String
  onDeactivate : Option String
  deriving DecidableEq, Repr

structure Settings where
  daemon : DaemonSettings
  actions : ActionSettings
  deriving DecidableEq, Repr

/-- Why there are no settings. -/
inductive SettingsError where
  | unreadable (path : String) (cause : OsError)
  /-- The text is no document of the expected form. -/
  | malformed
  | invalidSourceTag (tag : String)
  deriving DecidableEq, Repr

def SettingsError.message : SettingsError → String
  | .unreadable path cause => "I/O error accessing config at " ++ path ++ ": " ++ cause.message
  | .malformed => "failed to parse config TOML"
  | .invalidSourceTag tag => "invalid source_tag " ++ quoted tag ++ ": must be non-empty with no whitespace"

/-- Where the settings are kept if no other place is named. -/
def defaultSettingsPath : String := "/etc/cec-lircd/config.toml"

def defaultSocketPath : String := "/var/run/lirc/lircd"

def defaultSourceTag : String := "RPICEC"

def DaemonSettings.default : DaemonSettings :=
  ⟨defaultSocketPath, none, true, "info", defaultSourceTag, none, none⟩

def ActionSettings.default : ActionSettings := ⟨none, none, none⟩

def Settings.default : Settings := ⟨.default, .default⟩

/-- A tag is the last of the space-separated fields of a line, so it must be one word. -/
def isSourceTag (tag : String) : Bool :=
  !tag.isEmpty && tag.toList.all fun c => !isBlank c && !isControl c

def checkSourceTag (tag : String) : Except SettingsError Unit :=
  if isSourceTag tag then .ok () else .error (.invalidSourceTag tag)

/-- A command without the white space around it; a blank one counts as none. -/
def configuredCommand (command : Option String) : Option String :=
  (command.map trim).filter (!·.isEmpty)

def ActionSettings.hooks (s : ActionSettings) : Hooks :=
  ⟨configuredCommand s.onStandby, configuredCommand s.onActivate, configuredCommand s.onDeactivate⟩

/-! ### Options -/

/-- Everything that a run of the program needs to know. -/
structure Options where
  socketPath : String
  adapter : OpenSettings
  makeActive : Bool
  target : Option HdmiAddress
  hooks : Hooks
  sourceTag : String
  deriving DecidableEq, Repr

/-- The options that the settings ask for on a machine of the given name. -/
def Options.ofSettings (hostname : Option String) (s : Settings) : Options where
  socketPath := s.daemon.socketPath
  adapter := ⟨s.daemon.device, match s.daemon.osdName with
    | some name => clampOsdName name
    | none => defaultOsdName hostname⟩
  makeActive := s.daemon.makeActive
  target := s.daemon.target
  hooks := s.actions.hooks
  sourceTag := s.daemon.sourceTag

end KeyFeed
