import KeyFeed.Settings.Basic
import KeyFeed.Toml.StringWriter

/-! Writing settings as a document that reads back as the same settings. Both sections are always written; a field
    that has no value is left out. -/

namespace KeyFeed
open Bus Toml

/-- One field on a line of its own. -/
def fieldLine (name : String) (value : List Char) : List Char :=
  name.toList ++ [' ', '=', ' '] ++ value ++ ['\n']

def textLine (name value : String) : List Char := fieldLine name (writeString value.toList)

/-- The line of a text that may be absent. -/
def textLine? (name : String) (value : Option String) : List Char := (value.map (textLine name)).getD []

def headerLine (name : String) : List Char := '[' :: name.toList ++ [']', '\n']

def writeBoolean (b : Bool) : List Char := (if b then "true" else "false").toList

def DaemonSettings.lines (s : DaemonSettings) : List Char :=
  headerLine "daemon" ++ textLine "socket_path" s.socketPath ++ textLine? "device" s.device
    ++ fieldLine "make_active" (writeBoolean s.makeActive) ++ textLine "log_level" s.logLevel
    ++ textLine "source_tag" s.sourceTag ++ textLine? "target_address" (s.target.map HdmiAddress.text)
    ++ textLine? "osd_name" s.osdName

def ActionSettings.lines (s : ActionSettings) : List Char :=
  headerLine "actions" ++ textLine? "on_standby" s.onStandby ++ textLine? "on_activate" s.onActivate
    ++ textLine? "on_deactivate" s.onDeactivate

/-- The whole document, with an empty line between its sections. -/
def Settings.text (s : Settings) : String := String.ofList (s.daemon.lines ++ '\n' :: s.actions.lines)

end KeyFeed
