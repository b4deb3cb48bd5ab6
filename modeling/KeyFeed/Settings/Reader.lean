import KeyFeed.Settings.Basic
import KeyFeed.Toml.Document

/-! Reading settings. Everything can be left out and has a default then; what is not known is passed over; what is
    given must have the right type. A section is a table, or a row of values in the order of its fields. -/

namespace KeyFeed
open Bus Toml Host

/-- How the fields of a section are given. -/
inductive SectionFields where
  | named (entries : Entries)
  | positional (items : List Item)

namespace SectionFields

/-- The fields of an item in the place of a section. A date stands for a table without any known field. -/
def ofItem? : Item → Option SectionFields
  | .table _ es | .inlineTable es => some (named es)
  | .dateTime => some (named [])
  | .array items => some (positional items)
  | .tables elements => some (positional (elements.map (.table .header ·)))
  | .text _ | .boolean _ | .integer _ | .float => none

/-- What is given for the field of this name, which is number `position` of its section. -/
def get? (fs : SectionFields) (position : Nat) (name : String) : Option Item :=
  match fs with
  | named es => es.get? name
  | positional items => items[position]?

/-- The value of a field that is given and has the right type, or of one that is not given. -/
def read? {α : Type} (fs : SectionFields) (position : Nat) (name : String) (ofItem : Item → Option α) :
    Option (Option α) :=
  match fs.get? position name with
  | none => some none
  | some item => (ofItem item).map some

end SectionFields

/-- The text of an item that is a string. -/
def textOfItem? : Item → Option String
  | .text s => some s
  | _ => none

def booleanOfItem? : Item → Option Bool
  | .boolean b => some b
  | _ => none

/-- The address that a string names. -/
def addressOfItem? : Item → Option HdmiAddress
  | .text s => (HdmiAddress.parse s).toOption
  | _ => none

def DaemonSettings.ofFields? (fs : SectionFields) : Option DaemonSettings :=
  match fs.read? 0 "socket_path" textOfItem?, fs.read? 1 "device" textOfItem?,
    fs.read? 2 "make_active" booleanOfItem?, fs.read? 3 "log_level" textOfItem?,
    fs.read? 4 "source_tag" textOfItem?, fs.read? 5 "target_address" addressOfItem?,
    fs.read? 6 "osd_name" textOfItem? with
  | some socketPath, some device, some makeActive, some logLevel, some sourceTag, some target, some osdName =>
    some {
      socketPath := socketPath.getD DaemonSettings.default.socketPath
      device := device
      makeActive := makeActive.getD DaemonSettings.default.makeActive
      logLevel := logLevel.getD DaemonSettings.default.logLevel
      sourceTag := sourceTag.getD DaemonSettings.default.sourceTag
      target := target
      osdName := osdName }
  | _, _, _, _, _, _, _ => none

def ActionSettings.ofFields? (fs : SectionFields) : Option ActionSettings :=
  match fs.read? 0 "on_standby" textOfItem?, fs.read? 1 "on_activate" textOfItem?,
    fs.read? 2 "on_deactivate" textOfItem? with
  | some onStandby, some onActivate, some onDeactivate => some ⟨onStandby, onActivate, onDeactivate⟩
  | _, _, _ => none

/-- A section of a document, or its default where the document has none. -/
def sectionOf? {α : Type} (es : Entries) (name : String) (default : α) (ofFields : SectionFields → Option α) :
    Option α :=
  match es.get? name with
  | none => some default
  | some item => (SectionFields.ofItem? item).bind ofFields

namespace Settings

/-- The settings that a document holds. -/
def ofEntries? (es : Entries) : Option Settings :=
  match sectionOf? es "daemon" DaemonSettings.default DaemonSettings.ofFields?,
    sectionOf? es "actions" ActionSettings.default ActionSettings.ofFields? with
  | some daemon, some actions => some ⟨daemon, actions⟩
  | _, _ => none

/-- Only a document of the right form has its tag looked at. -/
def parse (s : String) : Except SettingsError Settings :=
  match (Toml.parse s.toList).bind ofEntries? with
  | none => .error .malformed
  | some settings => (checkSourceTag settings.daemon.sourceTag).map fun _ => settings

/-- The settings from what reading their file gave. Without a file everything has its default. -/
def load (path : String) (content : Except OsError String) : Except SettingsError Settings :=
  match content with
  | .ok s => parse s
  | .error .noEntry => .ok default
  | .error e => .error (.unreadable path e)

end Settings

end KeyFeed
