import KeyFeed.Settings.Basic
import KeyFeed.Text.Digits

/-! The flags of the command line, their values, and how they override settings. -/

namespace KeyFeed
open Text Bus

/-- The flags that take no value. -/
inductive Switch where
  | foreground | list | noActivate
  deriving DecidableEq, Repr

/-- The flags that take a value. -/
inductive ValueFlag where
  | socket | verbose | port | address | config | onStandby | onActivate | onDeactivate
  deriving DecidableEq, Repr

inductive Flag where
  | switch (s : Switch)
  | value (v : ValueFlag)
  | help
  | version
  deriving DecidableEq, Repr

namespace Flag

def ofShort? (c : Char) : Option Flag :=
  match c with
  | 'd' => some (value .socket)
  | 'f' => some (switch .foreground)
  | 'l' => some (switch .list)
  | 'v' => some (value .verbose)
  | 'a' => some (switch .noActivate)
  | 'p' => some (value .port)
  | 't' => some (value .address)
  | 'c' => some (value .config)
  | 'h' => some help
  | 'V' => some version
  | _ => none

/-- A long flag is known by its whole name only. -/
def ofLong? (name : List Char) : Option Flag :=
  match String.ofList name with
  | "socket" => some (value .socket)
  | "foreground" => some (switch .foreground)
  | "list" => some (switch .list)
  | "verbose" => some (value .verbose)
  | "no-activate" => some (switch .noActivate)
  | "port" => some (value .port)
  | "address" => some (value .address)
  | "config" => some (value .config)
  | "on-standby" => some (value .onStandby)
  | "on-activate" => some (value .onActivate)
  | "on-deactivate" => some (value .onDeactivate)
  | "help" => some help
  | "version" => some version
  | _ => none

end Flag

/-- Why the flags were not taken. Asking for help or for the version also ends the reading of flags. -/
inductive FlagError where
  | unknownArgument
  | tooManyValues
  /-- A flag was given twice. -/
  | argumentConflict
  /-- A value is missing or empty. -/
  | invalidValue
  /-- A value is not of the right form. -/
  | valueValidation
  | displayHelp
  | displayVersion
  deriving DecidableEq, Repr

/-- What the program returns to the system after that. -/
def FlagError.exitCode : FlagError → Nat
  | displayHelp | displayVersion => 0
  | _ => 2

/-- What was said on the command line. -/
structure Flags where
  socket : Option String
  foreground : Bool
  list : Bool
  verbosity : Option UInt8
  noActivate : Bool
  port : Option String
  address : Option HdmiAddress
  config : Option String
  onStandby : Option String
  onActivate : Option String
  onDeactivate : Option String
  deriving DecidableEq, Repr

namespace Flags

/-- An empty command line. -/
def empty : Flags :=
  ⟨none, false, false, none, false, none, none, none, none, none, none⟩

def raise (s : Switch) (fs : Flags) : Flags :=
  match s with
  | .foreground => { fs with foreground := true }
  | .list => { fs with list := true }
  | .noActivate => { fs with noActivate := true }

def readPath (value : String) : Except FlagError String :=
  if value.isEmpty then .error .invalidValue else .ok value

/-- A number that fits a byte, with an optional sign. -/
def readVerbosity (value : String) : Except FlagError UInt8 :=
  match readSigned? 10 0 255 value.toList with
  | some n => .ok (UInt8.ofNat n.toNat)
  | none => .error .valueValidation

def readAddress (value : String) : Except FlagError HdmiAddress :=
  (HdmiAddress.parse value).mapError fun _ => .valueValidation

def assign (v : ValueFlag) (value : String) (fs : Flags) : Except FlagError Flags :=
  match v with
  | .socket => (readPath value).map fun p => { fs with socket := some p }
  | .verbose => (readVerbosity value).map fun n => { fs with verbosity := some n }
  | .port => .ok { fs with port := some value }
  | .address => (readAddress value).map fun a => { fs with address := some a }
  | .config => (readPath value).map fun p => { fs with config := some p }
  | .onStandby => .ok { fs with onStandby := some value }
  | .onActivate => .ok { fs with onActivate := some value }
  | .onDeactivate => .ok { fs with onDeactivate := some value }

/-- Where the settings are kept. -/
def configPath (fs : Flags) : String := fs.config.getD defaultSettingsPath

/-- The log level that a verbosity stands for. -/
def levelOf (verbosity : UInt8) : String :=
  if verbosity = 0 then "info" else if verbosity = 1 then "debug" else "trace"

/-- The settings with everything overridden that was said on the command line. -/
def applyTo (fs : Flags) (s : Settings) : Settings where
  daemon := { s.daemon with
    socketPath := fs.socket.getD s.daemon.socketPath
    makeActive := s.daemon.makeActive && !fs.noActivate
    device := fs.port.or s.daemon.device
    target := fs.address.or s.daemon.target
    logLevel := (fs.verbosity.map levelOf).getD s.daemon.logLevel }
  actions :=
    ⟨fs.onStandby.or s.actions.onStandby, fs.onActivate.or s.actions.onActivate,
      fs.onDeactivate.or s.actions.onDeactivate⟩

end Flags

end KeyFeed
