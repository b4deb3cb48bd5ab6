import KeyFeed.Text.Blank
import KeyFeed.Text.Digits
import KeyFeed.Text.Fields
import KeyFeed.Text.Quoted

/-! Addresses on the bus. A logical address is the role a device plays; a physical address is its place in the
    HDMI tree, one nibble a level. An HDMI address is what a user writes to say where the adapter is plugged in:
    `tv`, `tv.2`, `av.1` or a physical address. -/

namespace KeyFeed.Bus
open Text

/-! ### Logical addresses -/

/-- The sixteen roles, and `unknown` until the adapter has claimed one. -/
inductive LogicalAddress where
  | tv | recordingDevice1 | recordingDevice2 | tuner1 | playbackDevice1 | audioSystem | tuner2 | tuner3
  | playbackDevice2 | recordingDevice3 | tuner4 | playbackDevice3 | reserved1 | reserved2 | freeUse | broadcast
  | unknown
  deriving DecidableEq, Repr, Inhabited

namespace LogicalAddress

/-- A byte above fifteen names no role. -/
def ofByte (b : UInt8) : LogicalAddress :=
  match b.toNat with
  | 0 => tv
  | 1 => recordingDevice1
  | 2 => recordingDevice2
  | 3 => tuner1
  | 4 => playbackDevice1
  | 5 => audioSystem
  | 6 => tuner2
  | 7 => tuner3
  | 8 => playbackDevice2
  | 9 => recordingDevice3
  | 10 => tuner4
  | 11 => playbackDevice3
  | 12 => reserved1
  | 13 => reserved2
  | 14 => freeUse
  | 15 => broadcast
  | _ => unknown

def toByte : LogicalAddress → UInt8
  | tv => 0
  | recordingDevice1 => 1
  | recordingDevice2 => 2
  | tuner1 => 3
  | playbackDevice1 => 4
  | audioSystem => 5
  | tuner2 => 6
  | tuner3 => 7
  | playbackDevice2 => 8
  | recordingDevice3 => 9
  | tuner4 => 10
  | playbackDevice3 => 11
  | reserved1 => 12
  | reserved2 => 13
  | freeUse => 14
  | broadcast => 15
  | unknown => 0xFF

def name : LogicalAddress → String
  | tv => "Tv"
  | recordingDevice1 => "RecordingDevice1"
  | recordingDevice2 => "RecordingDevice2"
  | tuner1 => "Tuner1"
  | playbackDevice1 => "PlaybackDevice1"
  | audioSystem => "AudioSystem"
  | tuner2 => "Tuner2"
  | tuner3 => "Tuner3"
  | playbackDevice2 => "PlaybackDevice2"
  | recordingDevice3 => "RecordingDevice3"
  | tuner4 => "Tuner4"
  | playbackDevice3 => "PlaybackDevice3"
  | reserved1 => "Reserved1"
  | reserved2 => "Reserved2"
  | freeUse => "FreeUse"
  | broadcast => "Broadcast"
  | unknown => "Unknown"

/-- The address as a decimal number. -/
def text : LogicalAddress → String
  | unknown => "unknown"
  | a => decimal a.toByte.toNat

theorem ofByte_toByte (a : LogicalAddress) : ofByte a.toByte = a := by
  cases a <;> rfl

end LogicalAddress

/-! ### Physical addresses -/

/-- Four nibbles, the first for the input of the television. -/
structure PhysicalAddress where
  raw : UInt16
  deriving DecidableEq, Repr, Inhabited

/-- Why a text is no address. -/
inductive AddressError where
  | empty
  | invalidComponent (text : String)
  | tooManyComponents
  | unknownDevice (device : String)
  | invalidPort (text : String)
  | missingPort
  deriving DecidableEq, Repr

def AddressError.message : AddressError → String
  | .empty => "address is empty"
  | .invalidComponent t =>
    "physical address component " ++ quoted t ++ " is not a number between 0 and 15"
  | .tooManyComponents => "physical address has more than four components"
  | .unknownDevice d => "unknown device " ++ quoted d ++ ", expected \"tv\" or \"av\""
  | .invalidPort t => "HDMI port " ++ quoted t ++ " is not a number between 1 and 15"
  | .missingPort => "an audio system address needs an HDMI port, e.g. \"av.1\""

namespace PhysicalAddress

/-- The address of the television itself. -/
def tv : PhysicalAddress := ⟨0⟩

/-- Only the low nibble of each component counts. -/
def ofComponents (a b c d : UInt8) : PhysicalAddress :=
  ⟨[a, b, c, d].foldl (fun acc p => acc <<< 4 ||| (p &&& 0x0F).toUInt16) 0⟩

def component (p : PhysicalAddress) (shift : UInt16) : UInt8 := (p.raw >>> shift &&& 0xF).toUInt8

def components (p : PhysicalAddress) : List UInt8 :=
  [p.component 12, p.component 8, p.component 4, p.component 0]

def chars (p : PhysicalAddress) : List Char :=
  join ['.'] (p.components.map fun b => decimalDigits b.toNat)

def text (p : PhysicalAddress) : String := String.ofList p.chars

/-- A decimal number that fits a nibble. -/
def readComponent? (cs : List Char) : Option UInt8 := (readUnsigned? 10 15 cs).map UInt8.ofNat

/-- Reads components until the first that is wrong or is one too many; `room` is how many may still come. -/
def readComponents (room : Nat) : List (List Char) → Except AddressError (List UInt8)
  | [] => .ok []
  | w :: ws => match room with
    | 0 => .error .tooManyComponents
    | room + 1 => match readComponent? w with
      | none => .error (.invalidComponent (String.ofList w))
      | some b => (readComponents room ws).map (b :: ·)

/-- One to four components; those that are missing at the end are zero. -/
def parse (cs : List Char) : Except AddressError PhysicalAddress :=
  if cs.isEmpty then .error .empty
  else (readComponents 4 (fields '.' cs)).map fun bs =>
    ofComponents (bs.getD 0 0) (bs.getD 1 0) (bs.getD 2 0) (bs.getD 3 0)

end PhysicalAddress

/-! ### Where the adapter is plugged in -/

inductive HdmiAddress where
  /-- An input of the television; without a port the adapter finds it out. -/
  | tv (port : Option UInt8)
  /-- An input of the audio system. -/
  | audioSystem (port : UInt8)
  | physical (address : PhysicalAddress)
  deriving DecidableEq, Repr

namespace HdmiAddress

def port? : HdmiAddress → Option UInt8
  | tv p => p
  | audioSystem p => some p
  | physical _ => none

/-- A port that an HDMI device can have. -/
def portInRange (p : UInt8) : Bool := 1 ≤ p && p ≤ 15

def chars : HdmiAddress → List Char
  | tv none => ['t', 'v']
  | tv (some p) => 't' :: 'v' :: '.' :: decimalDigits p.toNat
  | audioSystem p => 'a' :: 'v' :: '.' :: decimalDigits p.toNat
  | physical a => a.chars

def text (a : HdmiAddress) : String := String.ofList a.chars

/-- A decimal byte that is a possible port. -/
def readPort (cs : List Char) : Except AddressError UInt8 :=
  match (readUnsigned? 10 255 cs).map UInt8.ofNat with
  | some p => if portInRange p then .ok p else .error (.invalidPort (String.ofList cs))
  | none => .error (.invalidPort (String.ofList cs))

/-- A device name in either case, with or without the port that stood behind a period. -/
def ofDevice (device : List Char) (port : Option (List Char)) : Except AddressError HdmiAddress :=
  match device.map Char.toLower, port with
  | ['t', 'v'], none => .ok (.tv none)
  | ['t', 'v'], some p => (readPort p).map fun n => .tv (some n)
  | ['a', 'v'], none => .error .missingPort
  | ['a', 'v'], some p => (readPort p).map .audioSystem
  | _, _ => .error (.unknownDevice (String.ofList device))

/-- What starts with a digit is a physical address; anything else is a device, cut at the first period. -/
def parseChars (cs : List Char) : Except AddressError HdmiAddress :=
  match trimChars cs with
  | [] => .error .empty
  | c :: rest =>
    if isAsciiDigit c then (PhysicalAddress.parse (c :: rest)).map .physical
    else match cut? '.' (c :: rest) with
      | some (device, port) => ofDevice device (some port)
      | none => ofDevice (c :: rest) none

def parse (s : String) : Except AddressError HdmiAddress := parseChars s.toList

end HdmiAddress

end KeyFeed.Bus
