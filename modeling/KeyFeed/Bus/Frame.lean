import KeyFeed.Bus.Address

/-! Frames as they travel on the bus, and their notation in traces: the two addresses, the opcode and the
    operands in hexadecimal with colons between them. -/

namespace KeyFeed.Bus
open Text

/-- The opcodes that have a name. `other` carries a byte as it came, so it is no named opcode even when that
    byte has a name. -/
inductive Opcode where
  | featureAbort | imageViewOn | textViewOn | giveDeckStatus | deckStatus | setMenuLanguage | standby | play
  | deckControl | userControlPressed | userControlRelease | giveOsdName | setOsdName | routingChange
  | routingInformation | activeSource | requestActiveSource | setStreamPath | deviceVendorId | vendorCommand
  | vendorRemoteButtonDown | vendorRemoteButtonUp | giveDeviceVendorId | menuRequest | menuStatus
  | giveDevicePowerStatus | reportPowerStatus | getMenuLanguage | inactiveSource | cecVersion | getCecVersion
  | other (raw : UInt8)
  deriving DecidableEq, Repr

namespace Opcode

/-- A byte without a name is carried as it is. -/
def ofByte (b : UInt8) : Opcode :=
  match b.toNat with
  | 0x00 => featureAbort | 0x04 => imageViewOn | 0x0D => textViewOn | 0x1A => giveDeckStatus
  | 0x1B => deckStatus | 0x32 => setMenuLanguage | 0x36 => standby | 0x41 => play | 0x42 => deckControl
  | 0x44 => userControlPressed | 0x45 => userControlRelease | 0x46 => giveOsdName | 0x47 => setOsdName
  | 0x80 => routingChange | 0x81 => routingInformation | 0x82 => activeSource | 0x85 => requestActiveSource
  | 0x86 => setStreamPath | 0x87 => deviceVendorId | 0x89 => vendorCommand | 0x8A => vendorRemoteButtonDown
  | 0x8B => vendorRemoteButtonUp | 0x8C => giveDeviceVendorId | 0x8D => menuRequest | 0x8E => menuStatus
  | 0x8F => giveDevicePowerStatus | 0x90 => reportPowerStatus | 0x91 => getMenuLanguage
  | 0x9D => inactiveSource | 0x9E => cecVersion | 0x9F => getCecVersion | _ => other b

def toByte : Opcode → UInt8
  | featureAbort => 0x00 | imageViewOn => 0x04 | textViewOn => 0x0D | giveDeckStatus => 0x1A
  | deckStatus => 0x1B | setMenuLanguage => 0x32 | standby => 0x36 | play => 0x41 | deckControl => 0x42
  | userControlPressed => 0x44 | userControlRelease => 0x45 | giveOsdName => 0x46 | setOsdName => 0x47
  | routingChange => 0x80 | routingInformation => 0x81 | activeSource => 0x82 | requestActiveSource => 0x85
  | setStreamPath => 0x86 | deviceVendorId => 0x87 | vendorCommand => 0x89 | vendorRemoteButtonDown => 0x8A
  | vendorRemoteButtonUp => 0x8B | giveDeviceVendorId => 0x8C | menuRequest => 0x8D | menuStatus => 0x8E
  | giveDevicePowerStatus => 0x8F | reportPowerStatus => 0x90 | getMenuLanguage => 0x91
  | inactiveSource => 0x9D | cecVersion => 0x9E | getCecVersion => 0x9F | other b => b

def name : Opcode → String
  | featureAbort => "FeatureAbort" | imageViewOn => "ImageViewOn" | textViewOn => "TextViewOn"
  | giveDeckStatus => "GiveDeckStatus" | deckStatus => "DeckStatus" | setMenuLanguage => "SetMenuLanguage"
  | standby => "Standby" | play => "Play" | deckControl => "DeckControl"
  | userControlPressed => "UserControlPressed" | userControlRelease => "UserControlRelease"
  | giveOsdName => "GiveOsdName" | setOsdName => "SetOsdName" | routingChange => "RoutingChange"
  | routingInformation => "RoutingInformation" | activeSource => "ActiveSource"
  | requestActiveSource => "RequestActiveSource" | setStreamPath => "SetStreamPath"
  | deviceVendorId => "DeviceVendorId" | vendorCommand => "VendorCommand"
  | vendorRemoteButtonDown => "VendorRemoteButtonDown" | vendorRemoteButtonUp => "VendorRemoteButtonUp"
  | giveDeviceVendorId => "GiveDeviceVendorId" | menuRequest => "MenuRequest" | menuStatus => "MenuStatus"
  | giveDevicePowerStatus => "GiveDevicePowerStatus" | reportPowerStatus => "ReportPowerStatus"
  | getMenuLanguage => "GetMenuLanguage" | inactiveSource => "InactiveSource" | cecVersion => "CecVersion"
  | getCecVersion => "GetCecVersion"
  | other b => "Other(" ++ decimal b.toNat ++ ")"

theorem toByte_ofByte (b : UInt8) : (ofByte b).toByte = b := by
  unfold ofByte
  split <;> first
    | next h => exact UInt8.toNat_inj.mp h.symm
    | rfl

end Opcode

/-- What a television asks of a deck. -/
inductive DeckControl where
  | skipForward | skipReverse | stop | eject
  | other (raw : UInt8)
  deriving DecidableEq, Repr

def DeckControl.ofByte (b : UInt8) : DeckControl :=
  match b.toNat with
  | 1 => skipForward
  | 2 => skipReverse
  | 3 => stop
  | 4 => eject
  | _ => other b

def DeckControl.name : DeckControl → String
  | skipForward => "SkipForward"
  | skipReverse => "SkipReverse"
  | stop => "Stop"
  | eject => "Eject"
  | other b => "Other(" ++ decimal b.toNat ++ ")"

/-- How a television asks for playback; `other` stands for the slow and fast speeds. -/
inductive PlayMode where
  | playReverse | playForward | playStill
  | other (raw : UInt8)
  deriving DecidableEq, Repr

def PlayMode.ofByte (b : UInt8) : PlayMode :=
  match b.toNat with
  | 0x20 => playReverse
  | 0x24 => playForward
  | 0x25 => playStill
  | _ => other b

def PlayMode.name : PlayMode → String
  | playReverse => "PlayReverse"
  | playForward => "PlayForward"
  | playStill => "PlayStill"
  | other b => "Other(" ++ decimal b.toNat ++ ")"

structure Frame where
  initiator : LogicalAddress
  destination : LogicalAddress
  opcode : Opcode
  operands : List UInt8
  deriving DecidableEq, Repr

namespace Frame

/-- The bytes of a frame in the notation of traces. -/
def chars (f : Frame) : List Char :=
  hexDigits f.initiator.toByte.toNat ++ hexDigits f.destination.toByte.toNat
    ++ (f.opcode.toByte :: f.operands).flatMap fun b => ':' :: padded 2 (hexDigits b.toNat)

def text (f : Frame) : String := String.ofList f.chars

def isAsciiLetter (b : UInt8) : Bool := isAsciiAlpha (Char.ofNat b.toNat)

/-- The three letters of a language that the television announces to us or to everyone. -/
def menuLanguage? (f : Frame) (own : LogicalAddress) : Option String :=
  if f.opcode = .setMenuLanguage ∧ f.operands.length = 3 ∧ f.initiator = .tv
      ∧ (f.destination = own ∨ f.destination = .broadcast) ∧ f.operands.all isAsciiLetter then
    some (String.ofList (f.operands.map fun b => Char.ofNat b.toNat))
  else none

end Frame

end KeyFeed.Bus
