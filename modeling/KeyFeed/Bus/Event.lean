import KeyFeed.Bus.Frame
import KeyFeed.Key.Code

/-! What an open adapter reports: the seven kinds of notification and their payloads. -/

namespace KeyFeed.Bus
open Text

/-- A condition of the adapter that is no frame. -/
inductive Alert where
  | serviceDevice | connectionLost | permissionError | portBusy | physicalAddressError | tvPollFailed
  | other (raw : UInt8)
  deriving DecidableEq, Repr

namespace Alert

/-- The link is broken, so only reopening it helps. -/
def requiresRestart : Alert → Bool
  | connectionLost | permissionError | portBusy | physicalAddressError | tvPollFailed => true
  | serviceDevice | other _ => false

def name : Alert → String
  | serviceDevice => "ServiceDevice"
  | connectionLost => "ConnectionLost"
  | permissionError => "PermissionError"
  | portBusy => "PortBusy"
  | physicalAddressError => "PhysicalAddressError"
  | tvPollFailed => "TvPollFailed"
  | other b => "Other(" ++ decimal b.toNat ++ ")"

end Alert

/-- How grave a message of the adapter is. -/
inductive Gravity where
  | error | warning | notice | traffic | debug
  deriving DecidableEq, Repr

namespace Gravity

/-- The gravest first. -/
def rank : Gravity → Nat
  | error => 0
  | warning => 1
  | notice => 2
  | traffic => 3
  | debug => 4

def name : Gravity → String
  | error => "Error"
  | warning => "Warning"
  | notice => "Notice"
  | traffic => "Traffic"
  | debug => "Debug"

end Gravity

/-- Whether the television has handed its menu to this device. -/
inductive MenuState where
  | activated | deactivated
  deriving DecidableEq, Repr

/-- A key as the adapter reports it; a duration of zero marks the moment it goes down. -/
structure KeyEvent where
  code : UInt8
  duration : UInt32
  deriving DecidableEq, Repr

namespace KeyEvent

def press (code : UInt8) : KeyEvent := ⟨code, 0⟩

/-- Whether the event counts as a press. The two vendor keys are never reported with a duration of zero, so
    they always do. -/
def isPressEdge (e : KeyEvent) : Bool :=
  e.duration == 0 || ((Key.Code.ofByte? e.code).map Key.Code.isEdgeTriggered).getD false

end KeyEvent

/-- What the adapter knows of its own place on the bus. -/
structure Configuration where
  logical : LogicalAddress
  physical : PhysicalAddress
  osdName : String
  deriving DecidableEq, Repr

/-- Everything an open adapter can report. -/
inductive Notification where
  | message (gravity : Gravity) (text : String) (time : Nat)
  | key (event : KeyEvent)
  | frame (frame : Frame)
  | configuration (configuration : Configuration)
  | alert (alert : Alert)
  | menu (state : MenuState)
  | source (address : LogicalAddress) (activated : Bool)
  deriving DecidableEq, Repr

end KeyFeed.Bus
