import KeyFeed.Adapter.Basic

/-! The adapter that lives inside the program and stands in for hardware. Whoever opened it last hears what is
    injected, until it is closed; like real hardware it reports the address it claimed as soon as it is open. -/

namespace KeyFeed.Adapter
open Bus

/-- The adapter, over the listeners `κ` that can be registered with it. Counts and settings outlive a close; the
    listener does not. A count has 32 bits and starts over from zero behind the greatest number. -/
structure Loopback (κ : Type) where
  listener : Option κ
  settings : Option OpenSettings
  opens : UInt32
  closes : UInt32
  lastInactive : Option Bool
  claims : UInt32
  target : Option HdmiAddress
  failOpen : Bool
  deriving DecidableEq, Repr

namespace Loopback

variable {κ : Type}

def claimedLogical : LogicalAddress := .playbackDevice1

def claimedPhysical : PhysicalAddress := ⟨0x1000⟩

/-- An adapter that was never opened. -/
def fresh : Loopback κ := ⟨none, none, 0, 0, none, 0, none, false⟩

def isOpen (a : Loopback κ) : Bool := a.listener.isSome

def setFailOpen (fail : Bool) (a : Loopback κ) : Loopback κ := { a with failOpen := fail }

/-- Opens the adapter for a listener, who takes the place of an earlier one, and says what is reported at once. -/
def openFor (settings : OpenSettings) (listener : κ) (a : Loopback κ) :
    Except AdapterError (List Notification) × Loopback κ :=
  if a.failOpen then (.error (.openFailed (settings.device.getD "auto") "simulated failure"), a)
  else
    (.ok [.configuration ⟨claimedLogical, claimedPhysical, settings.osdName⟩],
      { a with listener := some listener, settings := some settings, opens := a.opens + 1 })

/-- Closing counts only when the adapter is open. -/
def close (makeInactive : Bool) (a : Loopback κ) : Loopback κ :=
  if a.isOpen then { a with listener := none, closes := a.closes + 1, lastInactive := some makeInactive } else a

def makeActive (a : Loopback κ) : Except AdapterError Unit × Loopback κ :=
  if a.isOpen then (.ok (), { a with claims := a.claims + 1 }) else (.error .notOpen, a)

def setTarget (target : HdmiAddress) (a : Loopback κ) : Except AdapterError Unit × Loopback κ :=
  if a.isOpen then (.ok (), { a with target := some target }) else (.error .notOpen, a)

/-- Something happens on the bus: whether anyone hears it, and who is told. -/
def inject (n : Notification) (a : Loopback κ) : Bool × List (κ × Notification) :=
  match a.listener with
  | some listener => (true, [(listener, n)])
  | none => (false, [])

/-- There is no hardware to be found. -/
def devices (_ : Loopback κ) : List Descriptor := []

/-- The adapter in one line, as its maker would write it down. -/
def debugText (a : Loopback κ) : String :=
  "MockCecAdapter \x7b open: " ++ (if a.isOpen then "true" else "false")
    ++ ", open_count: " ++ Text.decimal a.opens.toNat ++ ", close_count: " ++ Text.decimal a.closes.toNat ++ " \x7d"

end Loopback

end KeyFeed.Adapter
