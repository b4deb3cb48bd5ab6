import KeyFeed.Key.Names

/-! The commands that a session executes. -/

namespace KeyFeed
open Text

inductive Command where
  /-- The television sends everyone to sleep. -/
  | standby
  /-- This device became the active source. -/
  | activate
  /-- Another device became the active source. -/
  | inactive
  /-- Close the adapter and the feed and open them again. -/
  | restart
  /-- Write the key names of a control code to the feed. -/
  | keyPress (code : UInt8)
  /-- Shut down. -/
  | exit
  deriving DecidableEq, Repr

namespace Command

/-- The press of an assigned key. -/
def key (c : Key.Code) : Command := keyPress c.toByte

def text : Command → String
  | standby => "standby"
  | activate => "activate"
  | inactive => "inactive"
  | restart => "restart"
  | keyPress b => "keypress(0x" ++ hexByte b ++ ")"
  | exit => "exit"

end Command

/-- Why a session is over. -/
inductive SessionEnd where
  | restart
  | exit
  deriving DecidableEq, Repr

/-- The end that a command brings about, if it brings one. -/
def Command.ending? : Command → Option SessionEnd
  | .restart => some .restart
  | .exit => some .exit
  | _ => none

end KeyFeed
