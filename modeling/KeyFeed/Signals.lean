import KeyFeed.Command.Basic

/-! Signals of the operating system. While a session runs they become commands; otherwise they keep their default
    behaviour, which is to end the program. -/

namespace KeyFeed

/-- The signals that are handled. -/
inductive Signal where
  | hangUp | pipe | interrupt | terminate
  deriving DecidableEq, Repr

namespace Signal

/-- In the order in which their handlers are installed. -/
def handled : List Signal := [hangUp, pipe, interrupt, terminate]

def number : Signal → Int
  | hangUp => 1
  | interrupt => 2
  | pipe => 13
  | terminate => 15

/-- A lost terminal or a broken pipe asks for a new session, any other signal for the end. -/
def commandOf (number : Int) : Command :=
  if number = hangUp.number ∨ number = pipe.number then .restart else .exit

def command (s : Signal) : Command := commandOf s.number

end Signal

/-- Whether the default behaviour of the handled signals is in force. -/
structure SignalBridge where
  defaultsArmed : Bool
  deriving DecidableEq, Repr

namespace SignalBridge

/-- Freshly installed handlers leave the defaults in force. -/
def installed : SignalBridge := ⟨true⟩

def setRunning (running : Bool) (_ : SignalBridge) : SignalBridge := ⟨!running⟩

end SignalBridge

end KeyFeed
