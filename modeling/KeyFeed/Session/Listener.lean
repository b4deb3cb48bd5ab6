import KeyFeed.Notice

/-! What the notifications of an adapter ask for. A notification asks for at most one command; what it asks
    depends only on the notification, the address that the adapter claimed last and, for a request of the active
    source, the flag that says whether this device wants to be it. -/

namespace KeyFeed.Session
open Bus Key

/-- The one who hears the notifications of one opening of the adapter. The address is kept as its byte, which one
    thread can set while another one reads it. -/
structure Listener where
  byte : UInt8
  deriving DecidableEq, Repr

/-- What came of a notification: the listener after it, the command it asks for, and the notices. -/
structure Heard where
  listener : Listener
  command : Option Command
  notices : List Notice
  deriving DecidableEq, Repr

namespace Listener

/-- A listener to whom an address was reported. -/
def ofAddress (a : LogicalAddress) : Listener := ⟨a.toByte⟩

/-- The address that was reported last. -/
def own (l : Listener) : LogicalAddress := .ofByte l.byte

/-- A listener to whom no configuration was reported yet. -/
def fresh : Listener := .ofAddress .unknown

/-- The command that a frame asks for. -/
def commandOfFrame (wantsActive : Bool) (f : Frame) : Option Command :=
  match f.opcode with
  | .standby => some .standby
  | .requestActiveSource => if wantsActive then some .activate else none
  | .deckControl => if f.operands.head?.map DeckControl.ofByte = some .stop then some (.key .stop) else none
  | .play => if f.operands.head?.map PlayMode.ofByte = some .playStill then some (.key .pause) else some (.key .play)
  | _ => none

/-- The command that a key asks for: only a press counts, and only of a code with an entry among the names. -/
def commandOfKey (e : KeyEvent) : Option Command :=
  if e.code ≤ maxCode ∧ e.isPressEdge then some (.keyPress e.code) else none

/-- Whether a change of the active source is about this device. -/
def isOwn (l : Listener) (address : LogicalAddress) : Bool := address == l.own && l.own != .unknown

def hear (l : Listener) (wantsActive : Bool) : Notification → Heard
  | .message gravity text time => ⟨l, none, [.busMessage gravity text time]⟩
  | .key e => ⟨l, commandOfKey e, []⟩
  | .frame f => ⟨l, commandOfFrame wantsActive f, ((f.menuLanguage? l.own).map Notice.menuLanguage).toList⟩
  | .configuration c => ⟨.ofAddress c.logical, none, [.configurationChanged c.logical c.physical]⟩
  | .alert a => if a.requiresRestart then ⟨l, some .restart, [.linkAlert a]⟩ else ⟨l, none, [.busAlert a]⟩
  | .menu _ => ⟨l, some (.key .contentsMenu), []⟩
  | .source address activated =>
    if l.isOwn address then
      ⟨l, some (if activated then .activate else .inactive), [.sourceChanged address activated]⟩
    else ⟨l, none, []⟩

end Listener

end KeyFeed.Session
