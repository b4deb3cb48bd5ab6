import KeyFeed.Session.Record
import KeyFeed.Session.Run

/-! A station with one listener, whose doings are written down. Sessions are run on it step by step or as a whole. -/

namespace KeyFeed.Session
open Bus

structure Desk where
  station : Station
  listener : Listener
  record : Record
  deriving DecidableEq, Repr

namespace Desk

def fresh (wantsActive : Bool) (hooks : Hooks) (tag : String) : Desk :=
  ⟨.fresh wantsActive hooks tag, .fresh, .empty⟩

def setQueue (q : Queue) (d : Desk) : Desk := { d with station := { d.station with queue := q } }

def setWantsActive (value : Bool) (d : Desk) : Desk := { d with station := { d.station with wantsActive := value } }

/-- The same desk with nothing written down yet. -/
def turnPage (d : Desk) : Desk := { d with record := .empty }

def deliver (out : Outlet Record) (n : Notification) (d : Desk) : Desk :=
  let (station, listener, record) := d.station.deliver out d.listener n d.record
  ⟨station, listener, record⟩

def execute (out : Outlet Record) (c : Command) (d : Desk) : Option SessionEnd × Desk :=
  let (station, record) := d.station.execute out d.record c
  (c.ending?, ⟨station, d.listener, record⟩)

/-- Lets a session go on as `f` says. -/
def run (f : Run Record → Run Record) (d : Desk) : Option SessionEnd × Desk :=
  let r := f (.begin d.station d.record)
  (r.end?, ⟨r.station, d.listener, r.world⟩)

/-- Executes what is queued, up to a command that ends the session. -/
def drain (out : Outlet Record) (d : Desk) : Option SessionEnd × Desk := d.run (Run.drain out)

/-- A whole session, during which others push commands, each when nothing else is left to do; at last the queue is
    stopped, if no command has ended the session before. -/
def runSession (out : Outlet Record) (later : List Command) (d : Desk) : Option SessionEnd × Desk :=
  d.run fun r =>
    let r := later.foldl (fun r c => (r.push c).settle out) (r.settle out)
    if r.isOver then r else r.stopQueue.settle out

/-- The queued commands, oldest first, and the desk without them. -/
def popAll (d : Desk) : List Command × Desk :=
  let q := d.station.queue
  if q.running then (q.commands, d.setQueue { q with commands := [] }) else ([], d)

end Desk

end KeyFeed.Session
