import KeyFeed.Session.Dispatcher

/-! Surroundings that write down what a session does to them. Lines reach no one, and actions go as they are told. -/

namespace KeyFeed.Session
open Host

/-- Lines, actions and notices, each in the order in which they came. -/
structure Record where
  lines : List String
  actions : List (Transition × String)
  notices : List Notice
  deriving DecidableEq, Repr

/-- What keeps an action from ending well. -/
inductive ActionFault where
  | unstartable (cause : OsError)
  | badEnd (status : String)
  deriving DecidableEq, Repr

def ActionFault.error (label command : String) : ActionFault → ActionError
  | unstartable cause => .spawn label command cause
  | badEnd status => .failed label command status

namespace Record

def empty : Record := ⟨[], [], []⟩

def addLine (line : String) (r : Record) : Record := { r with lines := r.lines ++ [line] }

def addAction (t : Transition) (command : String) (r : Record) : Record :=
  { r with actions := r.actions ++ [(t, command)] }

def addNotice (n : Notice) (r : Record) : Record := { r with notices := r.notices ++ [n] }

/-- How an action goes whose fault, if any, is known in advance. -/
def outcome (fault : Option ActionFault) (t : Transition) (command : String) : Except ActionError Unit :=
  match fault with
  | none => .ok ()
  | some f => .error (f.error t.label command)

/-- The record as surroundings in which every action goes as `faults` says. -/
def outlet (faults : Transition → Option ActionFault) : Outlet Record where
  broadcast line r := (0, r.addLine line)
  runAction t command r := (outcome (faults t) t command, r.addAction t command)
  notify n r := r.addNotice n

end Record

end KeyFeed.Session
