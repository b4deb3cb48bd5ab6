import KeyFeed.Session.Dispatcher

/-! A session in single steps. Each step is one use of the queue or one execution, so everything that others do
    to the queue happens between two steps; `settle` lets the session go on alone until it has nothing to do. -/

namespace KeyFeed.Session

/-- Where the session stands between two steps. -/
inductive Phase where
  /-- About to take a command from the queue. -/
  | polling
  /-- Found no command and waits. -/
  | waiting
  | executing (c : Command)
  /-- Executed a command that ends the session, and has yet to stop the queue. -/
  | ending (e : SessionEnd)
  | ended (e : SessionEnd)
  deriving DecidableEq, Repr

/-- How long a session waits before it looks again whether its queue still runs, in milliseconds. -/
def heartbeat : Nat := 1000

/-- A session with its surroundings. -/
structure Run (σ : Type) where
  phase : Phase
  station : Station
  world : σ

namespace Run

variable {σ : Type}

def begin (st : Station) (w : σ) : Run σ := ⟨.polling, st, w⟩

def advance (out : Outlet σ) (r : Run σ) : Run σ :=
  match r.phase with
  | .polling => match r.station.queue.pop with
    | (some c, q) => { r with phase := .executing c, station := { r.station with queue := q } }
    | (none, _) => { r with phase := .waiting }
  | .waiting =>
    if r.station.queue.running then { r with phase := .polling }
    else { r with phase := .ended .exit, world := out.notify .queueStopped r.world }
  | .executing c =>
    let (st, w) := r.station.execute out r.world c
    ⟨match c.ending? with
      | some e => .ending e
      | none => .polling, st, w⟩
  | .ending e =>
    { r with phase := .ended e, station := { r.station with queue := r.station.queue.stop.2 } }
  | .ended _ => r

/-- The session waits for a command, and none is there, and no one has stopped the queue. -/
def isIdle (r : Run σ) : Bool := r.phase == .waiting && !r.station.queue.wakes

def isOver (r : Run σ) : Bool :=
  match r.phase with
  | .ended _ => true
  | _ => false

/-- The session is at the end of what was queued, or a command has ended it. -/
def isDrained (r : Run σ) : Bool :=
  match r.phase with
  | .waiting | .ending _ | .ended _ => true
  | _ => false

/-- At most `fuel` steps, and none once `done` holds. -/
def advanceUntil (out : Outlet σ) (done : Run σ → Bool) : Nat → Run σ → Run σ
  | 0, r => r
  | fuel + 1, r => if done r then r else advanceUntil out done fuel (r.advance out)

/-- More steps than a session can take alone: two for each queued command and a few to find that there is none. -/
def enough (r : Run σ) : Nat := 2 * r.station.queue.commands.length + 6

/-- Goes on until nothing is left to do. -/
def settle (out : Outlet σ) (r : Run σ) : Run σ :=
  advanceUntil out (fun r => r.isIdle || r.isOver) r.enough r

/-- Executes what is queued, up to a command that ends the session; the queue goes on running. -/
def drain (out : Outlet σ) (r : Run σ) : Run σ := advanceUntil out isDrained r.enough r

/-- Others offer a command while the session runs. -/
def push (c : Command) (r : Run σ) : Run σ :=
  { r with station := { r.station with queue := (r.station.queue.push c).2 } }

/-- Someone outside stops the queue. -/
def stopQueue (r : Run σ) : Run σ :=
  { r with station := { r.station with queue := r.station.queue.stop.2 } }

/-- The end of the session, or that of the command which has just ended it. -/
def end? (r : Run σ) : Option SessionEnd :=
  match r.phase with
  | .ending e | .ended e => some e
  | _ => none

end Run

end KeyFeed.Session
