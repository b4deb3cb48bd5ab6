import KeyFeed.Feed.Endpoint
import KeyFeed.Session.Run
import KeyFeed.Settings.Basic
import KeyFeed.Signals

/-! The supervisor: it opens the adapter and the feed, runs a session, closes both and, after a restart, begins again.
    Each stage is one step, so everything that happens around the supervisor happens between two of them. Whatever
    was opened is closed on every way out, and the adapter gives up the active source only when the program ends. -/

namespace KeyFeed.Supervisor
open Bus Adapter Feed Session

/-- The surroundings of a supervisor: those of a session, the adapter and the feed, over their state `σ`. -/
structure Rig (σ : Type) extends Outlet σ where
  /-- Opens the adapter and gives what it reports at once. -/
  openAdapter : OpenSettings → σ → Except AdapterError (List Notification) × σ
  /-- Closes the adapter, with or without giving up the active source. -/
  closeAdapter : Bool → σ → σ
  setTarget : HdmiAddress → σ → Except AdapterError Unit × σ
  claimSource : σ → Except AdapterError Unit × σ
  openFeed : String → σ → Except SocketError Unit × σ
  closeFeed : σ → σ

/-- Why the program ended before it was asked to. -/
inductive Fault where
  | adapter (cause : AdapterError)
  | feed (cause : SocketError)
  deriving DecidableEq, Repr

def Fault.message : Fault → String
  | .adapter cause => cause.message
  | .feed cause => cause.message

/-- What the supervisor does next. -/
inductive Stage where
  | openingAdapter
  | settingTarget
  | openingFeed
  /-- The feed did not open, so the adapter is closed again. -/
  | retreating (cause : SocketError)
  | startingQueue
  /-- The queue runs, so signals can become commands. -/
  | disarmingSignals
  | announcing
  | claimingSource
  | serving (phase : Phase)
  /-- The queue has stopped, so signals get back their default behaviour. -/
  | rearmingSignals (ended : SessionEnd)
  | closingFeed (ended : SessionEnd)
  | closingAdapter (ended : SessionEnd)
  /-- The program has ended, as it was asked to or by a fault. -/
  | finished (fault : Option Fault)
  deriving DecidableEq, Repr

/-- A supervisor, with what outlives its sessions. -/
structure State where
  options : Options
  station : Station
  /-- Hears the adapter from one opening to the next. -/
  listener : Listener
  /-- Present once signal handlers are installed. -/
  signals : Option SignalBridge
  /-- How many sessions have run or are running. -/
  sessions : Nat
  stage : Stage
  deriving DecidableEq, Repr

namespace State

variable {σ : Type}

/-- A supervisor before its first step. -/
def fresh (options : Options) : State where
  options := options
  station := .fresh options.makeActive options.hooks options.sourceTag
  listener := .fresh
  signals := none
  sessions := 0
  stage := .openingAdapter

def installSignals (s : State) : State := { s with signals := some .installed }

def setSignals (running : Bool) (s : State) : State :=
  { s with signals := s.signals.map (·.setRunning running) }

/-- Hears a notification and offers to the queue what it asks for. -/
def hear (rig : Rig σ) (n : Notification) (s : State) (w : σ) : State × σ :=
  let (station, listener, w) := s.station.deliver rig.toOutlet s.listener n w
  ({ s with station := station, listener := listener }, w)

/-- Hears notifications in their order. -/
def hearAll (rig : Rig σ) : List Notification → State → σ → State × σ
  | [], s, w => (s, w)
  | n :: ns, s, w =>
    let (s, w) := s.hear rig n w
    hearAll rig ns s w

/-- Reports a request that the adapter refused; it changes nothing else. -/
def noteRefusal (rig : Rig σ) (refusal : AdapterError → Notice) (answer : Except AdapterError Unit × σ) : σ :=
  match answer with
  | (.ok (), w) => w
  | (.error e, w) => rig.notify (refusal e) w

/-- Opens the adapter for a listener that has heard nothing yet. -/
def openAdapter (rig : Rig σ) (s : State) (w : σ) : State × σ :=
  match rig.openAdapter s.options.adapter w with
  | (.error e, w) => ({ s with stage := .finished (some (.adapter e)) }, w)
  | (.ok reports, w) =>
    let (s, w) := hearAll rig reports { s with listener := .fresh } w
    ({ s with stage := .settingTarget }, rig.notify (.adapterOpened s.options.adapter.osdName) w)

def setTarget (rig : Rig σ) (s : State) (w : σ) : σ :=
  match s.options.target with
  | none => w
  | some target => noteRefusal rig (.targetRefused target) (rig.setTarget target w)

/-- Becomes the active source, if this device wants to be it. -/
def claimSource (rig : Rig σ) (s : State) (w : σ) : σ :=
  if s.station.wantsActive then noteRefusal rig .claimRefused (rig.claimSource w) else w

/-- One step of the session that is served. -/
def serve (rig : Rig σ) (phase : Phase) (s : State) (w : σ) : State × σ :=
  let run := (⟨phase, s.station, w⟩ : Run σ).advance rig.toOutlet
  let stage := match run.phase with
    | .ended e => .rearmingSignals e
    | phase => .serving phase
  ({ s with station := run.station, stage := stage }, run.world)

/-- Closes the adapter and begins again or ends. -/
def closeAdapter (rig : Rig σ) (ended : SessionEnd) (s : State) (w : σ) : State × σ :=
  match ended with
  | .restart => ({ s with stage := .openingAdapter }, rig.notify .restarting (rig.closeAdapter false w))
  | .exit => ({ s with stage := .finished none }, rig.notify .stopped (rig.closeAdapter true w))

def advance (rig : Rig σ) (s : State) (w : σ) : State × σ :=
  match s.stage with
  | .openingAdapter => s.openAdapter rig w
  | .settingTarget => ({ s with stage := .openingFeed }, s.setTarget rig w)
  | .openingFeed => match rig.openFeed s.options.socketPath w with
    | (.error e, w) => ({ s with stage := .retreating e }, w)
    | (.ok (), w) => ({ s with stage := .startingQueue }, w)
  | .retreating e => ({ s with stage := .finished (some (.feed e)) }, rig.closeAdapter false w)
  | .startingQueue =>
    ({ s with station := { s.station with queue := s.station.queue.start }, stage := .disarmingSignals }, w)
  | .disarmingSignals => ({ s.setSignals true with stage := .announcing }, w)
  | .announcing =>
    ({ s with sessions := s.sessions + 1, stage := .claimingSource },
      rig.notify (.sessionRunning (s.sessions + 1) s.options.socketPath) w)
  | .claimingSource => ({ s with stage := .serving .polling }, s.claimSource rig w)
  | .serving phase => s.serve rig phase w
  | .rearmingSignals ended => ({ s.setSignals false with stage := .closingFeed ended }, w)
  | .closingFeed ended => ({ s with stage := .closingAdapter ended }, rig.closeFeed w)
  | .closingAdapter ended => s.closeAdapter rig ended w
  | .finished _ => (s, w)

/-! ### What others do to it -/

/-- Offers a command to the session; between sessions it is refused. -/
def push (c : Command) (s : State) : Bool × State :=
  let (taken, queue) := s.station.queue.push c
  (taken, { s with station := { s.station with queue := queue } })

/-- Asks for the end of the program. -/
def stop (s : State) : Bool × State := s.push .exit

def restart (s : State) : Bool × State := s.push .restart

/-- A handled signal arrives. With the default behaviour in force it would end the program, which is for the
    system to do. -/
def raise (signal : Signal) (s : State) : State := (s.push signal.command).2

/-- The program lets go of the supervisor. -/
def retire (rig : Rig σ) (s : State) (w : σ) : State × σ :=
  ({ s with station := { s.station with queue := s.station.queue.stop.2 } }, rig.closeAdapter true w)

/-! ### Going on until nothing is left to do -/

def isRunning (s : State) : Bool := s.station.queue.running

def isFinished (s : State) : Bool :=
  match s.stage with
  | .finished _ => true
  | _ => false

/-- The session waits for a command, and none is there. -/
def isIdle (s : State) : Bool := s.stage == .serving .waiting && !s.station.queue.wakes

def advanceUntilIdle (rig : Rig σ) : Nat → State → σ → State × σ
  | 0, s, w => (s, w)
  | fuel + 1, s, w =>
    if s.isIdle || s.isFinished then (s, w)
    else
      let (s, w) := s.advance rig w
      advanceUntilIdle rig fuel s w

/-- More steps than are needed to empty the queue, to end the session and to begin the next one. -/
def enough (s : State) : Nat := 2 * s.station.queue.commands.length + 32

def settle (rig : Rig σ) (s : State) (w : σ) : State × σ := advanceUntilIdle rig s.enough s w

end State

end KeyFeed.Supervisor
