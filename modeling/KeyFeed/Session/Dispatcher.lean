import KeyFeed.Command.Queue
import KeyFeed.Session.Emitter
import KeyFeed.Session.Listener

/-! The execution of commands. A `Station` holds what outlives a session; its surroundings, where lines go and
    actions run, are an `Outlet` over any state, so nothing here depends on how they behave. -/

namespace KeyFeed.Session
open Bus Feed Key

/-- The surroundings of an execution, over their state `σ`. -/
structure Outlet (σ : Type) where
  /-- Sends a line to everyone and says how many received it. -/
  broadcast : String → σ → Nat × σ
  /-- Runs the command of a transition to its end. -/
  runAction : Transition → String → σ → Except ActionError Unit × σ
  notify : Notice → σ → σ

/-- The queue, whether this device wants to be the active source, the commands of the user, and the emitter. -/
structure Station where
  queue : Queue
  wantsActive : Bool
  hooks : Hooks
  emitter : Emitter
  deriving DecidableEq, Repr

namespace Station

variable {σ : Type}

/-- A station before its first session. -/
def fresh (wantsActive : Bool) (hooks : Hooks) (tag : String) : Station :=
  ⟨.stopped, wantsActive, hooks, .fresh tag⟩

def broadcastLines (out : Outlet σ) (lines : List Line) (w : σ) : σ :=
  lines.foldl (fun w line => (out.broadcast line.text w).2) w

/-- Runs the command of a transition, if it has one. A failure is reported and changes nothing else. -/
def runHook (out : Outlet σ) (st : Station) (t : Transition) (w : σ) : σ :=
  match st.hooks.get? t with
  | none => w
  | some command => match out.runAction t command w with
    | (.ok (), w) => w
    | (.error e, w) => out.notify (.actionFailed e) w

/-- Executes one command. The queue plays no part in it. -/
def execute (out : Outlet σ) (st : Station) (w : σ) : Command → Station × σ
  | .standby => match st.hooks.onStandby with
    | some _ => (st, st.runHook out .standby w)
    | none =>
      let emission := st.emitter.pressAndRelease .power
      ({ st with emitter := emission.emitter }, broadcastLines out emission.lines w)
  | .activate => ({ st with wantsActive := true }, st.runHook out .activate w)
  | .inactive => ({ st with wantsActive := false }, st.runHook out .deactivate w)
  | .keyPress code => match st.emitter.press code with
    | .ok emission => ({ st with emitter := emission.emitter }, broadcastLines out emission.lines w)
    | .error e => (st, out.notify (.keyDropped e) w)
  | .restart | .exit => (st, w)

/-- Hands a notification to the listener and offers to the queue what it asks for. -/
def deliver (out : Outlet σ) (st : Station) (l : Listener) (n : Notification) (w : σ) : Station × Listener × σ :=
  let heard := l.hear st.wantsActive n
  let w := heard.notices.foldl (fun w n => out.notify n w) w
  match heard.command with
  | none => (st, heard.listener, w)
  | some c => ({ st with queue := (st.queue.push c).2 }, heard.listener, w)

end Station

end KeyFeed.Session
