import KeyFeed.Proofs.Session.Recording
import KeyFeed.Supervisor.Basic
import Mathlib.Data.List.Basic

/-! The course of a supervisor among others. Between two of its steps anyone may push commands, raise signals, stop the
    queue or change the world, and the adapter may report what it likes. A `Course` keeps a log of what the supervisor
    asks of its surroundings with their answers, of the start of the queue and of the executed commands. The surroundings
    write their part of the log themselves, and the supervisor does beside the log what it does without (`advance_watched`). -/

namespace KeyFeed.Supervisor
open Bus Adapter Feed Session

/-- What an adapter says to a request. -/
abbrev Answer := Except AdapterError Unit

/-- What the log holds. -/
inductive Event where
  | adapterOpened (answer : Answer)
  | targetSet (answer : Answer)
  | feedOpened (answer : Except SocketError Unit)
  | queueStarted
  | sourceClaimed (answer : Answer)
  | executed (c : Command)
  /-- The session is over, and why. -/
  | ended (e : SessionEnd)
  | feedClosed
  | adapterClosed (makeInactive : Bool)
  deriving DecidableEq, Repr

variable {σ : Type}

/-- The same surroundings with a log of what they are asked to open, to set and to close. -/
def Rig.watched (rig : Rig σ) : Rig (σ × List Event) where
  toOutlet := rig.toOutlet.recording fun _ log => log
  openAdapter settings p :=
    let (answer, w) := rig.openAdapter settings p.1
    (answer, w, p.2 ++ [.adapterOpened (answer.map fun _ => ())])
  closeAdapter inactive p := (rig.closeAdapter inactive p.1, p.2 ++ [.adapterClosed inactive])
  setTarget target p :=
    let (answer, w) := rig.setTarget target p.1
    (answer, w, p.2 ++ [.targetSet answer])
  claimSource p :=
    let (answer, w) := rig.claimSource p.1
    (answer, w, p.2 ++ [.sourceClaimed answer])
  openFeed path p :=
    let (answer, w) := rig.openFeed path p.1
    (answer, w, p.2 ++ [.feedOpened answer])
  closeFeed p := (rig.closeFeed p.1, p.2 ++ [.feedClosed])

namespace State

/-- What a step from one state to another shows besides its requests. -/
def changes (s s' : State) : List Event :=
  match s.stage, s'.stage with
  | .serving (.executing c), _ => [.executed c]
  | .serving _, .rearmingSignals e => [.ended e]
  | _, _ => if !s.isRunning && s'.isRunning then [.queueStarted] else []

/-- The requests of the next step, with the answers that they get. -/
def requests (rig : Rig σ) (s : State) (w : σ) : List Event :=
  match s.stage with
  | .openingAdapter => [.adapterOpened ((rig.openAdapter s.options.adapter w).1.map fun _ => ())]
  | .settingTarget => (s.options.target.map fun target => Event.targetSet (rig.setTarget target w).1).toList
  | .openingFeed => [.feedOpened (rig.openFeed s.options.socketPath w).1]
  | .retreating _ => [.adapterClosed false]
  | .claimingSource => if s.station.wantsActive then [.sourceClaimed (rig.claimSource w).1] else []
  | .closingFeed _ => [.feedClosed]
  | .closingAdapter ended => [.adapterClosed (ended == .exit)]
  | _ => []

/-! ### What others leave alone -/

/-- What a notification can do to a supervisor: it may put a command into the queue, and nothing else is touched that
    the supervisor goes by. -/
theorem hear_frame (rig : Rig σ) (n : Notification) (s : State) (w : σ) :
    (s.hear rig n w).1.stage = s.stage ∧ (s.hear rig n w).1.signals = s.signals ∧
      (s.hear rig n w).1.options = s.options ∧
      ((s.hear rig n w).1.station = s.station ∨
        ∃ c, (s.hear rig n w).1.station = s.station.withQueue (s.station.queue.push c).2) := by
  refine ⟨rfl, rfl, rfl, ?_⟩
  simp only [hear, Station.deliver]
  cases (s.listener.hear s.station.wantsActive n).command with
  | none => exact Or.inl rfl
  | some c => exact Or.inr ⟨c, rfl⟩

/-- While the queue is stopped, notifications change only what the listener knows. -/
theorem hearAll_frame (rig : Rig σ) (ns : List Notification) (s : State) (w : σ)
    (hq : s.station.queue.running = false) :
    (hearAll rig ns s w).1.stage = s.stage ∧ (hearAll rig ns s w).1.signals = s.signals ∧
      (hearAll rig ns s w).1.station = s.station := by
  induction ns generalizing s w with
  | nil => exact ⟨rfl, rfl, rfl⟩
  | cons n ns ih =>
    obtain ⟨hstage, hsignals, -, hst⟩ := hear_frame rig n s w
    have hst : (s.hear rig n w).1.station = s.station := by
      rcases hst with hst | ⟨c, hst⟩
      · exact hst
      · rw [hst, Queue.push_stopped hq]
        rfl
    have ih := ih (s.hear rig n w).1 (s.hear rig n w).2 (hst ▸ hq)
    rw [hstage, hsignals, hst] at ih
    exact ih

/-! ### Beside the log -/

variable (rig : Rig σ) (s : State) (w : σ) (log : List Event)

theorem hear_watched (n : Notification) :
    s.hear rig.watched n (w, log) = ((s.hear rig n w).1, (s.hear rig n w).2, log) := by
  simp only [hear, Rig.watched, Station.deliver_recording]

theorem hearAll_watched (ns : List Notification) :
    hearAll rig.watched ns s (w, log) = ((hearAll rig ns s w).1, (hearAll rig ns s w).2, log) := by
  induction ns generalizing s w with
  | nil => rfl
  | cons n ns ih =>
    simp only [hearAll, hear_watched]
    exact ih _ _

theorem noteRefusal_watched (refusal : AdapterError → Notice) (answer : Answer) :
    noteRefusal rig.watched refusal (answer, w, log) = (noteRefusal rig refusal (answer, w), log) := by
  cases answer <;> rfl

/-- The supervisor does beside the log what it does without, and the log grows by its requests. -/
theorem advance_watched :
    s.advance rig.watched (w, log) = ((s.advance rig w).1, (s.advance rig w).2, log ++ s.requests rig w) := by
  obtain ⟨options, station, listener, signals, sessions, stage⟩ := s
  cases stage with
  | openingAdapter =>
    have hw : rig.watched.openAdapter options.adapter (w, log) = ((rig.openAdapter options.adapter w).1,
      (rig.openAdapter options.adapter w).2,
      log ++ [.adapterOpened ((rig.openAdapter options.adapter w).1.map fun _ => ())]) := rfl
    simp only [advance, openAdapter, requests, hw]
    rcases rig.openAdapter options.adapter w with ⟨_ | reports, w'⟩
    · rfl
    · simp only [hearAll_watched]
      rfl
  | settingTarget =>
    simp only [advance, setTarget, requests]
    cases options.target with
    | none => simp
    | some target =>
      have hw : rig.watched.setTarget target (w, log) = ((rig.setTarget target w).1, (rig.setTarget target w).2,
        log ++ [.targetSet (rig.setTarget target w).1]) := rfl
      simp only [hw, noteRefusal_watched]
      rfl
  | openingFeed =>
    have hw : rig.watched.openFeed options.socketPath (w, log) = ((rig.openFeed options.socketPath w).1,
      (rig.openFeed options.socketPath w).2, log ++ [.feedOpened (rig.openFeed options.socketPath w).1]) := rfl
    simp only [advance, requests, hw]
    rcases rig.openFeed options.socketPath w with ⟨_ | _, w'⟩ <;> rfl
  | claimingSource =>
    simp only [advance, claimSource, requests]
    cases station.wantsActive with
    | false => simp
    | true =>
      have hw : rig.watched.claimSource (w, log) = ((rig.claimSource w).1, (rig.claimSource w).2,
        log ++ [.sourceClaimed (rig.claimSource w).1]) := rfl
      simp only [ite_true, hw, noteRefusal_watched]
  | serving phase =>
    have hr := Run.advance_recording rig.toOutlet (fun _ (l : List Event) => l) phase station w log
    simp only [List.foldl_fixed] at hr
    simp only [advance, serve, requests, List.append_nil]
    rw [show rig.watched.toOutlet = rig.toOutlet.recording fun _ log => log from rfl, hr]
  | closingAdapter ended => cases ended <;> rfl
  | announcing =>
    simp only [advance, requests, List.append_nil]
    rfl
  | startingQueue | disarmingSignals | rearmingSignals | finished => simp only [advance, requests, List.append_nil]
  | retreating | closingFeed => rfl

end State

/-! ### Courses -/

/-- A step of the supervisor, or what someone else does between two of them. -/
inductive Move (σ : Type) where
  | advance
  | push (c : Command)
  | raise (signal : Signal)
  /-- The adapter reports something. -/
  | hear (n : Notification)
  /-- Someone outside stops the queue. -/
  | stopQueue
  /-- The world changes by itself. -/
  | change (f : σ → σ)

/-- A supervisor in its world, and the log so far. -/
structure Course (σ : Type) where
  state : State
  world : σ
  log : List Event

namespace Course

def begin (s : State) (w : σ) : Course σ := ⟨s, w, []⟩

def advance (rig : Rig σ) (c : Course σ) : Course σ :=
  let (s, w, log) := c.state.advance rig.watched (c.world, c.log)
  ⟨s, w, log ++ c.state.changes s⟩

def move (rig : Rig σ) : Move σ → Course σ → Course σ
  | .advance, c => c.advance rig
  | .push command, c => { c with state := (c.state.push command).2 }
  | .raise signal, c => { c with state := c.state.raise signal }
  | .hear n, c =>
    let (s, w) := c.state.hear rig n c.world
    { c with state := s, world := w }
  | .stopQueue, c =>
    { c with state := { c.state with station := c.state.station.withQueue c.state.station.queue.stop.2 } }
  | .change f, c => { c with world := f c.world }

/-- Makes the moves one after another. -/
def play (rig : Rig σ) (moves : List (Move σ)) (c : Course σ) : Course σ := moves.foldl (fun c m => c.move rig m) c

@[simp] theorem play_nil (rig : Rig σ) (c : Course σ) : c.play rig [] = c := rfl

@[simp] theorem play_cons (rig : Rig σ) (m : Move σ) (moves : List (Move σ)) (c : Course σ) :
    c.play rig (m :: moves) = (c.move rig m).play rig moves := rfl

/-- One step of a course, with the supervisor as it is without the log. -/
theorem advance_eq (rig : Rig σ) (c : Course σ) :
    c.advance rig = ⟨(c.state.advance rig c.world).1, (c.state.advance rig c.world).2,
      c.log ++ c.state.requests rig c.world ++ c.state.changes (c.state.advance rig c.world).1⟩ := by
  simp only [advance, State.advance_watched]

end Course

end KeyFeed.Supervisor
