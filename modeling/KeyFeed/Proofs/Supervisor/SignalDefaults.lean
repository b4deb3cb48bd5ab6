import KeyFeed.Proofs.Supervisor.Shutdown

/-! What becomes of a signal that arrives between two steps of a supervisor. While the default behaviour is in force it ends
    the program; otherwise it becomes a command, and the queue takes it if it runs. A `Watch` notes whether anyone has stopped
    the queue since it was started last. If no one has, the queue runs whenever the defaults are disarmed, with one exception:
    a session stops its queue when it ends, and the defaults are armed again one step later. A signal that arrives at that
    point is lost. -/

namespace KeyFeed.Supervisor
open Bus Adapter Feed Session Command

variable {σ : Type}

/-- The only stage with disarmed defaults at which the queue is not meant to run. -/
theorem Stage.isQuiet_iff {stage : Stage} (h : stage.isArmed = false) :
    stage.isQuiet = true ↔ ∃ e, stage = .rearmingSignals e := by
  cases stage with
  | rearmingSignals e => exact iff_of_true rfl ⟨e, rfl⟩
  | announcing | claimingSource | serving => exact iff_of_false Bool.false_ne_true (by simp)
  | _ => cases h

namespace State

/-- Handlers that are installed are disarmed from the same stage on in every session, and up to the same. -/
theorem signals_advance (rig : Rig σ) {s : State} (w : σ) (h : s.signals = some ⟨s.stage.isArmed⟩)
    (hquiet : s.stage.isQuiet = true → s.station.queue = .stopped) :
    (s.advance rig w).1.signals = some ⟨(s.advance rig w).1.stage.isArmed⟩ := by
  obtain ⟨options, station, listener, signals, sessions, stage⟩ := s
  cases stage with
  | openingAdapter =>
    have hq : station.queue = .stopped := hquiet rfl
    simp only [advance, openAdapter]
    rcases rig.openAdapter options.adapter w with ⟨e | reports, w'⟩
    · exact h
    · obtain ⟨-, hsignals, -⟩ := hearAll_frame rig reports
        ⟨options, station, .fresh, signals, sessions, .openingAdapter⟩ w' (by simp [hq, Queue.stopped])
      exact hsignals.trans h
  | openingFeed =>
    simp only [advance]
    rcases rig.openFeed options.socketPath w with ⟨_ | _, _⟩ <;> exact h
  | serving phase =>
    simp only [advance, serve]
    split <;> exact h
  | disarmingSignals =>
    obtain rfl : signals = some ⟨true⟩ := h
    rfl
  | rearmingSignals e =>
    obtain rfl : signals = some ⟨false⟩ := h
    rfl
  | closingAdapter e => cases e <;> exact h
  | settingTarget | retreating | startingQueue | announcing | claimingSource | closingFeed | finished => exact h

/-- Apart from its start, a queue that runs after a step ran before it, and it is stopped only at the end of a session. -/
theorem isRunning_advance (rig : Rig σ) {s : State} (w : σ) (hstart : s.stage ≠ .startingQueue)
    (hloud : (s.advance rig w).1.stage.isQuiet = false) :
    s.stage.isQuiet = false ∧ (s.advance rig w).1.isRunning = s.isRunning := by
  have hquiet := s.isQuiet_eq_false_of_advance rig w hstart hloud
  refine ⟨hquiet, ?_⟩
  obtain ⟨options, station, listener, signals, sessions, stage⟩ := s
  cases stage with
  | disarmingSignals | announcing | claimingSource => rfl
  | serving phase =>
    have hstep := (⟨phase, station, w⟩ : Run σ).advance_step rig.toOutlet
    simp only [advance, serve] at hloud ⊢
    generalize (⟨phase, station, w⟩ : Run σ).advance rig.toOutlet = r at hstep hloud ⊢
    cases hstep with
    | take hq => simp [isRunning, hq]
    | miss | wake | finish => rfl
    | execute => simp [isRunning]
    | leave | stop | rest => cases hloud
  | _ => cases hquiet

/-- A signal is taken by a queue that runs, and otherwise it is gone. -/
theorem raise_eq (s : State) (signal : Signal) : s.raise signal =
    if s.isRunning then { s with station := s.station.withQueue ⟨true, s.station.queue.commands ++ [signal.command]⟩ }
    else s := by
  have hraise : s.raise signal = { s with station := s.station.withQueue (s.station.queue.push signal.command).2 } := rfl
  rw [hraise]
  cases hr : s.isRunning with
  | true => rw [Queue.push_running hr]; rfl
  | false => rw [Queue.push_stopped hr]; rfl

end State

/-- A course, and whether someone has stopped the queue since it was started last. -/
structure Watch (σ : Type) where
  course : Course σ
  interrupted : Bool

namespace Watch

def begin (s : State) (w : σ) : Watch σ := ⟨.begin s w, false⟩

def move (rig : Rig σ) (m : Move σ) (v : Watch σ) : Watch σ where
  course := v.course.move rig m
  interrupted := match m with
    | .advance => v.interrupted && v.course.state.stage != .startingQueue
    | .stopQueue => true
    | .push _ | .raise _ | .hear _ | .change _ => v.interrupted

/-- Makes the moves one after another. -/
def play (rig : Rig σ) (moves : List (Move σ)) (v : Watch σ) : Watch σ := moves.foldl (fun v m => v.move rig m) v

@[simp] theorem play_cons (rig : Rig σ) (m : Move σ) (moves : List (Move σ)) (v : Watch σ) :
    v.play rig (m :: moves) = (v.move rig m).play rig moves := rfl

/-- The handlers and the queue are as the stage wants them, but for a queue that was stopped from outside. -/
structure Sound (v : Watch σ) : Prop where
  orderly : v.course.Orderly True
  signals : v.course.state.signals = some ⟨v.course.state.stage.isArmed⟩
  running : v.course.state.isRunning = (!v.course.state.stage.isQuiet && !v.interrupted)

variable {rig : Rig σ} {v : Watch σ}

theorem sound_begin {s : State} (hs : s.AtRest) (hsignals : s.signals = some .installed) (w : σ) : (begin s w).Sound where
  orderly := Course.orderly_begin hs w
  signals := by
    rw [show (begin s w).course.state = s from rfl, hsignals, hs.stage]
    rfl
  running := by
    rw [show (begin s w).course.state = s from rfl, State.isRunning, hs.queue, hs.stage]
    rfl

theorem Sound.advance (h : v.Sound) : (v.move rig .advance).Sound := by
  have horderly : (v.move rig .advance).course.Orderly True := h.orderly.play [.advance] fun _ => trivial
  have hstate : (v.move rig .advance).course.state = (v.course.state.advance rig v.course.world).1 :=
    congrArg Course.state (Course.advance_eq rig v.course)
  refine ⟨horderly, ?_, ?_⟩
  · rw [hstate]
    exact State.signals_advance rig _ h.signals h.orderly.quiet
  · cases hquiet : (v.move rig .advance).course.state.stage.isQuiet with
    | true => rw [State.isRunning, horderly.quiet hquiet]; rfl
    | false =>
      rw [hstate] at hquiet ⊢
      by_cases hstart : v.course.state.stage = .startingQueue
      · simp [State.advance, State.isRunning, Queue.start, move, hstart]
      · obtain ⟨hloud, hrun⟩ := State.isRunning_advance rig v.course.world hstart hquiet
        rw [hrun, h.running, hloud]
        simp [move, hstart]

theorem Sound.others (h : v.Sound) {m : Move σ} (hm : m.isAdvance = false) : (v.move rig m).Sound := by
  have horderly : (v.move rig m).course.Orderly True := h.orderly.play [m] fun _ => trivial
  obtain ⟨-, hstage, -⟩ := Course.move_others rig v.course hm
  obtain ⟨hsignals, -⟩ := Course.frame_others rig v.course hm
  refine ⟨horderly, ?_, ?_⟩
  · rw [show (v.move rig m).course = v.course.move rig m from rfl, hsignals, hstage]
    exact h.signals
  · cases m with
    | advance => cases hm
    | push | raise => exact (Queue.running_push _ _).trans h.running
    | hear n =>
      obtain ⟨-, -, -, hst⟩ := State.hear_frame rig n v.course.state v.course.world
      have hrun : (v.course.state.hear rig n v.course.world).1.isRunning = v.course.state.isRunning := by
        rcases hst with hst | ⟨d, hst⟩
        · rw [State.isRunning, hst]; rfl
        · rw [State.isRunning, hst]; exact Queue.running_push _ _
      exact hrun.trans h.running
    | stopQueue => simp [move, Course.move, State.isRunning, Queue.stop]
    | change => exact h.running

theorem Sound.play (h : v.Sound) (moves : List (Move σ)) : (v.play rig moves).Sound := by
  induction moves generalizing v with
  | nil => exact h
  | cons m moves ih =>
    rw [play_cons]
    refine ih ?_
    cases hm : m.isAdvance with
    | false => exact h.others hm
    | true =>
      obtain rfl := Move.eq_advance hm
      exact h.advance

/-- From the installation of the handlers on, whatever the surroundings answer and others do. The defaults are disarmed from
    one fixed stage of a session to another. While they are, the queue runs just when no one has stopped it from outside
    since its start and the session has not ended: then it takes every signal. At the end of a session the queue is stopped
    before the defaults are in force again. A signal at that point is lost, and the next step is the one that arms them. -/
theorem running_of_disarmed (rig : Rig σ) (options : Options) (w : σ) (moves : List (Move σ)) :
    let v := (begin (State.fresh options).installSignals w).play rig moves
    let s := v.course.state
    s.signals = some ⟨s.stage.isArmed⟩ ∧
    (s.signals = some ⟨false⟩ →
      (s.isRunning = true ↔ v.interrupted = false ∧ ∀ e, s.stage ≠ .rearmingSignals e)) ∧
    (∀ signal, (s.push signal.command).1 = s.isRunning ∧ s.raise signal =
      if s.isRunning then { s with station := s.station.withQueue ⟨true, s.station.queue.commands ++ [signal.command]⟩ }
      else s) ∧
    ∀ e, s.stage = .rearmingSignals e →
      (∀ signal, s.raise signal = s) ∧ (s.advance rig v.course.world).1.signals = some ⟨true⟩ := by
  intro v s
  have h : v.Sound := (sound_begin (State.atRest_fresh options).installSignals rfl w).play moves
  have hrunning : s.isRunning = (!s.stage.isQuiet && !v.interrupted) := h.running
  refine ⟨h.signals, fun hdisarmed => ?_, fun signal => ⟨Queue.accepted_push _ _, s.raise_eq signal⟩, fun e he => ?_⟩
  · have hunarmed : s.stage.isArmed = false := by simpa using h.signals.symm.trans hdisarmed
    have hloud : s.stage.isQuiet = false ↔ ∀ e, s.stage ≠ .rearmingSignals e := by
      rw [← Bool.not_eq_true, Stage.isQuiet_iff hunarmed, not_exists]
    rw [hrunning, Bool.and_eq_true, Bool.not_eq_true', Bool.not_eq_true', hloud, and_comm]
  · have hlost : s.isRunning = false := by
      rw [hrunning, he]
      rfl
    refine ⟨fun signal => by simp [State.raise_eq, hlost], ?_⟩
    rw [State.signals_advance rig v.course.world h.signals h.orderly.quiet]
    simp [State.advance, show v.course.state.stage = .rearmingSignals e from he, Stage.isArmed]

/-- While the first session waits for a command, it would take any signal. -/
theorem running_of_disarmed_waiting :
    let s := (State.fresh ⟨"/run/feed", ⟨none, "box"⟩, true, none, .unset, "tag"⟩).installSignals
    let s' := ((begin s .fresh).play .loopback (List.replicate 8 Move.advance)).course.state
    s'.signals = some ⟨false⟩ ∧ ∀ signal : Signal, (s'.push signal.command).1 = true := by
  intro s s'
  obtain ⟨-, hrunning, htaken, -⟩ := running_of_disarmed .loopback s.options .fresh (List.replicate 8 Move.advance)
  have hdisarmed : s'.signals = some ⟨false⟩ := by decide
  have hrun : s'.isRunning = true := (hrunning hdisarmed).mpr ⟨by decide, fun e he => by cases he⟩
  exact ⟨hdisarmed, fun signal => (htaken signal).1.trans hrun⟩

/-- At the end of a session a termination is lost: the supervisor begins the next session, as if no one had asked it to
    end. -/
theorem signal_lost_at_end_of_session :
    let s := (State.fresh ⟨"/run/feed", ⟨none, "box"⟩, true, none, .unset, "tag"⟩).installSignals
    let v := (begin s .fresh).play .loopback
      (List.replicate 8 Move.advance ++ [.push .restart] ++ List.replicate 4 .advance)
    let v' := v.play .loopback (.raise .terminate :: List.replicate 11 Move.advance)
    v.course.state.signals = some ⟨false⟩ ∧ v.course.state.isRunning = false ∧ v.interrupted = false ∧
      v'.course.log.countP Event.opens = 2 ∧ v'.course.state.isIdle = true := by
  decide

end Watch

end KeyFeed.Supervisor
