import KeyFeed.Proofs.Supervisor.Leaving

/-! Shutting down. An `Intake` notes which commands the queue took since it was started last. Once it has taken an exit, and
    no restart before it, this session is the last: whatever others do, the supervisor leaves. Behind a restart an exit is
    thrown away with the rest of the queue. -/

namespace KeyFeed.Supervisor
open Bus Adapter Feed Session Command

variable {σ : Type}

/-! ### What the queue has taken -/

/-- Only the start of the queue leads to the stages at which it may run. -/
theorem State.isQuiet_eq_false_of_advance (rig : Rig σ) (s : State) (w : σ) (hstart : s.stage ≠ .startingQueue)
    (hloud : (s.advance rig w).1.stage.isQuiet = false) : s.stage.isQuiet = false := by
  obtain ⟨options, station, listener, signals, sessions, stage⟩ := s
  cases stage with
  | startingQueue => exact absurd rfl hstart
  | settingTarget | retreating | rearmingSignals | closingFeed | finished => cases hloud
  | openingAdapter =>
    simp only [advance, openAdapter] at hloud
    split at hloud <;> cases hloud
  | openingFeed =>
    simp only [advance] at hloud
    split at hloud <;> cases hloud
  | closingAdapter e => cases e <;> cases hloud
  | disarmingSignals | announcing | claimingSource | serving => rfl

/-- A step executes and ends a session only as the commands ask that were pending before it. -/
theorem State.pending_advance (rig : Rig σ) {s : State} (w : σ) (hstart : s.stage ≠ .startingQueue)
    (hquiet : (s.advance rig w).1.stage.isQuiet = true → (s.advance rig w).1.station.queue = .stopped)
    (hr : (s.advance rig w).1.isRunning = true) :
    s.isRunning = true ∧ (∀ c ∈ (s.advance rig w).1.pending, c ∈ s.pending) ∧
      ∀ e, (s.advance rig w).1.stage = .serving (.ending e) → ∃ c ∈ s.pending, c.ending? = some e := by
  have hloud : (s.advance rig w).1.stage.isQuiet = false := by
    cases hq : (s.advance rig w).1.stage.isQuiet with
    | false => rfl
    | true =>
      rw [State.isRunning, hquiet hq] at hr
      cases hr
  have hbefore := s.isQuiet_eq_false_of_advance rig w hstart hloud
  clear hquiet
  obtain ⟨options, station, listener, signals, sessions, stage⟩ := s
  cases stage with
  | disarmingSignals | announcing | claimingSource => exact ⟨hr, fun c hc => hc, fun e he => by cases he⟩
  | serving phase =>
    have hstep := (⟨phase, station, w⟩ : Run σ).advance_step rig.toOutlet
    simp only [advance, serve] at hr hloud ⊢
    generalize (⟨phase, station, w⟩ : Run σ).advance rig.toOutlet = r at hstep hr hloud ⊢
    cases hstep with
    | take hq => exact ⟨by simp [isRunning, hq], by simp [pending, current, Phase.current, hq], fun e he => by cases he⟩
    | miss | wake => exact ⟨hr, fun c hc => hc, fun e he => by cases he⟩
    | execute =>
      refine ⟨by simpa [isRunning] using hr, fun c hc => List.mem_append_right _ ?_, fun e he => by cases he⟩
      simpa [pending, current, Phase.current] using hc
    | @finish _ _ c e hc =>
      refine ⟨hr, fun c hc => List.mem_append_right _ hc, fun e' he => ⟨c, List.mem_cons_self, ?_⟩⟩
      obtain rfl : e = e' := by simpa using he
      exact hc
    | leave | stop | rest => cases hloud
  | _ => cases hbefore

/-- A course, with the commands that the queue took since it was started last. -/
structure Intake (σ : Type) where
  course : Course σ
  taken : List Command

namespace Intake

def begin (s : State) (w : σ) : Intake σ := ⟨.begin s w, []⟩

def move (rig : Rig σ) (m : Move σ) (i : Intake σ) : Intake σ where
  course := i.course.move rig m
  taken :=
    if m.isAdvance && i.course.state.stage == .startingQueue then []
    else i.taken ++ ((m.offered i.course.state).filter fun c => (i.course.state.push c).1).toList

/-- Makes the moves one after another. -/
def play (rig : Rig σ) (moves : List (Move σ)) (i : Intake σ) : Intake σ := moves.foldl (fun i m => i.move rig m) i

@[simp] theorem play_cons (rig : Rig σ) (m : Move σ) (moves : List (Move σ)) (i : Intake σ) :
    i.play rig (m :: moves) = (i.move rig m).play rig moves := rfl

/-- Nothing that is about to happen in a session was not asked for in that session. -/
structure Sound (i : Intake σ) : Prop where
  orderly : i.course.Orderly True
  pending : i.course.state.isRunning = true → ∀ c ∈ i.course.state.pending, c ∈ i.taken
  ending : ∀ e, i.course.state.stage = .serving (.ending e) → i.course.state.isRunning = true →
    ∃ c ∈ i.taken, c.ending? = some e

variable {rig : Rig σ} {i : Intake σ}

theorem sound_begin {s : State} (hs : s.AtRest) (w : σ) : (begin s w).Sound where
  orderly := Course.orderly_begin hs w
  pending hr := by
    have : s.isRunning = true := hr
    simp [State.isRunning, hs.queue, Queue.stopped] at this
  ending e he := by
    have : s.stage = .serving (.ending e) := he
    rw [hs.stage] at this
    cases this

theorem Sound.others (h : i.Sound) {m : Move σ} (hm : m.isAdvance = false) : (i.move rig m).Sound := by
  have horderly : (i.course.move rig m).Orderly True := h.orderly.play [m] fun _ => trivial
  obtain ⟨-, hstage, hqueue⟩ := Course.move_others rig i.course hm
  have hcurrent := State.current_eq hstage
  have htaken : (i.move rig m).taken =
      i.taken ++ ((m.offered i.course.state).filter fun c => (i.course.state.push c).1).toList := by
    simp [move, hm]
  -- A queue that runs after the move has run before it, and has taken what was offered.
  have hkeep (hr : (i.course.move rig m).state.isRunning = true) : i.course.state.isRunning = true ∧
      ∀ c ∈ (i.course.move rig m).state.pending, c ∈ i.course.state.pending ∨ c ∈ (i.move rig m).taken := by
    rw [htaken]
    cases ho : m.offered i.course.state with
    | none =>
      rw [ho] at hqueue
      rcases hqueue with hq | hq
      · have hsame : (i.course.move rig m).state.pending = i.course.state.pending := by
          rw [State.pending, State.pending, hcurrent, hq]
        rw [State.isRunning, hq] at hr
        exact ⟨hr, fun c hc => Or.inl (hsame ▸ hc)⟩
      · rw [State.isRunning, hq] at hr
        cases hr
    | some d =>
      rw [ho] at hqueue
      have hrun : i.course.state.isRunning = true := by
        rwa [State.isRunning, hqueue, Queue.running_push] at hr
      have haccepted : (i.course.state.push d).1 = true := (Queue.accepted_push _ d).trans hrun
      refine ⟨hrun, fun c hc => ?_⟩
      rw [State.pending, hcurrent, hqueue, Queue.push_running hrun] at hc
      simp only [Option.filter_some, haccepted, if_true]
      have hc : c ∈ i.course.state.pending ∨ c = d := by simpa [State.pending, or_assoc] using hc
      exact hc.imp id fun hd => by simp [hd]
  have hmono : ∀ c ∈ i.taken, c ∈ (i.move rig m).taken := fun c hc => by
    rw [htaken]
    exact List.mem_append_left _ hc
  refine ⟨horderly, fun hr c hc => ?_, fun e he hr => ?_⟩
  · obtain ⟨hrun, hp⟩ := hkeep hr
    exact (hp c hc).elim (fun hc => hmono c (h.pending hrun c hc)) id
  · obtain ⟨c, hc, hce⟩ := h.ending e (hstage ▸ he) (hkeep hr).1
    exact ⟨c, hmono c hc, hce⟩

theorem Sound.advance (h : i.Sound) : (i.move rig .advance).Sound := by
  have horderly : (i.course.move rig .advance).Orderly True := h.orderly.play [.advance] fun _ => trivial
  have hcourse : i.course.move rig .advance = _ := Course.advance_eq rig i.course
  by_cases hstart : i.course.state.stage = .startingQueue
  · have hstate : (i.course.move rig .advance).state.stage = .disarmingSignals ∧
        (i.course.move rig .advance).state.station.queue = ⟨true, []⟩ := by
      rw [hcourse]
      simp [State.advance, hstart, Queue.start]
    refine ⟨horderly, fun _ c hc => ?_, fun e he => ?_⟩
    · simp [move, State.pending, State.current, hstate] at hc
    · rw [show (i.move rig .advance).course = i.course.move rig .advance from rfl, hstate.1] at he
      cases he
  · have htaken : (i.move rig .advance).taken = i.taken := by simp [move, hstart, Move.offered]
    have hquiet := horderly.quiet
    rw [hcourse] at hquiet
    have hpending := State.pending_advance rig i.course.world hstart hquiet
    refine ⟨horderly, ?_, ?_⟩
    all_goals
      rw [show (i.move rig .advance).course = i.course.move rig .advance from rfl, hcourse, htaken]
    · intro hr c hc
      obtain ⟨hrun, hp, -⟩ := hpending hr
      exact h.pending hrun c (hp c hc)
    · intro e he hr
      obtain ⟨hrun, -, hending⟩ := hpending hr
      obtain ⟨c, hc, hce⟩ := hending e he
      exact ⟨c, h.pending hrun c hc, hce⟩

theorem Sound.play (h : i.Sound) (moves : List (Move σ)) : (i.play rig moves).Sound := by
  induction moves generalizing i with
  | nil => exact h
  | cons m moves ih =>
    rw [play_cons]
    refine ih ?_
    cases hm : m.isAdvance with
    | false => exact h.others hm
    | true =>
      obtain rfl := Move.eq_advance hm
      exact h.advance

/-- A running queue takes an exit behind no restart: from here the supervisor leaves. -/
theorem Sound.leaving (h : i.Sound) {m : Move σ} (hm : m.offered i.course.state = some .exit)
    (hr : i.course.state.isRunning = true) (hrestart : .restart ∉ i.taken) :
    (i.course.move rig m).state.Leaving ∧ (i.course.move rig m).state.isFinished = false := by
  have hothers : m.isAdvance = false := by
    cases m with
    | advance => cases hm
    | push | raise | hear | stopQueue | change => rfl
  obtain ⟨-, hstage, hqueue⟩ := Course.move_others rig i.course hothers
  rw [hm] at hqueue
  have hqueue : (i.course.move rig m).state.station.queue = ⟨true, i.course.state.station.queue.commands ++ [.exit]⟩ := by
    rw [hqueue, Queue.push_running hr]
  have hleaves : Leaves (i.course.move rig m).state.isRunning (i.course.move rig m).state.pending := by
    have hpending : (i.course.move rig m).state.pending = i.course.state.pending ++ [.exit] := by
      simp [State.pending, State.current_eq hstage, hqueue]
    rw [hpending]
    refine Or.inl (endsAs_exit_untilEnd (by simp) fun hmem => hrestart (h.pending hr _ ?_))
    simpa using hmem
  have hquiet : i.course.state.stage.isQuiet = false := by
    cases hq : i.course.state.stage.isQuiet with
    | false => rfl
    | true =>
      rw [State.isRunning, h.orderly.quiet hq] at hr
      cases hr
  rw [State.Leaving, State.isFinished, hstage]
  cases hs : i.course.state.stage with
  | openingAdapter | settingTarget | openingFeed | retreating | startingQueue | rearmingSignals | closingFeed
  | closingAdapter | finished =>
    rw [hs] at hquiet
    cases hquiet
  | disarmingSignals | announcing | claimingSource => exact ⟨hleaves, rfl⟩
  | serving phase =>
    cases phase with
    | polling | waiting | executing => exact ⟨hleaves, rfl⟩
    | ending e =>
      obtain ⟨c, hc, hce⟩ := h.ending e hs hr
      refine ⟨?_, rfl⟩
      cases c with
      | restart => exact absurd hc hrestart
      | exit => exact (Option.some.inj hce).symm
      | standby | activate | inactive | keyPress => cases hce
    | ended e =>
      obtain ⟨_, _, _, -, hp⟩ := h.orderly.story
      rw [hs] at hp
      cases hp

end Intake

namespace Course

/-- Whatever happened before and whatever others do afterwards: an exit that the queue takes, and takes before any restart
    of the same session, makes this session the last. The adapter is not opened again; it is closed giving up the active
    source, and that is the end, without a fault. So many steps as the queue is long, twice, and ten more are enough. -/
theorem finished_of_accepted_exit (rig : Rig σ) {s : State} (atRest : s.AtRest) (w : σ) (before : List (Move σ))
    (m : Move σ) :
    let i := (Intake.begin s w).play rig before
    m.offered i.course.state = some .exit → (i.course.state.push .exit).1 = true → .restart ∉ i.taken →
    let c := i.course.move rig m
    ∀ later, let c' := c.play rig later
      (∃ new, c'.log = c.log ++ new ∧
        new.filter Event.ofAdapter = if c'.state.isFinished then [.adapterClosed true] else []) ∧
      (∀ fault, c'.state.stage = .finished fault → fault = none) ∧
      (2 * c.state.station.queue.commands.length + 10 ≤ later.countP Move.isAdvance →
        c'.state.stage = .finished none) := by
  intro i offered accepted norestart c later c'
  have hrunning : i.course.state.isRunning = true := (Queue.accepted_push _ .exit).symm.trans accepted
  have hsound : i.Sound := (Intake.sound_begin atRest w).play before
  obtain ⟨hleaving, hgoing⟩ := hsound.leaving offered hrunning norestart
  have hby : c.LeavesBy c' (later.countP Move.isAdvance) := leavesBy_play rig hleaving later
  obtain ⟨new, hlog, hdue⟩ := hby.asked
  refine ⟨⟨new, hlog, ?_⟩, fun fault hf => ?_, fun henough => ?_⟩
  · rw [State.due, State.due, show c.state.isFinished = false from hgoing] at hdue
    cases hfinished : c'.state.isFinished with
    | true => simpa [hfinished] using hdue.symm
    | false => simpa [hfinished] using hdue.symm
  · have h := hby.leaving
    rw [State.Leaving, hf] at h
    exact h
  · have hsooner := hby.sooner
    have hbound := c.state.stepsLeft_le
    have hzero : c'.state.stepsLeft = 0 := by omega
    exact Stage.Leaving.eq_finished hby.leaving hzero

/-- A signal asks for the end behind another command; the restart that is pushed after it comes too late. -/
theorem finished_of_accepted_exit_terminated :
    let s := (State.fresh ⟨"/run/feed", ⟨none, "box"⟩, true, none, .unset, "tag"⟩).installSignals
    let before := List.replicate 8 Move.advance ++ [.push .inactive]
    let i := (Intake.begin s .fresh).play .loopback before
    let c := i.course.move .loopback (.raise .terminate)
    let later := Move.push .restart :: List.replicate 14 .advance
    s.AtRest ∧ .restart ∉ i.taken ∧ (i.course.state.push .exit).1 = true ∧
      (c.play .loopback later).state.stage = .finished none := by
  dsimp only
  have hs := (State.atRest_fresh ⟨"/run/feed", ⟨none, "box"⟩, true, none, .unset, "tag"⟩).installSignals
  have h := finished_of_accepted_exit .loopback hs .fresh (List.replicate 8 Move.advance ++ [.push .inactive])
    (.raise .terminate) rfl (by decide) (by decide) (Move.push .restart :: List.replicate 14 .advance)
  dsimp only at h
  exact ⟨hs, by decide, by decide, h.2.2 (by decide)⟩

/-- An exit that is taken behind a restart is lost: the session ends as the restart asks, and the adapter is opened
    again. -/
theorem accepted_exit_lost_behind_restart :
    let s := (State.fresh ⟨"/run/feed", ⟨none, "box"⟩, true, none, .unset, "tag"⟩).installSignals
    let c := (begin s .fresh).play .loopback (List.replicate 8 Move.advance ++ [.push .restart])
    let c' := c.play .loopback (.push .exit :: List.replicate 8 Move.advance)
    (c.state.push .exit).1 = true ∧ c.log.countP Event.opens = 1 ∧ c'.log.countP Event.opens = 2 ∧
      c'.log.countP (fun | .adapterClosed true => true | _ => false) = 0 := by
  decide

end Course

end KeyFeed.Supervisor
