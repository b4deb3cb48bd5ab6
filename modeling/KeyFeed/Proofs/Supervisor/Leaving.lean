import KeyFeed.Proofs.Supervisor.Lifecycle

/-! A supervisor on its way out. What is left to execute ends with an exit, or the session has ended with one; from there
    nothing others do can hold it up. It asks of the adapter to close, giving up the active source, and of nothing else,
    and a bound on its steps counts down to the end. -/

namespace KeyFeed.Supervisor
open Bus Adapter Feed Session Command

variable {σ : Type}

/-! ### What is left to do -/

/-- Commands of which the first that ends a session is an exit; where none ends it, the queue was stopped. -/
def Leaves (running : Bool) (cs : List Command) : Prop :=
  EndsAs (untilEnd cs) .exit ∨ running = false ∧ Ordinary cs

namespace Leaves

variable {running : Bool} {c : Command} {cs : List Command}

theorem running_of_nil (h : Leaves running []) : running = false := by
  rcases h with ⟨before, c, heq, -, -⟩ | h
  · simp at heq
  · exact h.1

/-- A command that ends nothing leaves the end to those behind it. -/
theorem tail (h : Leaves running (c :: cs)) (hc : c.ending? = none) : Leaves running cs := by
  rcases h with h | ⟨hr, ho⟩
  · refine Or.inl ((endsAs_untilEnd_cons.mp h).resolve_left fun he => ?_).2
    rw [hc] at he
    cases he
  · exact Or.inr ⟨hr, fun d hd => ho d (List.mem_cons_of_mem c hd)⟩

theorem eq_exit (h : Leaves running (c :: cs)) {e : SessionEnd} (hc : c.ending? = some e) : e = .exit := by
  rcases h with h | ⟨-, ho⟩
  · rcases endsAs_untilEnd_cons.mp h with he | ⟨he, -⟩
    · exact Option.some.inj (hc.symm.trans he)
    · rw [hc] at he
      cases he
  · have := ho c List.mem_cons_self
    rw [hc] at this
    cases this

/-- What is pushed behind an exit changes nothing. -/
theorem append (h : Leaves true cs) (ds : List Command) :
    Leaves true (cs ++ ds) ∧ untilEnd (cs ++ ds) = untilEnd cs := by
  have h := h.resolve_right fun hr => Bool.noConfusion hr.1
  have heq := h.untilEnd_append ds
  exact ⟨Or.inl (heq ▸ h), heq⟩

/-- Stopping the queue leaves what is executed next. -/
theorem of_append {ds : List Command} (h : Leaves running (cs ++ ds)) : Leaves false cs := by
  induction cs with
  | nil => exact Or.inr ⟨rfl, ordinary_nil⟩
  | cons c cs ih =>
    cases hc : c.ending? with
    | some e =>
      obtain rfl := h.eq_exit hc
      exact Or.inl (endsAs_untilEnd_cons.mpr (Or.inl hc))
    | none =>
      rcases ih (h.tail hc) with he | ⟨-, ho⟩
      · exact Or.inl (endsAs_untilEnd_cons.mpr (Or.inr ⟨hc, he⟩))
      · exact Or.inr ⟨rfl, List.forall_mem_cons.mpr ⟨hc, ho⟩⟩

end Leaves

namespace State

/-- The command that is executed in the next step. -/
def current (s : State) : List Command :=
  match s.stage with
  | .serving phase => phase.current
  | _ => []

/-- The command that is executed in the next step, and those in the queue. -/
def pending (s : State) : List Command := s.current ++ s.station.queue.commands

end State

/-- A stage from which the supervisor ends as an exit asks, with these commands to execute. -/
def Stage.Leaving (running : Bool) (pending : List Command) : Stage → Prop
  | .disarmingSignals | .announcing | .claimingSource | .serving .polling | .serving .waiting
  | .serving (.executing _) => Leaves running pending
  | .serving (.ending e) | .rearmingSignals e | .closingFeed e | .closingAdapter e => e = .exit
  | .finished fault => fault = none
  | _ => False

/-- How many steps a supervisor that is leaving takes at most, with this many commands to execute. -/
def Stage.stepsLeft (running : Bool) (left : Nat) : Stage → Nat
  | .disarmingSignals => 2 * left + 8
  | .announcing => 2 * left + 7
  | .claimingSource => 2 * left + 6
  | .serving .polling => 2 * left + 5
  -- A session that has woken looks into the queue once more.
  | .serving .waiting => if running then 2 * left + 6 else 4
  | .serving (.executing _) => 2 * left + 4
  | .serving (.ending _) => 4
  | .rearmingSignals _ => 3
  | .closingFeed _ => 2
  | .closingAdapter _ => 1
  | _ => 0

namespace Stage

variable {stage : Stage} {running running' : Bool} {cs cs' : List Command}

/-- A stage goes on leaving, and not later, with other commands that leave as soon. -/
theorem Leaving.imp (h : stage.Leaving running cs) (hl : Leaves running cs →
      Leaves running' cs' ∧ (untilEnd cs').length ≤ (untilEnd cs).length ∧ (running' = true → running = true)) :
    stage.Leaving running' cs' ∧
      stage.stepsLeft running' (untilEnd cs').length ≤ stage.stepsLeft running (untilEnd cs).length := by
  cases stage with
  | openingAdapter | settingTarget | openingFeed | retreating | startingQueue => cases h
  | rearmingSignals | closingFeed | closingAdapter | finished => exact ⟨h, Nat.le_refl _⟩
  | disarmingSignals | announcing | claimingSource =>
    obtain ⟨hl, hle, -⟩ := hl h
    refine ⟨hl, ?_⟩
    simp only [stepsLeft]
    omega
  | serving phase =>
    cases phase with
    | polling | executing =>
      obtain ⟨hl, hle, -⟩ := hl h
      refine ⟨hl, ?_⟩
      simp only [stepsLeft]
      omega
    | waiting =>
      obtain ⟨hl, hle, hrun⟩ := hl h
      refine ⟨hl, ?_⟩
      simp only [stepsLeft]
      split
      · rw [if_pos (hrun ‹_›)]
        omega
      · split <;> omega
    | ending => exact ⟨h, Nat.le_refl _⟩
    | ended => cases h

theorem Leaving.eq_finished (h : stage.Leaving running cs) {left : Nat} (hzero : stage.stepsLeft running left = 0) :
    stage = .finished none := by
  cases stage with
  | openingAdapter | settingTarget | openingFeed | retreating | startingQueue => cases h
  | finished fault => exact congrArg _ h
  | disarmingSignals | announcing | claimingSource | rearmingSignals | closingFeed | closingAdapter => cases hzero
  | serving phase =>
    cases phase with
    | ended => cases h
    | waiting =>
      simp only [stepsLeft] at hzero
      split at hzero <;> cases hzero
    | polling | executing | ending => cases hzero

theorem stepsLeft_le (stage : Stage) (running : Bool) (left : Nat) : stage.stepsLeft running left ≤ 2 * left + 8 := by
  cases stage with
  | serving phase =>
    cases phase with
    | waiting =>
      simp only [stepsLeft]
      split <;> omega
    | polling | executing | ending | ended =>
      simp only [stepsLeft]
      omega
  | _ =>
    simp only [stepsLeft]
    omega

end Stage

def State.Leaving (s : State) : Prop := s.stage.Leaving s.isRunning s.pending

def State.stepsLeft (s : State) : Nat := s.stage.stepsLeft s.isRunning (untilEnd s.pending).length

/-- The adapter is asked to open or to close. -/
def Event.ofAdapter : Event → Bool
  | .adapterOpened _ | .adapterClosed _ => true
  | _ => false

namespace State

/-- What a supervisor that is leaving has yet to ask of the adapter. -/
def due (s : State) : List Event := if s.isFinished then [] else [.adapterClosed true]

variable {s : State} {rig : Rig σ}

theorem filter_changes (s s' : State) : (s.changes s').filter Event.ofAdapter = [] := by
  simp only [changes]
  split
  · rfl
  · rfl
  · split <;> rfl

theorem filter_requests_claimingSource (hs : s.stage = .claimingSource) (w : σ) :
    (s.requests rig w).filter Event.ofAdapter = [] := by
  simp only [requests, hs]
  split <;> rfl

/-- One step: the supervisor goes on leaving, it has a step less to go, and it asks of the adapter what was due. -/
structure Leaving.Next (s s' : State) (asked : List Event) : Prop where
  leaving : s'.Leaving
  sooner : s'.stepsLeft ≤ s.stepsLeft - 1
  due : s.due = asked.filter Event.ofAdapter ++ s'.due

theorem Leaving.serve (h : s.Leaving) {phase : Phase} (hs : s.stage = .serving phase) (w : σ) :
    Leaving.Next s (s.advance rig w).1 (s.requests rig w) := by
  obtain ⟨options, station, listener, signals, sessions, stage⟩ := s
  obtain rfl : stage = .serving phase := hs
  have hstep := (⟨phase, station, w⟩ : Run σ).advance_step rig.toOutlet
  simp only [State.advance, State.serve, State.requests]
  generalize (⟨phase, station, w⟩ : Run σ).advance rig.toOutlet = r at hstep
  cases hstep with
  | take hq =>
    refine ⟨?_, ?_, rfl⟩
    · simpa [Leaving, Stage.Leaving, pending, current, Phase.current, isRunning, hq] using h
    · simp [stepsLeft, Stage.stepsLeft, pending, current, Phase.current, hq]
  | miss hq =>
    refine ⟨h, ?_, rfl⟩
    have hr : station.queue.running = false := hq.elim id fun hnil => by
      have h : Leaves station.queue.running ([] ++ station.queue.commands) := h
      rw [hnil] at h
      exact h.running_of_nil
    simp [stepsLeft, Stage.stepsLeft, isRunning, hr]
  | wake hq =>
    refine ⟨h, ?_, rfl⟩
    simp [stepsLeft, Stage.stepsLeft, pending, current, Phase.current, isRunning, hq]
  | leave hq => exact ⟨rfl, by simp [stepsLeft, Stage.stepsLeft, isRunning, hq], rfl⟩
  | @execute _ _ c hc =>
    have h : Leaves station.queue.running (c :: station.queue.commands) := h
    refine ⟨?_, ?_, rfl⟩
    · simpa [Leaving, Stage.Leaving, pending, current, Phase.current, isRunning] using h.tail hc
    · simp [stepsLeft, Stage.stepsLeft, pending, current, Phase.current, untilEnd_cons, hc]
      omega
  | @finish _ _ c e hc =>
    have h : Leaves station.queue.running (c :: station.queue.commands) := h
    refine ⟨h.eq_exit hc, ?_, rfl⟩
    simp [stepsLeft, Stage.stepsLeft, pending, current, Phase.current, untilEnd_cons, hc]
  | stop => exact ⟨h, by simp [stepsLeft, Stage.stepsLeft], rfl⟩
  | rest => cases h

theorem Leaving.advance (h : s.Leaving) (rig : Rig σ) (w : σ) : Leaving.Next s (s.advance rig w).1 (s.requests rig w) := by
  by_cases hserving : ∃ phase, s.stage = .serving phase
  · obtain ⟨phase, hs⟩ := hserving
    exact h.serve hs w
  obtain ⟨options, station, listener, signals, sessions, stage⟩ := s
  cases stage with
  | openingAdapter | settingTarget | openingFeed | retreating | startingQueue => cases h
  | serving phase => exact absurd ⟨phase, rfl⟩ hserving
  | disarmingSignals | announcing =>
    exact ⟨h, by simp [State.advance, stepsLeft, Stage.stepsLeft, pending, current, setSignals], rfl⟩
  | claimingSource =>
    refine ⟨h, by simp [State.advance, stepsLeft, Stage.stepsLeft, pending, current, Phase.current], ?_⟩
    rw [filter_requests_claimingSource rfl]
    rfl
  | rearmingSignals | closingFeed => exact ⟨h, by simp [State.advance, stepsLeft, Stage.stepsLeft], rfl⟩
  | closingAdapter e =>
    obtain rfl : e = .exit := h
    exact ⟨rfl, by simp [State.advance, State.closeAdapter, stepsLeft, Stage.stepsLeft], rfl⟩
  | finished fault => exact ⟨h, by simp [State.advance, stepsLeft, Stage.stepsLeft], rfl⟩

/-! ### What others do -/

/-- What others can make of a queue: they push to it, stop it, or leave it alone. -/
def Disturbed (q q' : Queue) : Prop := q' = q ∨ (∃ c, q' = (q.push c).2) ∨ q' = .stopped

theorem Disturbed.cases {q q' : Queue} (h : Disturbed q q') :
    q' = q ∨ (q.running = true ∧ ∃ c, q' = ⟨true, q.commands ++ [c]⟩) ∨ q' = .stopped := by
  rcases h with h | ⟨c, h⟩ | h
  · exact Or.inl h
  · cases hr : q.running with
    | true => exact Or.inr (Or.inl ⟨rfl, c, by rw [h, Queue.push_running hr]⟩)
    | false => exact Or.inl (by rw [h, Queue.push_stopped hr])
  · exact Or.inr (Or.inr h)

variable {s' : State}

theorem current_eq (hstage : s'.stage = s.stage) : s'.current = s.current := by rw [current, current, hstage]

theorem leaves_disturb (h : Leaves s.isRunning s.pending) (hstage : s'.stage = s.stage)
    (hq : Disturbed s.station.queue s'.station.queue) :
    Leaves s'.isRunning s'.pending ∧ (untilEnd s'.pending).length ≤ (untilEnd s.pending).length ∧
      (s'.isRunning = true → s.isRunning = true) := by
  have hcurrent := current_eq hstage
  rcases hq.cases with hq | ⟨hr, c, hq⟩ | hq
  · have hsame : s'.isRunning = s.isRunning ∧ s'.pending = s.pending := by simp [isRunning, pending, hcurrent, hq]
    rw [hsame.1, hsame.2]
    exact ⟨h, Nat.le_refl _, id⟩
  · have hrun : s.isRunning = true := hr
    have hpushed : s'.isRunning = true ∧ s'.pending = s.pending ++ [c] := by simp [isRunning, pending, hcurrent, hq]
    rw [hrun] at h
    obtain ⟨hleaves, heq⟩ := h.append [c]
    rw [hpushed.1, hpushed.2, heq]
    exact ⟨hleaves, Nat.le_refl _, fun _ => hrun⟩
  · have hstopped : s'.isRunning = false ∧ s'.pending = s.current := by
      simp [isRunning, pending, hcurrent, hq, Queue.stopped]
    rw [hstopped.1, hstopped.2]
    exact ⟨h.of_append, length_untilEnd_le_append _ _, fun hr => by cases hr⟩

/-- Others cannot hold up a supervisor that is leaving. -/
theorem Leaving.disturb (h : s.Leaving) (hstage : s'.stage = s.stage)
    (hq : Disturbed s.station.queue s'.station.queue) :
    s'.Leaving ∧ s'.stepsLeft ≤ s.stepsLeft ∧ s'.due = s.due := by
  obtain ⟨hleaving, hle⟩ := Stage.Leaving.imp h fun hl => leaves_disturb hl hstage hq
  rw [Leaving, stepsLeft, due, isFinished, hstage]
  exact ⟨hleaving, hle, rfl⟩

/-! ### How long it takes -/

theorem length_untilEnd_pending_le (s : State) : (untilEnd s.pending).length ≤ s.station.queue.commands.length + 1 := by
  have hcurrent : s.current.length ≤ 1 := by
    cases hs : s.stage with
    | serving phase => cases phase <;> simp [current, hs, Phase.current]
    | _ => simp [current, hs]
  have hprefix := (untilEnd_prefix_self s.pending).length_le
  have hlength : s.pending.length = s.current.length + s.station.queue.commands.length := List.length_append
  omega

theorem stepsLeft_le (s : State) : s.stepsLeft ≤ 2 * s.station.queue.commands.length + 10 := by
  have hlength := s.length_untilEnd_pending_le
  have hbound := s.stage.stepsLeft_le s.isRunning (untilEnd s.pending).length
  rw [stepsLeft]
  omega

end State

/-! ### The way out -/

namespace Move

def isAdvance : Move σ → Bool
  | .advance => true
  | _ => false

theorem eq_advance {m : Move σ} (h : m.isAdvance = true) : m = .advance := by
  cases m with
  | advance => rfl
  | push | raise | hear | stopQueue | change => cases h

/-- The command that a move of someone else offers to the queue. -/
def offered (s : State) : Move σ → Option Command
  | .push c => some c
  | .raise signal => some signal.command
  | .hear n => (s.listener.hear s.station.wantsActive n).command
  | .advance | .stopQueue | .change _ => none

end Move

namespace Course

variable (rig : Rig σ) {c : Course σ} {m : Move σ}

/-- Others put into the queue what they offer, or stop it; they touch neither the stage nor the log. -/
theorem move_others (c : Course σ) (hm : m.isAdvance = false) :
    (c.move rig m).log = c.log ∧ (c.move rig m).state.stage = c.state.stage ∧
      match m.offered c.state with
      | some d => (c.move rig m).state.station.queue = (c.state.station.queue.push d).2
      | none => (c.move rig m).state.station.queue = c.state.station.queue ∨
          (c.move rig m).state.station.queue = .stopped := by
  cases m with
  | advance => cases hm
  | push | raise => exact ⟨rfl, rfl, rfl⟩
  | hear n =>
    refine ⟨rfl, rfl, ?_⟩
    simp only [move, Move.offered, State.hear, Station.deliver]
    cases (c.state.listener.hear c.state.station.wantsActive n).command with
    | none => exact Or.inl rfl
    | some d => rfl
  | stopQueue => exact ⟨rfl, rfl, Or.inr rfl⟩
  | change => exact ⟨rfl, rfl, Or.inl rfl⟩

/-- Others leave the handlers alone, and the flag of the active source. -/
theorem frame_others (c : Course σ) (hm : m.isAdvance = false) :
    (c.move rig m).state.signals = c.state.signals ∧
      (c.move rig m).state.station.wantsActive = c.state.station.wantsActive := by
  cases m with
  | advance => cases hm
  | push | raise | stopQueue | change => exact ⟨rfl, rfl⟩
  | hear n =>
    obtain ⟨-, hsignals, -, hst⟩ := State.hear_frame rig n c.state c.world
    refine ⟨hsignals, ?_⟩
    rcases hst with hst | ⟨d, hst⟩
    · exact congrArg Station.wantsActive hst
    · exact (congrArg Station.wantsActive hst).trans rfl

theorem disturbed_move (hm : m.isAdvance = false) :
    State.Disturbed c.state.station.queue (c.move rig m).state.station.queue := by
  have h := (move_others rig c hm).2.2
  cases ho : m.offered c.state with
  | none =>
    rw [ho] at h
    exact h.imp id Or.inr
  | some d =>
    rw [ho] at h
    exact Or.inr (Or.inl ⟨d, h⟩)

/-- What a supervisor that is leaving does from one point of its course to another: its steps are so many less to go, and
    it asks of the adapter what was due. -/
structure LeavesBy (c c' : Course σ) (steps : Nat) : Prop where
  leaving : c'.state.Leaving
  sooner : c'.state.stepsLeft ≤ c.state.stepsLeft - steps
  asked : ∃ new, c'.log = c.log ++ new ∧ c.state.due = new.filter Event.ofAdapter ++ c'.state.due

theorem LeavesBy.refl (h : c.state.Leaving) : c.LeavesBy c 0 := ⟨h, Nat.le_refl _, [], by simp, by simp⟩

theorem LeavesBy.trans {c' c'' : Course σ} {n k : Nat} (h : c.LeavesBy c' n) (h' : c'.LeavesBy c'' k) :
    c.LeavesBy c'' (n + k) := by
  obtain ⟨new, hlog, hdue⟩ := h.asked
  obtain ⟨new', hlog', hdue'⟩ := h'.asked
  have := h.sooner
  have := h'.sooner
  refine ⟨h'.leaving, by omega, new ++ new', ?_, ?_⟩
  · rw [hlog', hlog, List.append_assoc]
  · rw [hdue, hdue', List.filter_append, List.append_assoc]

theorem leavesBy_move (h : c.state.Leaving) (m : Move σ) : c.LeavesBy (c.move rig m) (if m.isAdvance then 1 else 0) := by
  cases hm : m.isAdvance with
  | true =>
    obtain rfl := Move.eq_advance hm
    have hnext := h.advance rig c.world
    rw [show c.move rig .advance = _ from advance_eq rig c]
    refine ⟨hnext.leaving, hnext.sooner, c.state.requests rig c.world ++ c.state.changes (c.state.advance rig c.world).1,
      List.append_assoc _ _ _, ?_⟩
    rw [List.filter_append, State.filter_changes, List.append_nil]
    exact hnext.due
  | false =>
    obtain ⟨hlog, hstage, -⟩ := move_others rig c hm
    obtain ⟨hleaving, hle, hdue⟩ := h.disturb hstage (disturbed_move rig hm)
    exact ⟨hleaving, hle, [], by simp [hlog], by simp [hdue]⟩

/-- Whatever others do meanwhile, a supervisor that is leaving goes on leaving. -/
theorem leavesBy_play (h : c.state.Leaving) (later : List (Move σ)) :
    c.LeavesBy (c.play rig later) (later.countP Move.isAdvance) := by
  induction later generalizing c with
  | nil => exact .refl h
  | cons m later ih =>
    have hm := leavesBy_move rig h m
    rw [play_cons, List.countP_cons, Nat.add_comm]
    exact hm.trans (ih hm.leaving)

end Course

end KeyFeed.Supervisor
