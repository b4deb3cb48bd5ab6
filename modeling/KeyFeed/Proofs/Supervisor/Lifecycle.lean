import KeyFeed.Adapter.Loopback
import KeyFeed.Proofs.Session.Schedule
import KeyFeed.Proofs.Supervisor.Course

/-! The life cycle of a supervisor. Each opening of the adapter begins an `Attempt`, and the log of a course is the events
    of attempts one after another, of which all but the last were sessions that a restart ended. Read off an attempt's
    events: a successful opening is followed by exactly one closing, which gives up the active source just when the
    session ended with an exit; a failed opening is followed by nothing. An answer to the requests that set the target
    and claim the source is noted and has no consequence. -/

namespace KeyFeed.Supervisor
open Bus Adapter Feed Session Command

/-- What becomes of one opening of the adapter. -/
inductive Attempt where
  /-- The adapter did not open. -/
  | refused (cause : AdapterError)
  /-- The feed did not open. -/
  | retreated (target : Option Answer) (cause : SocketError)
  /-- A session ran and ended. -/
  | served (target claim : Option Answer) (executed : List Command) (ended : SessionEnd)

namespace Attempt

/-- The adapter is open, and the target is set if there is one. -/
def opening (target : Option Answer) : List Event := .adapterOpened (.ok ()) :: (target.map Event.targetSet).toList

/-- A session that runs. -/
def running (target claim : Option Answer) (executed : List Command) : List Event :=
  opening target ++ [.feedOpened (.ok ()), .queueStarted] ++ (claim.map Event.sourceClaimed).toList ++
    executed.map Event.executed

def events : Attempt → List Event
  | refused cause => [.adapterOpened (.error cause)]
  | retreated target cause => opening target ++ [.feedOpened (.error cause), .adapterClosed false]
  | served target claim executed ended =>
    running target claim executed ++ [.ended ended, .feedClosed, .adapterClosed (ended == .exit)]

/-- The end of the supervisor to which an attempt leads, if it leads to one: none but a restart lets it go on. -/
def outcome? : Attempt → Option (Option Fault)
  | refused cause => some (some (.adapter cause))
  | retreated _ cause => some (some (.feed cause))
  | served _ _ _ .restart => none
  | served _ _ _ .exit => some none

/-- A session ends by the last command that it executed, or because its queue was stopped from outside. -/
def Caused (Interrupted : Prop) : Attempt → Prop
  | served _ _ executed ended => EndsAs executed ended ∨ Ordinary executed ∧ ended = .exit ∧ Interrupted
  | _ => True

end Attempt

open Attempt

theorem Attempt.events_exit (target claim : Option Answer) (executed : List Command) :
    (served target claim (executed ++ [.exit]) .exit).events = running target claim executed ++
      [.executed .exit, .ended .exit, .feedClosed, .adapterClosed true] := by
  simp only [events, running, List.map_append, List.map_cons, List.map_nil, List.append_assoc]
  rfl

/-! ### Openings and closings -/

def Event.opens : Event → Bool
  | .adapterOpened (.ok ()) => true
  | _ => false

def Event.closes : Event → Bool
  | .adapterClosed _ => true
  | _ => false

namespace Attempt

theorem countP_opening (target : Option Answer) :
    (opening target).countP Event.opens = 1 ∧ (opening target).countP Event.closes = 0 := by
  cases target <;> exact ⟨rfl, rfl⟩

theorem countP_running (target claim : Option Answer) (executed : List Command) :
    (running target claim executed).countP Event.opens = 1 ∧
      (running target claim executed).countP Event.closes = 0 := by
  obtain ⟨ho, hc⟩ := countP_opening target
  have hx : executed.countP (Event.opens ∘ Event.executed) = 0 ∧ executed.countP (Event.closes ∘ Event.executed) = 0 :=
    ⟨List.countP_eq_zero.mpr fun _ _ => Bool.false_ne_true, List.countP_eq_zero.mpr fun _ _ => Bool.false_ne_true⟩
  cases claim <;> simp [running, Event.opens, Event.closes, ho, hc, hx, List.countP_append, List.countP_map]

/-- An attempt closes the adapter as often as it opens it, which is at most once. -/
theorem countP_events (a : Attempt) :
    a.events.countP Event.opens = a.events.countP Event.closes ∧ a.events.countP Event.opens ≤ 1 := by
  cases a with
  | refused cause => exact ⟨rfl, Nat.zero_le 1⟩
  | retreated target cause =>
    obtain ⟨ho, hc⟩ := countP_opening target
    simp [events, Event.opens, Event.closes, ho, hc]
  | served target claim executed ended =>
    obtain ⟨ho, hc⟩ := countP_running target claim executed
    simp [events, Event.opens, Event.closes, ho, hc]

theorem countP_prefix {a : Attempt} {rest : List Event} (h : rest <+: a.events) :
    rest.countP Event.closes ≤ rest.countP Event.opens ∧ rest.countP Event.opens ≤ 1 := by
  obtain ⟨heq, hle⟩ := a.countP_events
  have hopens : rest.countP Event.opens ≤ 1 := Nat.le_trans h.sublist.countP_le hle
  have hcloses : rest.countP Event.closes ≤ a.events.countP Event.closes := h.sublist.countP_le
  refine ⟨?_, hopens⟩
  cases rest with
  | nil => exact Nat.le_refl 0
  | cons e rest =>
    -- The opening comes first, so it stands before any closing.
    have hfirst : e.opens = true ∨ a.events.countP Event.opens = 0 := by
      cases a with
      | refused => exact Or.inr rfl
      | retreated | served =>
        obtain ⟨rfl, -⟩ := List.cons_prefix_cons.mp h
        exact Or.inl rfl
    rcases hfirst with he | hnone
    · have : 0 < (e :: rest).countP Event.opens := List.countP_pos_iff.mpr ⟨e, List.mem_cons_self, he⟩
      omega
    · omega

theorem countP_flatMap (past : List Attempt) :
    (past.flatMap events).countP Event.opens = (past.flatMap events).countP Event.closes := by
  induction past with
  | nil => rfl
  | cons a past ih => simp [List.countP_append, a.countP_events.1, ih]

end Attempt

/-- Stages at which the queue is stopped. -/
def Stage.isQuiet : Stage → Bool
  | .disarmingSignals | .announcing | .claimingSource | .serving _ => false
  | _ => true

/-- Stages at which the handled signals keep their default behaviour. -/
def Stage.isArmed : Stage → Bool
  | .announcing | .claimingSource | .serving _ | .rearmingSignals _ => false
  | _ => true

/-- The events of the present attempt up to now. -/
def Present (Interrupted : Prop) (runs : Bool) (rest : List Event) : Stage → Prop
  | .openingAdapter => rest = []
  | .settingTarget => rest = opening none
  | .openingFeed => ∃ t, rest = opening t
  | .retreating e => ∃ t, rest = opening t ++ [.feedOpened (.error e)]
  | .startingQueue => ∃ t, rest = opening t ++ [.feedOpened (.ok ())]
  | .disarmingSignals | .announcing | .claimingSource =>
    ∃ t, rest = running t none [] ∧ (runs = false → Interrupted)
  -- A session that has ended is left in the same step.
  | .serving (.ended _) => False
  | .serving phase => ∃ t cl ex, rest = running t cl ex ∧ phase.Pursued Interrupted runs ex
  | .rearmingSignals e | .closingFeed e =>
    ∃ t cl ex, rest = running t cl ex ++ [.ended e] ∧ (served t cl ex e).Caused Interrupted
  | .closingAdapter e =>
    ∃ t cl ex, rest = running t cl ex ++ [.ended e, .feedClosed] ∧ (served t cl ex e).Caused Interrupted
  | .finished fault => ∃ a : Attempt, rest = a.events ∧ a.outcome? = some fault ∧ a.Caused Interrupted

namespace Present

variable {Interrupted : Prop} {runs runs' : Bool} {rest : List Event} {stage : Stage}

theorem of_running (h : Present Interrupted runs rest stage)
    (hi : runs' = false → runs = false ∨ Interrupted) : Present Interrupted runs' rest stage := by
  cases stage with
  | disarmingSignals | announcing | claimingSource =>
    obtain ⟨t, hr, hs⟩ := h
    exact ⟨t, hr, fun hr' => (hi hr').elim hs id⟩
  | serving phase =>
    cases phase with
    | ended => exact h
    | polling | waiting | executing | ending =>
      obtain ⟨t, cl, ex, hr, hp⟩ := h
      exact ⟨t, cl, ex, hr, hp.of_running hi⟩
  | _ => exact h

/-- Before the end of the supervisor something is missing from the events of the present attempt. -/
theorem unfinished (h : Present Interrupted runs rest stage) (hf : ∀ fault, stage ≠ .finished fault) :
    ∃ (a : Attempt) (missing : List Event), a.Caused Interrupted ∧ a.events = rest ++ missing ∧ missing ≠ [] := by
  -- Up to its end, any session could still be ended by an exit.
  have ran : ∀ t cl ex missing, running t cl ex = rest ++ missing → Ordinary ex →
      ∃ (a : Attempt) (missing : List Event), a.Caused Interrupted ∧ a.events = rest ++ missing ∧ missing ≠ [] := by
    intro t cl ex missing hr ho
    refine ⟨served t cl (ex ++ [.exit]) .exit,
      missing ++ [.executed .exit, .ended .exit, .feedClosed, .adapterClosed true], Or.inl ⟨ex, .exit, rfl, ho, rfl⟩, ?_,
      by simp⟩
    rw [events_exit, hr, List.append_assoc]
  cases stage with
  | openingAdapter =>
    obtain rfl : rest = [] := h
    exact ran none none [] _ rfl ordinary_nil
  | settingTarget =>
    obtain rfl : rest = opening none := h
    exact ran none none [] [.feedOpened (.ok ()), .queueStarted] rfl ordinary_nil
  | openingFeed =>
    obtain ⟨t, rfl⟩ := h
    exact ran t none [] [.feedOpened (.ok ()), .queueStarted] (by simp [running]) ordinary_nil
  | startingQueue =>
    obtain ⟨t, rfl⟩ := h
    exact ran t none [] [.queueStarted] (by simp [running]) ordinary_nil
  | disarmingSignals | announcing | claimingSource =>
    obtain ⟨t, rfl, -⟩ := h
    exact ran t none [] [] (by simp) ordinary_nil
  | serving phase =>
    cases phase with
    | polling | waiting | executing =>
      obtain ⟨t, cl, ex, rfl, hp⟩ := h
      exact ran t cl ex [] (by simp) hp.1
    | ending e =>
      obtain ⟨t, cl, ex, rfl, hp⟩ := h
      exact ⟨served t cl ex e, _, Or.inl hp, rfl, by simp⟩
    | ended => cases h
  | retreating e =>
    obtain ⟨t, rfl⟩ := h
    exact ⟨retreated t e, [.adapterClosed false], trivial, by simp [events], by simp⟩
  | rearmingSignals e | closingFeed e =>
    obtain ⟨t, cl, ex, rfl, hc⟩ := h
    exact ⟨served t cl ex e, [.feedClosed, .adapterClosed (e == .exit)], hc, by simp [events], by simp⟩
  | closingAdapter e =>
    obtain ⟨t, cl, ex, rfl, hc⟩ := h
    exact ⟨served t cl ex e, [.adapterClosed (e == .exit)], hc, by simp [events], by simp⟩
  | finished fault => exact absurd rfl (hf fault)

end Present

/-- What holds between any two moves of a course. -/
structure Course.Orderly {σ : Type} (Interrupted : Prop) (c : Course σ) : Prop where
  /-- The attempts before the present one have all led to a restart. -/
  story : ∃ (past : List Attempt) (rest : List Event), (∀ a ∈ past, a.outcome? = none ∧ a.Caused Interrupted) ∧
    c.log = past.flatMap events ++ rest ∧ Present Interrupted c.state.isRunning rest c.state.stage
  quiet : c.state.stage.isQuiet = true → c.state.station.queue = .stopped
  empty : c.state.isRunning = false → c.state.station.queue = .stopped
  armed : c.state.stage.isArmed = true → ∀ b ∈ c.state.signals, b.defaultsArmed = true

/-- A supervisor that is about to begin. -/
structure State.AtRest (s : State) : Prop where
  stage : s.stage = .openingAdapter
  queue : s.station.queue = .stopped
  armed : ∀ b ∈ s.signals, b.defaultsArmed = true

theorem State.atRest_fresh (options : Options) : (State.fresh options).AtRest := ⟨rfl, rfl, fun _ h => by cases h⟩

theorem State.AtRest.installSignals {s : State} (h : s.AtRest) : s.installSignals.AtRest :=
  ⟨h.stage, h.queue, fun _ hb => by cases hb; rfl⟩

/-- An adapter without hardware behind it, and a feed that no one reads. -/
def Rig.loopback : Rig (Loopback Unit) where
  broadcast _ a := (0, a)
  runAction _ _ a := (.ok (), a)
  notify _ a := a
  openAdapter settings a := a.openFor settings ()
  closeAdapter := Loopback.close
  setTarget target a := a.setTarget target
  claimSource a := a.makeActive
  openFeed _ a := (.ok (), a)
  closeFeed a := a

namespace Course

variable {σ : Type} {Interrupted : Prop} {c : Course σ} {rig : Rig σ}

/-! ### What others do -/

/-- Others change the queue alone: they push to it, or stop it from outside. -/
theorem Orderly.disturb (h : c.Orderly Interrupted) {c' : Course σ} (hstage : c'.state.stage = c.state.stage)
    (hsignals : c'.state.signals = c.state.signals) (hlog : c'.log = c.log)
    (hq : c'.state.station.queue = c.state.station.queue ∨
      (∃ command, c'.state.station.queue = (c.state.station.queue.push command).2) ∨
      Interrupted ∧ c'.state.station.queue = .stopped) : c'.Orderly Interrupted := by
  have hkeep : c.state.station.queue = .stopped → c'.state.station.queue = .stopped := fun hs => by
    rcases hq with hq | ⟨command, hq⟩ | ⟨-, hq⟩
    · rw [hq, hs]
    · rw [hq, hs]
      rfl
    · exact hq
  have hrun : c'.state.isRunning = false → c.state.isRunning = false ∨ Interrupted := fun hr => by
    unfold State.isRunning at hr ⊢
    rcases hq with hq | ⟨command, hq⟩ | ⟨hi, -⟩
    · rw [hq] at hr
      exact Or.inl hr
    · rw [hq, Queue.running_push] at hr
      exact Or.inl hr
    · exact Or.inr hi
  obtain ⟨past, rest, hpast, hl, hp⟩ := h.story
  refine ⟨⟨past, rest, hpast, hlog.trans hl, ?_⟩, fun hs => ?_, fun hr => ?_, fun ha => ?_⟩
  · rw [hstage]
    exact hp.of_running hrun
  · rw [hstage] at hs
    exact hkeep (h.quiet hs)
  · rcases hq with hq | ⟨command, hq⟩ | ⟨-, hq⟩
    · unfold State.isRunning at hr
      rw [hq] at hr
      exact hkeep (h.empty hr)
    · rw [State.isRunning, hq, Queue.running_push] at hr
      exact hkeep (h.empty hr)
    · exact hq
  · rw [hsignals]
    exact h.armed (hstage ▸ ha)

/-! ### What the supervisor does -/

/-- A step that goes on with the present attempt. -/
theorem Orderly.goOn (h : c.Orderly Interrupted) {c' : Course σ} (new : List Event) (hlog : c'.log = c.log ++ new)
    (hp : ∀ rest, Present Interrupted c.state.isRunning rest c.state.stage →
      Present Interrupted c'.state.isRunning (rest ++ new) c'.state.stage)
    (quiet : c'.state.stage.isQuiet = true → c'.state.station.queue = .stopped)
    (empty : c'.state.isRunning = false → c'.state.station.queue = .stopped)
    (armed : c'.state.stage.isArmed = true → ∀ b ∈ c'.state.signals, b.defaultsArmed = true) :
    c'.Orderly Interrupted := by
  obtain ⟨past, rest, hpast, hl, hrest⟩ := h.story
  exact ⟨⟨past, rest ++ new, hpast, by rw [hlog, hl, List.append_assoc], hp rest hrest⟩, quiet, empty, armed⟩

theorem Orderly.openAdapter (h : c.Orderly Interrupted) (hs : c.state.stage = .openingAdapter) :
    (c.advance rig).Orderly Interrupted := by
  rw [advance_eq]
  obtain ⟨⟨options, station, listener, signals, sessions, stage⟩, w, log⟩ := c
  obtain rfl : stage = .openingAdapter := hs
  have hq : station.queue = .stopped := h.quiet rfl
  have harmed := h.armed rfl
  simp only [State.advance, State.openAdapter, State.requests]
  rcases rig.openAdapter options.adapter w with ⟨e | reports, w'⟩
  · refine h.goOn [.adapterOpened (.error e)] ?_ ?_ (fun _ => hq) (fun _ => hq) fun _ => harmed
    · simp [State.changes, State.isRunning, hq, Queue.stopped, Except.map]
    · rintro _ rfl
      exact ⟨.refused e, rfl, rfl, trivial⟩
  · obtain ⟨hstage, hsignals, hstation⟩ := State.hearAll_frame rig reports
      ⟨options, station, .fresh, signals, sessions, .openingAdapter⟩ w' (by simp [hq, Queue.stopped])
    have hq' := (congrArg Station.queue hstation).trans hq
    refine h.goOn [.adapterOpened (.ok ())] ?_ ?_ (fun _ => hq') (fun _ => hq') fun _ => by rwa [hsignals]
    · simp [State.changes, State.isRunning, hq, hq', Queue.stopped, Except.map]
    · rintro _ rfl
      rfl

/-- One step of the session that is served, by the cases of `Run.Step`. -/
theorem Orderly.serve (h : c.Orderly Interrupted) {phase : Phase} (hs : c.state.stage = .serving phase) :
    (c.advance rig).Orderly Interrupted := by
  rw [advance_eq]
  obtain ⟨⟨options, station, listener, signals, sessions, stage⟩, w, log⟩ := c
  obtain rfl : stage = .serving phase := hs
  have hstep := (⟨phase, station, w⟩ : Run σ).advance_step rig.toOutlet
  have hpursued (ex : List Command) (hp : phase.Pursued Interrupted station.queue.running ex) := hstep.pursued hp
  simp only [State.advance, State.serve, State.requests]
  generalize (⟨phase, station, w⟩ : Run σ).advance rig.toOutlet = r at hstep hpursued
  cases hstep with
  | take hq =>
    refine h.goOn [] ?_ ?_ (fun hq => by cases hq) (fun hr => by cases hr) fun ha => by cases ha
    · simp [State.changes, State.isRunning, hq]
    · rintro _ ⟨t, cl, ex, rfl, hp⟩
      exact ⟨t, cl, ex, List.append_nil _, List.append_nil ex ▸ hpursued ex hp⟩
  | miss | wake =>
    refine h.goOn [] ?_ ?_ (fun hq => by cases hq) h.empty fun ha => by cases ha
    · simp [State.changes, State.isRunning]
    · rintro _ ⟨t, cl, ex, rfl, hp⟩
      exact ⟨t, cl, ex, List.append_nil _, hp⟩
  | leave hq =>
    refine h.goOn [.ended .exit] (by simp [State.changes]) ?_ (fun _ => h.empty hq) h.empty fun ha => by cases ha
    rintro _ ⟨t, cl, ex, rfl, hp⟩
    exact ⟨t, cl, ex, rfl, List.append_nil ex ▸ hpursued ex hp⟩
  | @execute _ _ command hc =>
    refine h.goOn [.executed command] (by simp [State.changes]) ?_ (fun hq => by cases hq) ?_ fun ha => by cases ha
    · rintro _ ⟨t, cl, ex, rfl, hp⟩
      exact ⟨t, cl, ex ++ [command], by simp [running], hpursued ex hp⟩
    · simpa [State.isRunning] using h.empty
  | @finish _ _ command e hc =>
    refine h.goOn [.executed command] (by simp [State.changes]) ?_ (fun hq => by cases hq) h.empty fun ha => by cases ha
    rintro _ ⟨t, cl, ex, rfl, hp⟩
    exact ⟨t, cl, ex ++ [command], by simp [running], hpursued ex hp⟩
  | @stop _ _ e =>
    refine h.goOn [.ended e] (by simp [State.changes]) ?_ (fun _ => rfl) (fun _ => rfl) fun ha => by cases ha
    rintro _ ⟨t, cl, ex, rfl, hp⟩
    exact ⟨t, cl, ex, rfl, List.append_nil ex ▸ hpursued ex hp⟩
  | rest =>
    obtain ⟨_, _, _, -, hp⟩ := h.story
    cases hp

/-- The adapter is closed, and the attempt is complete. -/
theorem Orderly.closeAdapter (h : c.Orderly Interrupted) {e : SessionEnd} (hs : c.state.stage = .closingAdapter e) :
    (c.advance rig).Orderly Interrupted := by
  rw [advance_eq]
  obtain ⟨⟨options, station, listener, signals, sessions, stage⟩, w, log⟩ := c
  obtain rfl : stage = .closingAdapter e := hs
  have hq : station.queue = .stopped := h.quiet rfl
  have harmed := h.armed rfl
  simp only [State.advance, State.requests]
  cases e with
  | restart =>
    obtain ⟨past, _, hpast, hl, t, cl, ex, rfl, hc⟩ := h.story
    refine ⟨⟨past ++ [served t cl ex .restart], [], fun a ha => ?_, ?_, rfl⟩, fun _ => hq, fun _ => hq, fun _ => harmed⟩
    · rcases List.mem_append.mp ha with ha | ha
      · exact hpast a ha
      · rw [List.mem_singleton.mp ha]
        exact ⟨rfl, hc⟩
    · simp only at hl
      simp [State.closeAdapter, State.changes, State.isRunning, hq, Queue.stopped, hl, events]
  | exit =>
    refine h.goOn [.adapterClosed true] ?_ ?_ (fun _ => hq) (fun _ => hq) fun _ => harmed
    · simp [State.closeAdapter, State.changes, State.isRunning, hq, Queue.stopped]
    · rintro _ ⟨t, cl, ex, rfl, hc⟩
      exact ⟨served t cl ex .exit, by simp [events], rfl, hc⟩

/-- A step between the opening of the adapter and the session, or between the session and the closing of the adapter. -/
theorem Orderly.passOn (h : c.Orderly Interrupted) (ha : c.state.stage ≠ .openingAdapter)
    (hs : ∀ phase, c.state.stage ≠ .serving phase) (hc : ∀ e, c.state.stage ≠ .closingAdapter e) :
    (c.advance rig).Orderly Interrupted := by
  rw [advance_eq]
  obtain ⟨⟨options, station, listener, signals, sessions, stage⟩, w, log⟩ := c
  have harmed := h.armed
  cases stage with
  | openingAdapter => exact absurd rfl ha
  | serving phase => exact absurd rfl (hs phase)
  | closingAdapter e => exact absurd rfl (hc e)
  | settingTarget =>
    have hq : station.queue = .stopped := h.quiet rfl
    refine h.goOn (options.target.map fun target => Event.targetSet (rig.setTarget target w).1).toList ?_ ?_
      (fun _ => hq) (fun _ => hq) fun _ => harmed rfl
    · simp [State.advance, State.requests, State.changes, State.isRunning, hq, Queue.stopped]
    · rintro _ rfl
      exact ⟨options.target.map fun target => (rig.setTarget target w).1, by cases options.target <;> rfl⟩
  | openingFeed =>
    have hq : station.queue = .stopped := h.quiet rfl
    simp only [State.advance, State.requests]
    rcases rig.openFeed options.socketPath w with ⟨e | _, w'⟩
    · refine h.goOn [.feedOpened (.error e)] ?_ ?_ (fun _ => hq) (fun _ => hq) fun _ => harmed rfl
      · simp [State.changes, State.isRunning, hq, Queue.stopped]
      · rintro _ ⟨t, rfl⟩
        exact ⟨t, rfl⟩
    · refine h.goOn [.feedOpened (.ok ())] ?_ ?_ (fun _ => hq) (fun _ => hq) fun _ => harmed rfl
      · simp [State.changes, State.isRunning, hq, Queue.stopped]
      · rintro _ ⟨t, rfl⟩
        exact ⟨t, rfl⟩
  | retreating e =>
    have hq : station.queue = .stopped := h.quiet rfl
    refine h.goOn [.adapterClosed false] ?_ ?_ (fun _ => hq) (fun _ => hq) fun _ => harmed rfl
    · simp [State.advance, State.requests, State.changes, State.isRunning, hq, Queue.stopped]
    · rintro _ ⟨t, rfl⟩
      exact ⟨.retreated t e, by simp [events], rfl, trivial⟩
  | startingQueue =>
    have hq : station.queue = .stopped := h.quiet rfl
    refine h.goOn [.queueStarted] ?_ ?_ (fun hq => by cases hq) (fun hr => by cases hr) fun _ => harmed rfl
    · simp [State.advance, State.requests, State.changes, State.isRunning, hq, Queue.stopped, Queue.start]
    · rintro _ ⟨t, rfl⟩
      exact ⟨t, by simp [running], fun hr => by cases hr⟩
  | disarmingSignals =>
    refine h.goOn [] ?_ ?_ (fun hq => by cases hq) h.empty fun ha => by cases ha
    · simp [State.advance, State.requests, State.changes, State.isRunning, State.setSignals]
    · rintro _ ⟨t, rfl, hi⟩
      exact ⟨t, List.append_nil _, hi⟩
  | announcing =>
    refine h.goOn [] ?_ ?_ (fun hq => by cases hq) h.empty fun ha => by cases ha
    · simp [State.advance, State.requests, State.changes, State.isRunning]
    · rintro _ ⟨t, rfl, hi⟩
      exact ⟨t, List.append_nil _, hi⟩
  | claimingSource =>
    refine h.goOn (State.requests rig ⟨options, station, listener, signals, sessions, .claimingSource⟩ w) ?_ ?_
      (fun hq => by cases hq) h.empty fun ha => by cases ha
    · simp [State.advance, State.changes, State.isRunning]
    · rintro _ ⟨t, rfl, hi⟩
      cases hw : station.wantsActive with
      | false => exact ⟨t, none, [], by simp [State.requests, hw], ordinary_nil, hi⟩
      | true =>
        exact ⟨t, some (rig.claimSource w).1, [], by simp [State.requests, hw, running], ordinary_nil, hi⟩
  | rearmingSignals e =>
    have hq : station.queue = .stopped := h.quiet rfl
    refine h.goOn [] ?_ ?_ (fun _ => hq) (fun _ => hq) fun _ b hb => ?_
    · simp [State.advance, State.requests, State.changes, State.isRunning, State.setSignals]
    · rintro _ ⟨t, cl, ex, rfl, hc⟩
      exact ⟨t, cl, ex, List.append_nil _, hc⟩
    · obtain ⟨b', -, rfl⟩ := Option.map_eq_some_iff.mp (show signals.map _ = some b from hb)
      rfl
  | closingFeed e =>
    have hq : station.queue = .stopped := h.quiet rfl
    refine h.goOn [.feedClosed] ?_ ?_ (fun _ => hq) (fun _ => hq) fun _ => harmed rfl
    · simp [State.advance, State.requests, State.changes, State.isRunning]
    · rintro _ ⟨t, cl, ex, rfl, hc⟩
      exact ⟨t, cl, ex, by simp, hc⟩
  | finished fault =>
    have hq : station.queue = .stopped := h.quiet rfl
    refine h.goOn [] ?_ ?_ (fun _ => hq) (fun _ => hq) fun _ => harmed rfl
    · simp [State.advance, State.requests, State.changes, State.isRunning]
    · rintro _ hp
      rw [List.append_nil]
      exact hp

theorem Orderly.advance (h : c.Orderly Interrupted) : (c.advance rig).Orderly Interrupted := by
  by_cases ha : c.state.stage = .openingAdapter
  · exact h.openAdapter ha
  by_cases hs : ∃ phase, c.state.stage = .serving phase
  · obtain ⟨phase, hs⟩ := hs
    exact h.serve hs
  by_cases hc : ∃ e, c.state.stage = .closingAdapter e
  · obtain ⟨e, hc⟩ := hc
    exact h.closeAdapter hc
  exact h.passOn ha (not_exists.mp hs) (not_exists.mp hc)

theorem Orderly.play (h : c.Orderly Interrupted) (moves : List (Move σ)) (hi : Move.stopQueue ∈ moves → Interrupted) :
    (c.play rig moves).Orderly Interrupted := by
  induction moves generalizing c with
  | nil => exact h
  | cons m moves ih =>
    rw [play_cons]
    refine ih ?_ fun hm => hi (List.mem_cons_of_mem m hm)
    cases m with
    | advance => exact h.advance
    | push command => exact h.disturb rfl rfl rfl (Or.inr (Or.inl ⟨command, rfl⟩))
    | raise signal => exact h.disturb rfl rfl rfl (Or.inr (Or.inl ⟨signal.command, rfl⟩))
    | hear n =>
      obtain ⟨hstage, hsignals, -, hst⟩ := State.hear_frame rig n c.state c.world
      refine h.disturb hstage hsignals rfl ?_
      rcases hst with hst | ⟨command, hst⟩
      · exact Or.inl (congrArg Station.queue hst)
      · exact Or.inr (Or.inl ⟨command, congrArg Station.queue hst⟩)
    | stopQueue => exact h.disturb rfl rfl rfl (Or.inr (Or.inr ⟨hi List.mem_cons_self, rfl⟩))
    | change f => exact h.disturb rfl rfl rfl (Or.inl rfl)

/-! ### From the beginning to the end -/

theorem orderly_begin {s : State} (hs : s.AtRest) (w : σ) : (begin s w).Orderly Interrupted where
  story := ⟨[], [], fun a ha => (by cases ha), rfl, by
    rw [show (begin s w).state.stage = .openingAdapter from hs.stage]
    rfl⟩
  quiet _ := hs.queue
  empty _ := hs.queue
  armed _ := hs.armed

/-- After its end a supervisor does nothing more, whatever others do. -/
theorem play_finished {fault : Option Fault} (hs : c.state.stage = .finished fault) (later : List (Move σ)) :
    (c.play rig later).state.stage = .finished fault ∧ (c.play rig later).log = c.log := by
  induction later generalizing c with
  | nil => exact ⟨hs, rfl⟩
  | cons m later ih =>
    have hm : (c.move rig m).state.stage = .finished fault ∧ (c.move rig m).log = c.log := by
      cases m with
      | advance =>
        rw [show c.move rig .advance = c.advance rig from rfl, advance_eq]
        simp [State.advance, State.requests, State.changes, hs]
      | push | raise | hear | stopQueue | change => exact ⟨hs, rfl⟩
    rw [play_cons, ← hm.2]
    exact ih hm.1

/-- Whatever the adapter and the feed answer, and whatever others do at whatever time: the log is the events of attempts
    one after another, and all but the last were sessions that a restart ended. The adapter is open at most once at a
    time. The supervisor ends when an attempt has led to its end, as that attempt asks; it then has closed all that it
    opened, and it is as it was before its first step. -/
theorem log_eq_flatMap_attempts (rig : Rig σ) {s : State} (hs : s.AtRest) (w : σ) (moves : List (Move σ)) :
    let c := (begin s w).play rig moves
    (∃ (past : List Attempt) (present : Attempt) (rest : List Event),
      (∀ a ∈ past, a.outcome? = none ∧ a.Caused (Move.stopQueue ∈ moves)) ∧ present.Caused (Move.stopQueue ∈ moves) ∧
      c.log = past.flatMap events ++ rest ∧ rest <+: present.events ∧
      ((∀ fault, c.state.stage ≠ .finished fault) → rest ≠ present.events) ∧
      ∀ fault, c.state.stage = .finished fault → rest = present.events ∧ present.outcome? = some fault) ∧
    (c.log.countP Event.closes ≤ c.log.countP Event.opens ∧
      c.log.countP Event.opens ≤ c.log.countP Event.closes + 1) ∧
    ∀ fault, c.state.stage = .finished fault →
      c.log.countP Event.opens = c.log.countP Event.closes ∧
      State.AtRest { c.state with stage := .openingAdapter } ∧ (∀ command, (c.state.push command).1 = false) ∧
      ∀ later, (c.play rig later).state.stage = .finished fault ∧ (c.play rig later).log = c.log := by
  intro c
  have h : c.Orderly (Move.stopQueue ∈ moves) := (orderly_begin hs w).play moves id
  obtain ⟨past, rest, hpast, hlog, hp⟩ := h.story
  have hpresent : ∃ present : Attempt, present.Caused (Move.stopQueue ∈ moves) ∧ rest <+: present.events ∧
      ((∀ fault, c.state.stage ≠ .finished fault) → rest ≠ present.events) ∧
      ∀ fault, c.state.stage = .finished fault → rest = present.events ∧ present.outcome? = some fault := by
    by_cases hf : ∃ fault, c.state.stage = .finished fault
    · obtain ⟨fault, hf⟩ := hf
      rw [hf] at hp ⊢
      obtain ⟨a, rfl, ha, hc⟩ := hp
      exact ⟨a, hc, List.prefix_rfl, fun hn => absurd rfl (hn fault), fun _ he => ⟨rfl, Stage.finished.inj he ▸ ha⟩⟩
    · have hn := not_exists.mp hf
      obtain ⟨a, missing, hc, he, hm⟩ := hp.unfinished hn
      exact ⟨a, hc, he ▸ List.prefix_append _ _, fun _ hr => hm (by simpa [he] using hr),
        fun fault hs => absurd hs (hn fault)⟩
  obtain ⟨present, hc, hpre, hunfinished, hfinished⟩ := hpresent
  have hbalance := countP_flatMap past
  have hrest := countP_prefix hpre
  refine ⟨⟨past, present, rest, hpast, hc, hlog, hpre, hunfinished, hfinished⟩, ?_, fun fault hf => ?_⟩
  · simp only [hlog, List.countP_append]
    omega
  · have hq : c.state.station.queue = .stopped := h.quiet (by rw [hf]; rfl)
    refine ⟨?_, ⟨rfl, hq, h.armed (by rw [hf]; rfl)⟩, fun command => by simp [State.push, hq, Queue.push, Queue.stopped],
      play_finished hf⟩
    simp only [hlog, List.countP_append, hbalance, (hfinished fault hf).1, present.countP_events.1]

/-- A restart ends the first session, and the adapter does not open a second time. -/
theorem log_eq_flatMap_attempts_refused_later :
    let s := (State.fresh ⟨"/run/feed", ⟨none, "box"⟩, true, none, .unset, "tag"⟩).installSignals
    let moves := List.replicate 8 Move.advance ++ [.push .restart] ++ List.replicate 7 .advance ++
      [.change (·.setFailOpen true)] ++ List.replicate 4 .advance
    let c := (begin s .fresh).play .loopback moves
    s.AtRest ∧ c.state.stage = .finished (some (.adapter (.openFailed "auto" "simulated failure"))) ∧
      State.AtRest { c.state with stage := .openingAdapter } := by
  intro s moves c
  have hs : s.AtRest := (State.atRest_fresh _).installSignals
  have hf : c.state.stage = .finished (some (.adapter (.openFailed "auto" "simulated failure"))) := by decide
  obtain ⟨-, -, h⟩ := log_eq_flatMap_attempts .loopback hs .fresh moves
  rw [show (begin s .fresh).play .loopback moves = c from rfl] at h
  exact ⟨hs, hf, (h _ hf).2.1⟩

end Course

end KeyFeed.Supervisor
