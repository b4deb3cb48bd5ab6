import KeyFeed.Proofs.Session.Effects
import KeyFeed.Proofs.Supervisor.Shutdown

/-! When a supervisor claims the active source. A session starts with its queue, and the claim is the next thing that
    shows, or there is none in this session. Which of the two it is follows from what was executed in the sessions before
    (`executedIn`): the answers to earlier claims, the ends of actions and commands that were thrown away with the queue
    leave no trace. -/

namespace KeyFeed.Supervisor
open Bus Adapter Feed Session Command

variable {σ : Type}

/-- The queue has been started, and the claim is still to come, if there is one. -/
def Stage.isStarting : Stage → Bool
  | .disarmingSignals | .announcing | .claimingSource => true
  | _ => false

/-- The commands that were executed, in their order. -/
def executedIn (log : List Event) : List Command :=
  log.filterMap fun
    | .executed c => some c
    | _ => none

@[simp] theorem executedIn_append (log new : List Event) : executedIn (log ++ new) = executedIn log ++ executedIn new :=
  List.filterMap_append

/-- The first event is a claim. -/
def ClaimedFirst (log : List Event) : Prop := ∃ answer rest, log = .sourceClaimed answer :: rest

/-- Events that tell nothing of the active source. -/
def Event.isAside : Event → Bool
  | .queueStarted | .sourceClaimed _ | .executed _ => false
  | _ => true

theorem executedIn_of_isAside {new : List Event} (h : ∀ e ∈ new, e.isAside = true) : executedIn new = [] := by
  refine List.filterMap_eq_nil_iff.mpr fun e he => ?_
  cases e with
  | executed => cases h _ he
  | _ => rfl

/-! ### One step -/

/-- What a step shows, with the flag and whether a session is starting, before and after it. -/
inductive Stride (flag : Bool) : Bool → List Event → Bool → Bool → Prop where
  | start : Stride flag false [.queueStarted] flag true
  | prepare : Stride flag true [] flag true
  | claim (answer : Answer) (h : flag = true) : Stride flag true [.sourceClaimed answer] flag false
  | pass (h : flag = false) : Stride flag true [] flag false
  | execute (c : Command) : Stride flag false [.executed c] (flagAfter flag [c]) false
  | aside (new : List Event) (h : ∀ e ∈ new, e.isAside = true) : Stride flag false new flag false

/-- One step of the session that is served, by the cases of `Run.Step`. -/
theorem State.stride_serve (rig : Rig σ) {s : State} (w : σ) {phase : Phase} (hs : s.stage = .serving phase) :
    Stride s.station.wantsActive s.stage.isStarting (s.requests rig w ++ s.changes (s.advance rig w).1)
      (s.advance rig w).1.station.wantsActive (s.advance rig w).1.stage.isStarting := by
  obtain ⟨options, station, listener, signals, sessions, stage⟩ := s
  obtain rfl : stage = .serving phase := hs
  have hstep := (⟨phase, station, w⟩ : Run σ).advance_step rig.toOutlet
  simp only [advance, serve, requests, List.nil_append]
  generalize (⟨phase, station, w⟩ : Run σ).advance rig.toOutlet = r at hstep
  cases hstep with
  | take hq => exact .aside _ (by simp [changes, isRunning, hq])
  | miss | wake => exact .aside _ (by simp [changes, isRunning])
  | leave | stop | rest => exact .aside _ (by simp [changes, Event.isAside])
  | @execute _ _ c =>
    simp only [changes, Station.execute_wantsActive]
    exact .execute c
  | @finish _ _ c e hc =>
    have h : Stride station.wantsActive false [.executed c] (flagAfter station.wantsActive [c]) false := .execute c
    rwa [flagAfter_of_ending hc] at h

theorem State.stride_advance (rig : Rig σ) {s : State} (w : σ)
    (hquiet : s.stage.isQuiet = true → s.station.queue = .stopped) :
    Stride s.station.wantsActive s.stage.isStarting (s.requests rig w ++ s.changes (s.advance rig w).1)
      (s.advance rig w).1.station.wantsActive (s.advance rig w).1.stage.isStarting := by
  obtain ⟨options, station, listener, signals, sessions, stage⟩ := s
  cases stage with
  | serving phase => exact stride_serve rig w rfl
  | openingAdapter =>
    have hq : station.queue = .stopped := hquiet rfl
    simp only [requests, advance, openAdapter]
    rcases rig.openAdapter options.adapter w with ⟨e | reports, w'⟩
    · exact .aside _ (by simp [changes, isRunning, Event.isAside])
    · obtain ⟨-, -, hstation⟩ := hearAll_frame rig reports
        ⟨options, station, .fresh, signals, sessions, .openingAdapter⟩ w' (by simp [hq, Queue.stopped])
      simp only [hstation]
      exact .aside _ (by simp [changes, isRunning, Event.isAside])
  | settingTarget =>
    refine .aside _ ?_
    cases options.target <;> simp [requests, advance, changes, isRunning, Event.isAside]
  | openingFeed =>
    simp only [requests, advance]
    rcases rig.openFeed options.socketPath w with ⟨e | _, w'⟩
    all_goals exact .aside _ (by simp [changes, isRunning, Event.isAside])
  | startingQueue =>
    have hq : station.queue = .stopped := hquiet rfl
    simp only [requests, advance, changes, isRunning, hq]
    exact .start
  | disarmingSignals | announcing =>
    simp only [requests, advance, changes, isRunning, setSignals, Bool.not_and_self]
    exact .prepare
  | claimingSource =>
    simp only [requests, advance, changes, isRunning, Bool.not_and_self]
    cases hw : station.wantsActive with
    | false => exact .pass rfl
    | true => exact .claim _ rfl
  | closingAdapter e =>
    cases e <;> exact .aside _ (by simp [requests, advance, closeAdapter, changes, isRunning, Event.isAside])
  | retreating | rearmingSignals | closingFeed | finished =>
    exact .aside _ (by simp [requests, advance, setSignals, changes, isRunning, Event.isAside])

/-! ### The whole log -/

/-- Where an event stands in a log that has grown: in the old part or in the new. -/
theorem split_append {log new before after : List Event} {e : Event} (h : log ++ new = before ++ e :: after) :
    (∃ middle, log = before ++ e :: middle ∧ after = middle ++ new) ∨
      ∃ middle, before = log ++ middle ∧ new = middle ++ e :: after := by
  rcases List.append_eq_append_iff.mp h with ⟨middle, hbefore, hnew⟩ | ⟨middle, hlog, hafter⟩
  · exact Or.inr ⟨middle, hbefore, hnew⟩
  · cases middle with
    | nil => exact Or.inr ⟨[], by simpa using hlog.symm, hafter.symm⟩
    | cons d middle =>
      obtain ⟨rfl, rfl⟩ := List.cons.inj hafter
      exact Or.inl ⟨middle, hlog, rfl⟩

theorem claimedFirst_append {log new : List Event} (h : log ≠ [] ∨ ∀ answer, Event.sourceClaimed answer ∉ new) :
    ClaimedFirst (log ++ new) ↔ ClaimedFirst log := by
  cases log with
  | cons e log => simp [ClaimedFirst]
  | nil =>
    have hnew := h.resolve_left fun hne => hne rfl
    constructor
    · rintro ⟨answer, rest, rfl⟩
      exact absurd List.mem_cons_self (hnew answer)
    · rintro ⟨_, _, hnil⟩
      cases hnil

/-- In a log every session has claimed the source at once if the flag was on after all that had been executed before it,
    and otherwise not at all; `first` is the flag of the beginning. The session that is starting has yet to decide. -/
structure Decided (first : Bool) (log : List Event) (flag starting : Bool) : Prop where
  flag : flag = flagAfter first (executedIn log)
  begun : starting = true → ∃ before, log = before ++ [.queueStarted]
  claimed : ∀ before after, log = before ++ .queueStarted :: after → after ≠ [] ∨ starting = false →
    (ClaimedFirst after ↔ flagAfter first (executedIn before) = true)
  prompt : ∀ before answer after, log = before ++ .sourceClaimed answer :: after →
    ∃ earlier, before = earlier ++ [.queueStarted]

namespace Decided

variable {first flag flag' starting starting' : Bool} {log new : List Event}

/-- While no session is starting, nothing is claimed. -/
theorem grow (h : Decided first log flag false) (hflag : flag' = flagAfter flag (executedIn new))
    (hclaim : ∀ answer, Event.sourceClaimed answer ∉ new)
    (hstart : new = [.queueStarted] ∧ starting' = true ∨ Event.queueStarted ∉ new ∧ starting' = false) :
    Decided first (log ++ new) flag' starting' where
  flag := by rw [hflag, h.flag, executedIn_append, flagAfter_append]
  begun hs := by
    rcases hstart with ⟨rfl, -⟩ | ⟨-, hs'⟩
    · exact ⟨log, rfl⟩
    · rw [hs] at hs'
      cases hs'
  claimed before after heq hdone := by
    rcases split_append heq with ⟨middle, hlog, rfl⟩ | ⟨middle, -, hnew⟩
    · rw [claimedFirst_append (Or.inr hclaim)]
      exact h.claimed before middle hlog (Or.inr rfl)
    · rcases hstart with ⟨rfl, rfl⟩ | ⟨hnone, -⟩
      · -- The new event is the start itself, and nothing has followed it yet.
        obtain ⟨-, rfl⟩ : middle = [] ∧ after = [] := by simpa [List.append_eq_singleton_iff] using hnew.symm
        simp at hdone
      · exact absurd (by simp [hnew]) hnone
  prompt before answer after heq := by
    rcases split_append heq with ⟨middle, hlog, -⟩ | ⟨middle, -, hnew⟩
    · exact h.prompt before answer middle hlog
    · exact absurd (by simp [hnew]) (hclaim answer)

/-- The session that is starting claims the source or passes over it, as the flag says. -/
theorem settle (h : Decided first log flag true) (hnew : new = [] ∨ ∃ answer, new = [.sourceClaimed answer])
    (hclaim : ClaimedFirst new ↔ flag = true) : Decided first (log ++ new) flag false := by
  have hquiet : executedIn new = [] ∧ Event.queueStarted ∉ new := by
    rcases hnew with rfl | ⟨answer, rfl⟩ <;> simp [executedIn]
  refine ⟨?_, fun hs => (by cases hs), fun before after heq _ => ?_, fun before answer after heq => ?_⟩
  · rw [executedIn_append, hquiet.1, List.append_nil]
    exact h.flag
  · rcases split_append heq with ⟨middle, hlog, rfl⟩ | ⟨middle, -, hmiddle⟩
    · cases middle with
      | cons e middle =>
        rw [claimedFirst_append (Or.inl (List.cons_ne_nil e middle))]
        exact h.claimed before _ hlog (Or.inl (List.cons_ne_nil e middle))
      | nil =>
        -- The start that is decided now: nothing has been executed since, so the flag is what it was before.
        have hbefore : executedIn log = executedIn before := by simp [hlog, executedIn]
        rw [List.nil_append, hclaim, h.flag, hbefore]
    · exact absurd (by simp [hmiddle]) hquiet.2
  · rcases split_append heq with ⟨middle, hlog, -⟩ | ⟨middle, rfl, hmiddle⟩
    · exact h.prompt before answer middle hlog
    · obtain rfl : middle = [] := by
        rcases hnew with rfl | ⟨_, rfl⟩
        · simp at hmiddle
        · exact (List.append_eq_singleton_iff.mp hmiddle.symm).elim And.left fun hm => by cases hm.2
      rw [List.append_nil]
      exact h.begun rfl

theorem stride (h : Decided first log flag starting) (hs : Stride flag starting new flag' starting') :
    Decided first (log ++ new) flag' starting' := by
  cases hs with
  | start => exact h.grow rfl (by simp) (Or.inl ⟨rfl, rfl⟩)
  | prepare => rwa [List.append_nil]
  | claim answer hf => exact h.settle (Or.inr ⟨answer, rfl⟩) (iff_of_true ⟨answer, [], rfl⟩ hf)
  | pass hf => exact h.settle (Or.inl rfl) (by simp [ClaimedFirst, hf])
  | execute c => exact h.grow rfl (by simp) (Or.inr ⟨by simp, rfl⟩)
  | aside _ hnew =>
    refine h.grow (by rw [executedIn_of_isAside hnew]; rfl) (fun answer hmem => ?_) (Or.inr ⟨fun hmem => ?_, rfl⟩)
    · cases hnew _ hmem
    · cases hnew _ hmem

end Decided

/-! ### Courses -/

namespace Course

variable {first : Bool} {c : Course σ}

/-- So far, every session of a course has decided as it should. -/
def Decides (first : Bool) (c : Course σ) : Prop :=
  Decided first c.log c.state.station.wantsActive c.state.stage.isStarting

theorem Decides.move (h : c.Decides first) (hc : c.Orderly True) (rig : Rig σ) (m : Move σ) :
    (c.move rig m).Decides first := by
  cases hm : m.isAdvance with
  | true =>
    obtain rfl := Move.eq_advance hm
    rw [show c.move rig .advance = _ from advance_eq rig c, Decides, List.append_assoc]
    exact Decided.stride h (State.stride_advance rig c.world hc.quiet)
  | false =>
    obtain ⟨hlog, hstage, -⟩ := move_others rig c hm
    rw [Decides, hlog, hstage, (frame_others rig c hm).2]
    exact h

theorem Decides.play (h : c.Decides first) (hc : c.Orderly True) (rig : Rig σ) (moves : List (Move σ)) :
    (c.play rig moves).Decides first := by
  induction moves generalizing c with
  | nil => exact h
  | cons m moves ih => exact ih (h.move hc rig m) (hc.play [m] fun _ => trivial)

theorem decides_begin {s : State} (hs : s.AtRest) (w : σ) : (begin s w).Decides s.station.wantsActive where
  flag := rfl
  begun h := by
    rw [show (begin s w).state.stage = .openingAdapter from hs.stage] at h
    cases h
  claimed before after heq := by simp [begin] at heq
  prompt before answer after heq := by simp [begin] at heq

/-- Whatever the surroundings answer, and whatever others do at whatever time: a session claims the active source if the
    last command of all earlier sessions that was executed and said something about it was an activation, or if there was
    none and the options ask for it; and if not, it does not claim it. The claim directly follows the start of the queue,
    so it comes once and before any command of the session. -/
theorem sourceClaimed_iff_last_executed (rig : Rig σ) (options : Options) (handled : Bool) (w : σ)
    (moves : List (Move σ)) :
    let s := if handled then (State.fresh options).installSignals else State.fresh options
    let c := (begin s w).play rig moves
    (∀ before after, c.log = before ++ .queueStarted :: after → after ≠ [] ∨ c.state.stage.isStarting = false →
      ((∃ answer rest, after = .sourceClaimed answer :: rest) ↔
        (((executedIn before).filterMap Command.claim?).getLast?).getD options.makeActive = true)) ∧
    ∀ before answer after, c.log = before ++ .sourceClaimed answer :: after →
      ∃ earlier, before = earlier ++ [.queueStarted] := by
  intro s c
  have hs : s.AtRest ∧ s.station.wantsActive = options.makeActive := by
    cases handled with
    | false => exact ⟨State.atRest_fresh options, rfl⟩
    | true => exact ⟨(State.atRest_fresh options).installSignals, rfl⟩
  have h : c.Decides options.makeActive := hs.2 ▸ (decides_begin hs.1 w).play (orderly_begin hs.1 w) rig moves
  refine ⟨fun before after heq hdone => ?_, h.prompt⟩
  rw [← flagAfter_eq]
  exact h.claimed before after heq hdone

/-- The second session claims the source against the options, since the first has executed an activation: that its action
    failed makes no difference, nor does the deselection that was thrown away behind the restart. -/
theorem sourceClaimed_iff_last_executed_discarded :
    let rig : Rig (Loopback Unit) := { Rig.loopback with
      runAction t command a := (.error (.failed t.label command "exit status: 1"), a)
      claimSource a := (.error (.rejected "busy"), a) }
    let s := (State.fresh ⟨"/run/feed", ⟨none, "box"⟩, false, none, ⟨none, some "on", none⟩, "tag"⟩).installSignals
    let moves := List.replicate 8 Move.advance ++ [.push .activate, .push .restart, .push .inactive] ++
      List.replicate 16 .advance
    ∃ before after, ((begin s .fresh).play rig moves).log = before ++ .queueStarted :: after ∧
      executedIn before = [.activate, .restart] ∧ ∃ answer rest, after = .sourceClaimed answer :: rest := by
  intro rig s moves
  obtain ⟨h, -⟩ := sourceClaimed_iff_last_executed rig s.options true .fresh moves
  have hlog : ((begin s .fresh).play rig moves).log =
      [.adapterOpened (.ok ()), .feedOpened (.ok ()), .queueStarted, .executed .activate, .executed .restart,
        .ended .restart, .feedClosed, .adapterClosed false, .adapterOpened (.ok ()), .feedOpened (.ok ())] ++
      .queueStarted :: [.sourceClaimed (.error (.rejected "busy"))] := by decide
  exact ⟨_, _, hlog, rfl, (h _ _ hlog (Or.inr (by decide))).mpr rfl⟩

end Course

end KeyFeed.Supervisor
