import KeyFeed.Proofs.Command.Ending
import KeyFeed.Proofs.Session.Step
import KeyFeed.Session.Record

/-! A session among others. Between two of its steps anyone may push commands or stop its queue, as often and in
    whatever order they like. An `Account` follows such a schedule and notes which commands the queue took and which
    ones the session executed. The main result says that the session executes what the queue took, in that order and
    each command once, up to the first command that ends a session, and that it ends as that command asks. -/

namespace KeyFeed.Session
open Command

/-! ### Schedules -/

/-- A step of the session, or what someone else does to its queue. -/
inductive Move where
  | advance
  | push (c : Command)
  /-- Someone outside stops the queue. -/
  | stopQueue
  deriving DecidableEq, Repr

/-- A session with what went through its queue. -/
structure Account (σ : Type) where
  run : Run σ
  /-- What was queued at first and what the queue took since, in the order of its lock. -/
  accepted : List Command
  executed : List Command

namespace Account

variable {σ : Type}

def begin (st : Station) (w : σ) : Account σ := ⟨.begin st w, st.queue.commands, []⟩

def move (out : Outlet σ) : Move → Account σ → Account σ
  | .advance, a => { a with run := a.run.advance out, executed := a.executed ++ a.run.phase.current }
  | .push c, a =>
    { a with run := a.run.push c, accepted := a.accepted ++ if (a.run.station.queue.push c).1 then [c] else [] }
  | .stopQueue, a => { a with run := a.run.stopQueue }

/-- Makes the moves one after another. -/
def play (out : Outlet σ) (moves : List Move) (a : Account σ) : Account σ := moves.foldl (fun a m => a.move out m) a

@[simp] theorem play_nil (out : Outlet σ) (a : Account σ) : a.play out [] = a := rfl

@[simp] theorem play_cons (out : Outlet σ) (m : Move) (moves : List Move) (a : Account σ) :
    a.play out (m :: moves) = (a.move out m).play out moves := rfl

/-! ### What every move keeps -/

/-- The executed, the queued and the discarded commands, tied to those that the queue took. -/
structure Sound (Interrupted : Prop) (a : Account σ) : Prop where
  /-- Nothing is executed that was not taken, nothing twice, nothing out of turn. -/
  order : a.executed ++ a.run.phase.current <+: a.accepted
  /-- While the queue runs, nothing that it took is lost. -/
  whole : a.run.station.queue.running = true →
    a.executed ++ a.run.phase.current ++ a.run.station.queue.commands = a.accepted
  empty : a.run.station.queue.running = false → a.run.station.queue.commands = []
  pursued : a.run.phase.Pursued Interrupted a.run.station.queue.running a.executed
  stopped : ∀ e, a.run.phase = .ended e → a.run.station.queue = .stopped

/-- The session did to its station and to the world what its commands do; besides, it reports at its end when its
    queue was stopped before any command ended it. -/
structure Faithful (out : Outlet σ) (st : Station) (w : σ) (a : Account σ) : Prop where
  station : a.run.station.withQueue st.queue = (st.executeAll out w a.executed).1
  world : ¬(a.run.isOver = true ∧ Ordinary a.executed) → a.run.world = (st.executeAll out w a.executed).2
  report : a.run.isOver = true → Ordinary a.executed →
    a.run.world = out.notify .queueStopped (st.executeAll out w a.executed).2

variable {Interrupted : Prop} {a : Account σ} {out : Outlet σ}

theorem sound_begin {st : Station} {w : σ} (h : st.queue.running = true) : (begin st w).Sound Interrupted where
  order := List.nil_prefix
  whole _ := rfl
  empty hr := absurd hr (ne_false_of_eq_true h)
  pursued := ⟨ordinary_nil, fun hr => absurd hr (ne_false_of_eq_true h)⟩
  stopped e he := by cases he

/-- A stopped queue without commands is as stopped as one can be. -/
theorem Sound.eq_stopped (h : a.Sound Interrupted) (hr : a.run.station.queue.running = false) :
    a.run.station.queue = .stopped := by
  show (⟨a.run.station.queue.running, a.run.station.queue.commands⟩ : Queue) = .stopped
  rw [hr, h.empty hr]
  rfl

/-- A step that leaves the queue as it is, and no command behind, keeps the account. -/
theorem Sound.keep (h : a.Sound Interrupted) {a' : Account σ} (hacc : a'.accepted = a.accepted)
    (hq : a'.run.station.queue = a.run.station.queue)
    (hex : a'.executed ++ a'.run.phase.current = a.executed ++ a.run.phase.current)
    (hp : a'.run.phase.Pursued Interrupted a'.run.station.queue.running a'.executed)
    (hs : ∀ e, a'.run.phase = .ended e → a'.run.station.queue = .stopped) : a'.Sound Interrupted where
  order := by
    rw [hex, hacc]
    exact h.order
  whole hr := by
    rw [hq] at hr ⊢
    rw [hex, hacc]
    exact h.whole hr
  empty hr := by
    rw [hq] at hr ⊢
    exact h.empty hr
  pursued := hp
  stopped := hs

theorem Sound.advance (h : a.Sound Interrupted) : (a.move out .advance).Sound Interrupted := by
  obtain ⟨r, accepted, executed⟩ := a
  have hs := r.advance_step out
  have hp := hs.pursued h.pursued
  simp only [move]
  generalize r.advance out = r' at hs hp
  cases hs with
  | @take st w c cs hq =>
    have hall : executed ++ [c] ++ cs = accepted := by simpa [hq, Phase.current] using h.whole (by simp [hq])
    refine ⟨?_, fun _ => ?_, fun hr => ?_, hp, fun e he => by cases he⟩
    · simp [Phase.current, ← hall]
    · simpa [Phase.current] using hall
    · cases hr
  | miss | wake => exact h.keep rfl rfl (by simp [Phase.current]) hp fun e he => by cases he
  | leave hq => exact h.keep rfl rfl (by simp [Phase.current]) hp fun _ _ => h.eq_stopped hq
  | execute => exact h.keep rfl (by simp) (by simp [Phase.current]) hp fun e he => by cases he
  | finish => exact h.keep rfl rfl (by simp [Phase.current]) hp fun e he => by cases he
  | stop => exact ⟨by simpa [Phase.current] using h.order, fun hr => (by cases hr), fun _ => rfl, hp, fun _ _ => rfl⟩
  | rest => exact h.keep rfl rfl (by simp [Phase.current]) hp h.stopped

theorem Sound.push (h : a.Sound Interrupted) (c : Command) : (a.move out (.push c)).Sound Interrupted := by
  obtain ⟨⟨phase, st, w⟩, accepted, executed⟩ := a
  cases hr : st.queue.running with
  | true =>
    have hp := Queue.push_running hr c
    have hall := h.whole hr
    refine ⟨?_, fun _ => ?_, fun hr' => ?_, h.pursued.of_running fun hr' => ?_, fun e he => ?_⟩
    · simpa [move, Run.push, hp] using h.order.trans (List.prefix_append _ _)
    · simpa [move, Run.push, hp, ← List.append_assoc] using congrArg (· ++ [c]) hall
    · simp [move, Run.push, hp] at hr'
    · simp [move, Run.push, hp] at hr'
    · rw [show st.queue = .stopped from h.stopped e he] at hr
      cases hr
  | false =>
    have hp := Queue.push_stopped hr c
    have hsame : (⟨⟨phase, st, w⟩, accepted, executed⟩ : Account σ).move out (.push c) =
        ⟨⟨phase, st, w⟩, accepted, executed⟩ := by simp [move, Run.push, hp]
    rw [hsame]
    exact h

theorem Sound.stopQueue (h : a.Sound Interrupted) (hi : Interrupted) : (a.move out .stopQueue).Sound Interrupted where
  order := h.order
  whole hr := by cases hr
  empty _ := rfl
  pursued := h.pursued.of_running fun _ => Or.inr hi
  stopped _ _ := rfl

theorem Sound.play (h : a.Sound Interrupted) (moves : List Move) (hi : Move.stopQueue ∈ moves → Interrupted) :
    (a.play out moves).Sound Interrupted := by
  induction moves generalizing a with
  | nil => exact h
  | cons m moves ih =>
    rw [play_cons]
    refine ih ?_ fun hm => hi (List.mem_cons_of_mem m hm)
    cases m with
    | advance => exact h.advance
    | push c => exact h.push c
    | stopQueue => exact h.stopQueue (hi List.mem_cons_self)

theorem faithful_begin {st : Station} {w : σ} : (begin st w).Faithful out st w := ⟨rfl, fun _ => rfl, fun h => by cases h⟩

theorem Faithful.advance {st : Station} {w : σ} (h : a.Faithful out st w) (hs : a.Sound Interrupted) :
    (a.move out .advance).Faithful out st w := by
  obtain ⟨r, accepted, executed⟩ := a
  have hstep := r.advance_step out
  simp only [move]
  generalize r.advance out = r' at hstep
  have hp := hs.pursued
  cases hstep with
  | take | miss | wake =>
    refine ⟨by simpa [Phase.current] using h.station, fun _ => ?_, fun ho => by cases ho⟩
    simpa [Phase.current] using h.world (by simp [Run.isOver])
  | leave =>
    refine ⟨by simpa [Phase.current] using h.station, fun hn => ?_, fun _ _ => ?_⟩
    · exact absurd ⟨rfl, by simpa [Phase.current] using hp.1⟩ hn
    · simpa [Phase.current] using congrArg (out.notify .queueStopped) (h.world (by simp [Run.isOver]))
  | @execute st' w' c hc =>
    have hw : w' = (st.executeAll out w executed).2 := h.world (by simp [Run.isOver])
    have hx : (st.executeAll out w (executed ++ [c])) =
        ((st'.execute out w' c).1.withQueue st.queue, (st'.execute out w' c).2) := by
      rw [Station.executeAll_concat, ← h.station, ← hw, Station.execute_withQueue]
    exact ⟨by simp [Phase.current, hx], fun _ => by simp [Phase.current, hx], fun ho => by cases ho⟩
  | @finish st' w' c e hc =>
    have hw : w' = (st.executeAll out w executed).2 := h.world (by simp [Run.isOver])
    have hx : st.executeAll out w (executed ++ [c]) = (st'.withQueue st.queue, w') := by
      rw [Station.executeAll_concat, Station.execute_of_ending hc, ← h.station, ← hw]
    exact ⟨by simp [Phase.current, hx], fun _ => by simp [Phase.current, hx], fun ho => by cases ho⟩
  | stop =>
    refine ⟨by simpa [Phase.current] using h.station, fun _ => ?_, fun _ ho => ?_⟩
    · simpa [Phase.current] using h.world (by simp [Run.isOver])
    · exact absurd (by simpa [Phase.current] using ho) (EndsAs.not_ordinary hp)
  | rest =>
    refine ⟨by simpa [Phase.current] using h.station, fun hn => ?_, fun _ ho => ?_⟩
    · simpa [Phase.current] using h.world (by simpa [Phase.current, Run.isOver] using hn)
    · simpa [Phase.current] using h.report rfl (by simpa [Phase.current] using ho)

theorem Faithful.play {st : Station} {w : σ} (h : a.Faithful out st w) (hs : a.Sound Interrupted) (moves : List Move)
    (hi : Move.stopQueue ∈ moves → Interrupted) : (a.play out moves).Faithful out st w := by
  induction moves generalizing a with
  | nil => exact h
  | cons m moves ih =>
    rw [play_cons]
    have hs' : (a.move out m).Sound Interrupted :=
      hs.play [m] fun hm => hi (List.mem_cons.mpr (Or.inl (List.mem_singleton.mp hm)))
    refine ih ?_ hs' fun hm => hi (List.mem_cons_of_mem m hm)
    cases m with
    | advance => exact h.advance hs
    | push | stopQueue => exact ⟨h.station, h.world, h.report⟩

/-! ### The end of a session -/

/-- After its end a session does nothing more, and its queue takes nothing. -/
theorem play_ended {e : SessionEnd} (hp : a.run.phase = .ended e) (hq : a.run.station.queue = .stopped)
    (later : List Move) : a.play out later = a := by
  induction later with
  | nil => rfl
  | cons m later ih =>
    have hm : a.move out m = a := by
      obtain ⟨⟨phase, ⟨queue, active, hooks, emitter⟩, w⟩, accepted, executed⟩ := a
      obtain rfl : phase = .ended e := hp
      obtain rfl : queue = .stopped := hq
      cases m with
      | advance => simp [move, Run.advance, Phase.current]
      | push c => simp [move, Run.push, Queue.push, Queue.stopped]
      | stopQueue => rfl
    rw [play_cons, hm]
    exact ih

/-- A session that executed a command which ends it is over as soon as it takes another step. -/
theorem play_ending {e : SessionEnd} (hp : a.run.phase = .ending e) {later : List Move}
    (hl : Move.advance ∈ later) : (a.play out later).run.phase = .ended e := by
  induction later generalizing a with
  | nil => cases hl
  | cons m later ih =>
    rw [play_cons]
    cases m with
    | advance =>
      have hended : (a.move out .advance).run = ⟨.ended e, a.run.station.withQueue .stopped, a.run.world⟩ := by
        simp only [move, Run.advance, hp]
        rfl
      rw [play_ended (by rw [hended]) (by rw [hended]; rfl), hended]
    | push | stopQueue => exact ih hp (by simpa using hl)

/-- Whatever others do to the queue of a session, and whenever they do it: the session executes what the queue took,
    in that order and each command once, up to the first command that ends a session. It ends as that command asks;
    or the queue was stopped from outside, and it ends for good. At its end the queue is stopped for good and empty. -/
theorem executed_prefix_untilEnd_accepted (out : Outlet σ) (st : Station) (w : σ) (running : st.queue.running = true)
    (moves : List Move) :
    let a := (begin st w).play out moves
    a.executed <+: untilEnd a.accepted ∧
    a.Faithful out st w ∧
    (∀ e, EndsAs a.executed e → ∀ later, Move.advance ∈ later → (a.play out later).run.phase = .ended e) ∧
    (∀ e, a.run.phase = .ended e →
      (EndsAs a.executed e ∨ Ordinary a.executed ∧ e = .exit ∧ Move.stopQueue ∈ moves) ∧
      (Move.stopQueue ∉ moves → a.executed = untilEnd a.accepted) ∧
      a.run.station.queue = .stopped ∧
      (∀ later, a.play out later = a) ∧ ∀ c, (a.run.station.queue.push c).1 = false) := by
  intro a
  have hb : (begin st w).Sound (Move.stopQueue ∈ moves) := sound_begin running
  have hs : a.Sound (Move.stopQueue ∈ moves) := hb.play moves id
  have hp : a.executed <+: a.accepted := (List.prefix_append _ _).trans hs.order
  refine ⟨?_, faithful_begin.play hb moves id, fun e he later hl => ?_, fun e he => ?_⟩
  · rcases hs.pursued.ordinary_or_endsAs with ho | ⟨e, he⟩
    · exact ho.prefix_untilEnd hp
    · exact he.untilEnd_eq hp ▸ List.prefix_rfl
  · rcases hs.pursued.eq_of_endsAs he with hphase | hphase
    · exact play_ending hphase hl
    · rw [play_ended hphase (hs.stopped e hphase)]
      exact hphase
  · have hq := hs.stopped e he
    have hend : EndsAs a.executed e ∨ Ordinary a.executed ∧ e = .exit ∧ Move.stopQueue ∈ moves := by
      simpa only [he, Phase.Pursued] using hs.pursued
    refine ⟨hend, fun hn => ?_, hq, fun later => play_ended he hq later, fun c => by rw [hq]; rfl⟩
    rcases hend with hend | ⟨-, -, hm⟩
    · exact (hend.untilEnd_eq hp).symm
    · exact absurd hm hn

/-- A restart is taken behind another command; what is pushed before the queue stops is taken and never executed. -/
theorem executed_prefix_untilEnd_accepted_restart :
    let st : Station := { Station.fresh true .unset "tag" with queue := ⟨true, [.inactive]⟩ }
    let moves : List Move := [.push .restart, .advance, .advance, .advance, .push .standby, .advance, .push .exit, .advance,
      .push .activate]
    let a := (begin st Record.empty).play (Record.outlet fun _ => none) moves
    st.queue.running = true ∧ a.accepted = [.inactive, .restart, .standby, .exit] ∧ a.run.phase = .ended .restart ∧
      a.executed = untilEnd a.accepted := by
  refine ⟨rfl, by decide, by decide, ?_⟩
  exact ((executed_prefix_untilEnd_accepted _ _ _ rfl _).2.2.2 .restart (by decide)).2.1 (by decide)

end Account

end KeyFeed.Session
