import KeyFeed.Proofs.Command.Ending
import KeyFeed.Proofs.Session.Execution
import KeyFeed.Session.Run

/-! What one step of a session can be. `Run.Step` has one case for each transition, with what holds before it and what
    is there after it; a property that every case keeps is kept by a session whatever others do between its steps. -/

namespace KeyFeed.Session
open Command

variable {σ : Type}

/-- The command that is executed in the next step. -/
def Phase.current : Phase → List Command
  | .executing c => [c]
  | _ => []

/-- A command that ends a session does nothing else. -/
theorem Station.execute_of_ending {c : Command} {e : SessionEnd} (h : c.ending? = some e) (out : Outlet σ)
    (st : Station) (w : σ) : st.execute out w c = (st, w) := by
  cases c with
  | restart | exit => rfl
  | standby | activate | inactive | keyPress => cases h

/-- The transitions of a session. -/
inductive Run.Step (out : Outlet σ) : Run σ → Run σ → Prop where
  | take {st : Station} {w : σ} {c : Command} {cs : List Command} (h : st.queue = ⟨true, c :: cs⟩) :
    Step out ⟨.polling, st, w⟩ ⟨.executing c, st.withQueue ⟨true, cs⟩, w⟩
  | miss {st : Station} {w : σ} (h : st.queue.running = false ∨ st.queue.commands = []) :
    Step out ⟨.polling, st, w⟩ ⟨.waiting, st, w⟩
  | wake {st : Station} {w : σ} (h : st.queue.running = true) : Step out ⟨.waiting, st, w⟩ ⟨.polling, st, w⟩
  /-- The queue was stopped from outside. -/
  | leave {st : Station} {w : σ} (h : st.queue.running = false) :
    Step out ⟨.waiting, st, w⟩ ⟨.ended .exit, st, out.notify .queueStopped w⟩
  | execute {st : Station} {w : σ} {c : Command} (h : c.ending? = none) :
    Step out ⟨.executing c, st, w⟩ ⟨.polling, (st.execute out w c).1, (st.execute out w c).2⟩
  | finish {st : Station} {w : σ} {c : Command} {e : SessionEnd} (h : c.ending? = some e) :
    Step out ⟨.executing c, st, w⟩ ⟨.ending e, st, w⟩
  | stop {st : Station} {w : σ} {e : SessionEnd} : Step out ⟨.ending e, st, w⟩ ⟨.ended e, st.withQueue .stopped, w⟩
  | rest {st : Station} {w : σ} {e : SessionEnd} : Step out ⟨.ended e, st, w⟩ ⟨.ended e, st, w⟩

theorem Run.advance_step (out : Outlet σ) (r : Run σ) : r.Step out (r.advance out) := by
  obtain ⟨phase, st, w⟩ := r
  cases phase with
  | polling =>
    rcases st.queue.pop_cases with ⟨c, cs, hq, hp⟩ | ⟨hq, hp⟩
    · simp only [advance, hp]
      exact .take hq
    · simp only [advance, hp]
      exact .miss hq
  | waiting =>
    cases hr : st.queue.running with
    | true =>
      simp only [advance, hr, ite_true]
      exact .wake hr
    | false =>
      simp only [advance, hr, Bool.false_eq_true, ite_false]
      exact .leave hr
  | executing c =>
    cases he : c.ending? with
    | none =>
      simp only [advance, he]
      exact .execute he
    | some e =>
      simp only [advance, he, Station.execute_of_ending he]
      exact .finish he
  | ending e => exact .stop
  | ended e => exact .rest

/-! ### How far a session has come -/

/-- What a session has executed in each phase. `Interrupted` says that someone outside may have stopped its queue. -/
def Phase.Pursued (Interrupted : Prop) (running : Bool) (executed : List Command) : Phase → Prop
  | .polling | .waiting | .executing _ => Ordinary executed ∧ (running = false → Interrupted)
  | .ending e => EndsAs executed e
  | .ended e => EndsAs executed e ∨ Ordinary executed ∧ e = .exit ∧ Interrupted

variable {Interrupted : Prop} {executed : List Command}

/-- What others do to the queue matters only when they stop it. -/
theorem Phase.Pursued.of_running {running running' : Bool} {phase : Phase}
    (h : phase.Pursued Interrupted running executed) (hi : running' = false → running = false ∨ Interrupted) :
    phase.Pursued Interrupted running' executed := by
  cases phase with
  | polling | waiting | executing => exact ⟨h.1, fun hr => (hi hr).elim h.2 id⟩
  | ending | ended => exact h

theorem Run.Step.pursued {out : Outlet σ} {r r' : Run σ} (hs : r.Step out r')
    (h : r.phase.Pursued Interrupted r.station.queue.running executed) :
    r'.phase.Pursued Interrupted r'.station.queue.running (executed ++ r.phase.current) := by
  cases hs with
  | take => exact ⟨by simpa [Phase.current] using h.1, fun hr => by cases hr⟩
  | miss | wake | rest => simpa [Phase.current, Phase.Pursued] using h
  | stop => exact Or.inl (by simpa [Phase.current, Phase.Pursued] using h)
  | leave hq => exact Or.inr ⟨by simpa [Phase.current] using h.1, rfl, h.2 hq⟩
  | execute hc => exact ⟨h.1.concat hc, by simpa using h.2⟩
  | finish hc => exact ⟨_, _, rfl, h.1, hc⟩

/-- A session has executed nothing that ends it, or one command that does, the last. -/
theorem Phase.Pursued.ordinary_or_endsAs {running : Bool} {phase : Phase}
    (h : phase.Pursued Interrupted running executed) : Ordinary executed ∨ ∃ e, EndsAs executed e := by
  cases phase with
  | polling | waiting | executing => exact Or.inl h.1
  | ending e => exact Or.inr ⟨e, h⟩
  | ended e => exact h.elim (fun he => Or.inr ⟨e, he⟩) fun ho => Or.inl ho.1

/-- A session that executed a command which ends it is about to end so, or has. -/
theorem Phase.Pursued.eq_of_endsAs {running : Bool} {phase : Phase} {e : SessionEnd}
    (h : phase.Pursued Interrupted running executed) (he : EndsAs executed e) : phase = .ending e ∨ phase = .ended e := by
  cases phase with
  | polling | waiting | executing => exact absurd h.1 he.not_ordinary
  | ending e' => exact Or.inl (congrArg _ (EndsAs.unique h he))
  | ended e' =>
    rcases h with he' | ho
    · exact Or.inr (congrArg _ (he'.unique he))
    · exact absurd ho.1 he.not_ordinary

end KeyFeed.Session
