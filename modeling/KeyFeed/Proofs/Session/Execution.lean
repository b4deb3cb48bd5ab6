import KeyFeed.Session.Dispatcher

/-! What the execution of a command touches. The queue plays no part in it: a station with another queue executes a
    command in the same way and keeps its queue. So the executions of a session can be told apart from everything
    that happens to its queue meanwhile (`executeAll`). -/

namespace KeyFeed.Session
open Feed Key

theorem Emitter.press_tag {e : Emitter} {code : UInt8} {emission : Emission} (h : e.press code = .ok emission) :
    emission.emitter.tag = e.tag := by
  unfold press at h
  cases hn : lookup code with
  | error => simp [hn, Except.map] at h
  | ok names =>
    simp only [hn, Except.map, Except.ok.injEq] at h
    subst h
    split <;> rfl

namespace Station

variable {σ : Type} (out : Outlet σ) (st : Station) (w : σ)

/-- The same station with another queue. -/
def withQueue (q : Queue) : Station := { st with queue := q }

@[simp] theorem withQueue_queue (q : Queue) : (st.withQueue q).queue = q := rfl

@[simp] theorem withQueue_withQueue (q q' : Queue) : (st.withQueue q).withQueue q' = st.withQueue q' := rfl

@[simp] theorem withQueue_self : st.withQueue st.queue = st := rfl

/-- An execution does with any queue what it does with this one. -/
theorem execute_withQueue (q : Queue) (c : Command) :
    (st.withQueue q).execute out w c = ((st.execute out w c).1.withQueue q, (st.execute out w c).2) := by
  cases c with
  | standby =>
    simp only [execute, withQueue]
    split <;> rfl
  | keyPress code =>
    simp only [execute, withQueue]
    split <;> rfl
  | activate | inactive | restart | exit => rfl

@[simp] theorem execute_queue (c : Command) : (st.execute out w c).1.queue = st.queue := by
  have h := execute_withQueue out st w st.queue c
  rw [withQueue_self] at h
  rw [h]
  rfl

/-- No command changes the commands of the user or the name of the source. -/
theorem execute_frame (c : Command) :
    (st.execute out w c).1.hooks = st.hooks ∧ (st.execute out w c).1.emitter.tag = st.emitter.tag := by
  cases c with
  | standby =>
    simp only [execute]
    split <;> exact ⟨rfl, rfl⟩
  | keyPress code =>
    simp only [execute]
    cases hp : st.emitter.press code with
    | ok emission => exact ⟨rfl, Emitter.press_tag hp⟩
    | error => exact ⟨rfl, rfl⟩
  | activate | inactive | restart | exit => exact ⟨rfl, rfl⟩

/-- Executes commands one after another. -/
def executeAll (cs : List Command) : Station × σ := cs.foldl (fun p c => p.1.execute out p.2 c) (st, w)

@[simp] theorem executeAll_nil : st.executeAll out w [] = (st, w) := rfl

@[simp] theorem executeAll_cons (c : Command) (cs : List Command) :
    st.executeAll out w (c :: cs) = (st.execute out w c).1.executeAll out (st.execute out w c).2 cs := rfl

theorem executeAll_concat (cs : List Command) (c : Command) :
    st.executeAll out w (cs ++ [c]) = (st.executeAll out w cs).1.execute out (st.executeAll out w cs).2 c := by
  simp [executeAll, List.foldl_append]

end Station

end KeyFeed.Session
