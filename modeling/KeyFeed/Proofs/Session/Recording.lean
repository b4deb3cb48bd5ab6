import KeyFeed.Proofs.Session.Step

/-! Surroundings that keep a record beside what they do. A session cannot tell them from those it would have without the
    record, and what the record holds in the end follows from the lines that each command writes (`linesOf`), one for each
    key that it stands for, and from the action that it runs (`actionOf`). -/

namespace KeyFeed.Command
open Key

/-- The keys that a command stands for, each with its code, where `onStandby` is the command of the user for that case. -/
def keys (onStandby : Option String) : Command → List (UInt8 × String)
  | .standby => if onStandby = none then [(0x40, "KEY_POWER"), (0x40, "KEY_POWER")] else []
  | .keyPress code =>
    if code ≤ 0x96 then (((Code.ofByte? code).map Code.names).getD []).map fun name => (code, name) else []
  | _ => []

end KeyFeed.Command

namespace KeyFeed.Session
open Bus Feed Key

variable {σ τ : Type}

/-- The same surroundings with a record that takes note of every line. -/
def Outlet.recording (out : Outlet σ) (note : String → τ → τ) : Outlet (σ × τ) where
  broadcast line p := ((out.broadcast line p.1).1, (out.broadcast line p.1).2, note line p.2)
  runAction t command p := ((out.runAction t command p.1).1, (out.runAction t command p.1).2, p.2)
  notify n p := (out.notify n p.1, p.2)

/-- The same surroundings with a record that takes note of every line and of every action, whatever comes of it. -/
def Outlet.noting (out : Outlet σ) (line : String → τ → τ) (action : Transition → String → τ → τ) : Outlet (σ × τ) where
  broadcast text p := ((out.broadcast text p.1).1, (out.broadcast text p.1).2, line text p.2)
  runAction t command p := ((out.runAction t command p.1).1, (out.runAction t command p.1).2, action t command p.2)
  notify n p := (out.notify n p.1, p.2)

theorem Outlet.recording_eq_noting (out : Outlet σ) (note : String → τ → τ) :
    out.recording note = out.noting note fun _ _ x => x := rfl

namespace Station

/-- The lines that a command writes. -/
def linesOf (st : Station) : Command → List Line
  | .standby => match st.hooks.onStandby with
    | some _ => []
    | none => (st.emitter.pressAndRelease .power).lines
  | .keyPress code => match st.emitter.press code with
    | .ok emission => emission.lines
    | .error _ => []
  | _ => []

/-- The action that a command runs. -/
def actionOf (st : Station) : Command → Option (Transition × String)
  | .standby => st.hooks.onStandby.map fun command => (.standby, command)
  | .activate => st.hooks.onActivate.map fun command => (.activate, command)
  | .inactive => st.hooks.onDeactivate.map fun command => (.deactivate, command)
  | .restart | .keyPress _ | .exit => none

/-- The line of a key. -/
def keyLine (tag : String) (key : UInt8 × String) : Line := ⟨key.1.toUInt32, false, key.2, tag⟩

/-- A command writes one line for each of its keys. -/
theorem linesOf_eq (st : Station) (c : Command) :
    st.linesOf c = (c.keys st.hooks.onStandby).map (keyLine st.emitter.tag) := by
  cases c with
  | standby =>
    simp only [linesOf, Command.keys]
    cases st.hooks.onStandby with
    | none => rfl
    | some => rfl
  | keyPress code =>
    simp only [linesOf, Command.keys, Emitter.press, lookup_eq, show maxCode = 0x96 from rfl]
    by_cases hle : code ≤ 0x96
    · simp only [hle, ite_true, Except.map]
      cases ((Code.ofByte? code).map Code.names).getD [] with
      | nil => rfl
      | cons name names => simp [Emitter.lines, keyLine]
    · simp [hle, Except.map]
  | activate | inactive | restart | exit => rfl

section
variable (out : Outlet σ) (line : String → τ → τ) (action : Transition → String → τ → τ) (st : Station) (w : σ) (x : τ)

theorem broadcastLines_noting (lines : List Line) :
    broadcastLines (out.noting line action) lines (w, x) =
      (broadcastLines out lines w, lines.foldl (fun x l => line l.text x) x) := by
  induction lines generalizing w x with
  | nil => rfl
  | cons l lines ih => exact ih _ _

theorem runHook_noting (t : Transition) : st.runHook (out.noting line action) t (w, x) =
    (st.runHook out t w, ((st.hooks.get? t).map fun command => action t command x).getD x) := by
  simp only [runHook]
  cases st.hooks.get? t with
  | none => rfl
  | some command =>
    simp only [Outlet.noting]
    rcases out.runAction t command w with ⟨_ | _, _⟩ <;> rfl

/-- A command does to its surroundings what it does without the record, and what is noted does not depend on them. -/
theorem execute_noting (c : Command) :
    st.execute (out.noting line action) (w, x) c = ((st.execute out w c).1, (st.execute out w c).2,
      (st.actionOf c).toList.foldl (fun x a => action a.1 a.2 x)
        ((st.linesOf c).foldl (fun x l => line l.text x) x)) := by
  cases c with
  | standby =>
    simp only [execute, linesOf, actionOf]
    cases hs : st.hooks.onStandby with
    | none => simp [broadcastLines_noting]
    | some command => simp [runHook_noting, Hooks.get?, hs]
  | activate =>
    simp only [execute, linesOf, actionOf, runHook_noting, Hooks.get?]
    cases st.hooks.onActivate <;> rfl
  | inactive =>
    simp only [execute, linesOf, actionOf, runHook_noting, Hooks.get?]
    cases st.hooks.onDeactivate <;> rfl
  | keyPress code =>
    simp only [execute, linesOf, actionOf]
    cases st.emitter.press code with
    | ok => simp [broadcastLines_noting]
    | error => rfl
  | restart | exit => rfl

end

variable (out : Outlet σ) (note : String → τ → τ) (st : Station) (w : σ) (x : τ)

theorem execute_recording (c : Command) :
    st.execute (out.recording note) (w, x) c =
      ((st.execute out w c).1, (st.execute out w c).2, (st.linesOf c).foldl (fun x line => note line.text x) x) := by
  rw [Outlet.recording_eq_noting, execute_noting]
  cases st.actionOf c <;> rfl

theorem notify_all_recording (notices : List Notice) :
    notices.foldl (fun p n => (out.recording note).notify n p) (w, x) =
      (notices.foldl (fun w n => out.notify n w) w, x) := by
  induction notices generalizing w with
  | nil => rfl
  | cons n notices ih => exact ih _

/-- A notification writes no line. -/
theorem deliver_recording (l : Listener) (n : Notification) :
    st.deliver (out.recording note) l n (w, x) =
      ((st.deliver out l n w).1, (st.deliver out l n w).2.1, (st.deliver out l n w).2.2, x) := by
  simp only [deliver, notify_all_recording]
  cases (l.hear st.wantsActive n).command <;> rfl

end Station

theorem Run.advance_recording (out : Outlet σ) (note : String → τ → τ) (phase : Phase) (st : Station) (w : σ) (x : τ) :
    (⟨phase, st, (w, x)⟩ : Run (σ × τ)).advance (out.recording note) =
      let r := (⟨phase, st, w⟩ : Run σ).advance out
      ⟨r.phase, r.station, r.world, (phase.current.flatMap st.linesOf).foldl (fun x line => note line.text x) x⟩ := by
  cases phase with
  | polling =>
    simp only [advance]
    rcases st.queue.pop with ⟨_ | _, _⟩ <;> rfl
  | waiting =>
    simp only [advance]
    cases st.queue.running <;> rfl
  | executing c => simp [advance, Phase.current, Station.execute_recording]
  | ending | ended => rfl

/-- What a record holds that keeps the text of every line. -/
theorem foldl_concat_text (new : List Line) (lines : List String) :
    new.foldl (fun lines line => lines ++ [line.text]) lines = lines ++ new.map Line.text := by
  induction new generalizing lines with
  | nil => simp
  | cons line new ih => simp [ih]

end KeyFeed.Session
