import KeyFeed.Proofs.Session.Deselection

/-! What commands come to that are executed one after another. Seen from outside, an execution sends out lines and actions
    (`Output`); inside, it changes the flag of the active source and the latest key names, and nothing else. All of this
    follows from the commands, the hooks and what was there at the beginning. How many receive a line and how an action ends
    makes no difference. -/

namespace KeyFeed.Command
open Key Session

/-! ### What a command asks for -/

/-- What a command says about this device: that it became the active source, or that another one did. -/
def claim? : Command → Option Bool
  | .activate => some true
  | .inactive => some false
  | .standby | .restart | .keyPress _ | .exit => none

/-- The action of a command, under its label, where the user has set one. -/
def action? (hooks : Hooks) : Command → Option (String × String)
  | .standby => hooks.onStandby.map fun command => ("standby", command)
  | .activate => hooks.onActivate.map fun command => ("activate", command)
  | .inactive => hooks.onDeactivate.map fun command => ("deactivate", command)
  | .restart | .keyPress _ | .exit => none

/-- The names of the key that a command writes, where `onStandby` is the command of the user for that case. -/
def names (onStandby : Option String) : Command → List String
  | .standby => if onStandby = none then ["KEY_POWER"] else []
  | .keyPress code => if code ≤ 0x96 then ((Code.ofByte? code).map Code.names).getD [] else []
  | .activate | .inactive | .restart | .exit => []

/-- A command has names just when it writes a line. -/
theorem isEmpty_names (onStandby : Option String) (c : Command) :
    (c.names onStandby).isEmpty = (c.keys onStandby).isEmpty := by
  cases c with
  | standby =>
    simp only [names, keys]
    split <;> rfl
  | keyPress code =>
    simp only [names, keys]
    split
    · exact List.isEmpty_map.symm
    · rfl
  | activate | inactive | restart | exit => rfl

theorem ending?_eq_some_iff {c : Command} {e : SessionEnd} :
    c.ending? = some e ↔ c = .restart ∧ e = .restart ∨ c = .exit ∧ e = .exit := by
  cases c <;> simp [ending?, eq_comm]

end KeyFeed.Command

namespace KeyFeed.Session
open Bus Feed Key

variable {σ : Type}

/-- The flag is what the latest command says that says something about it. -/
theorem flagAfter_eq (flag : Bool) (cs : List Command) :
    flagAfter flag cs = ((cs.filterMap Command.claim?).getLast?).getD flag := by
  induction cs generalizing flag with
  | nil => rfl
  | cons c cs ih =>
    rw [show flagAfter flag (c :: cs) = flagAfter (flagAfter flag [c]) cs from rfl, ih]
    cases c with
    | activate | inactive => simp [Command.claim?, flagAfter, List.getLast?_cons]
    | standby | restart | keyPress | exit => rfl

/-! ### Seen from outside -/

/-- Lines, and actions under their labels, each in the order in which they were sent out. -/
structure Output where
  lines : List String
  actions : List (String × String)
  deriving DecidableEq, Repr

def Output.none : Output := ⟨[], []⟩

/-- The same surroundings with a note of all that they are sent. -/
def Outlet.observed (out : Outlet σ) : Outlet (σ × Output) :=
  out.noting (fun line o => { o with lines := o.lines ++ [line] })
    fun t command o => { o with actions := o.actions ++ [(t.label, command)] }

/-- The execution of a command ends the session as the command says. -/
theorem Run.end?_executing (out : Outlet σ) (c : Command) (st : Station) (w : σ) :
    ((⟨.executing c, st, w⟩ : Run σ).advance out).end? = c.ending? := by
  cases c <;> rfl

namespace Station

variable (out : Outlet σ) (st : Station) (w : σ)

theorem map_label_actionOf (c : Command) :
    (st.actionOf c).map (fun a => (a.1.label, a.2)) = c.action? st.hooks := by
  cases c with
  | standby | activate | inactive =>
    simp only [actionOf, Command.action?, Option.map_map]
    rfl
  | restart | keyPress | exit => rfl

theorem execute_observed (o : Output) (c : Command) : st.execute out.observed (w, o) c =
    ((st.execute out w c).1, (st.execute out w c).2,
      ⟨o.lines ++ st.textsOf c, o.actions ++ (c.action? st.hooks).toList⟩) := by
  have hlines (lines : List Line) (o : Output) :
      lines.foldl (fun o l => { o with lines := o.lines ++ [l.text] }) o =
        ⟨o.lines ++ lines.map Line.text, o.actions⟩ := by
    induction lines generalizing o with
    | nil => simp
    | cons l lines ih => simp [ih]
  rw [Outlet.observed, execute_noting, hlines, ← map_label_actionOf]
  cases st.actionOf c <;> simp [textsOf]

theorem executeAll_observed (o : Output) (cs : List Command) : st.executeAll out.observed (w, o) cs =
    ((st.executeAll out w cs).1, (st.executeAll out w cs).2,
      ⟨o.lines ++ cs.flatMap st.textsOf, o.actions ++ cs.filterMap (Command.action? st.hooks)⟩) := by
  induction cs generalizing st w o with
  | nil => simp
  | cons c cs ih =>
    obtain ⟨hh, -⟩ := st.execute_frame out w c
    have htexts : (st.execute out w c).1.textsOf = st.textsOf := Relay.textsOf_execute st w c
    rw [executeAll_cons, execute_observed, ih, hh, htexts, executeAll_cons]
    cases hc : c.action? st.hooks <;> simp [hc]

/-! ### Inside -/

/-- What becomes of a station does not depend on its surroundings. -/
theorem execute_station {τ : Type} (out' : Outlet τ) (w' : τ) (c : Command) :
    (st.execute out' w' c).1 = (st.execute out w c).1 := by
  cases c with
  | standby =>
    simp only [execute]
    split <;> rfl
  | keyPress code =>
    simp only [execute]
    split <;> rfl
  | activate | inactive | restart | exit => rfl

theorem executeAll_station {τ : Type} (out' : Outlet τ) (w' : τ) (cs : List Command) :
    (st.executeAll out' w' cs).1 = (st.executeAll out w cs).1 := by
  induction cs generalizing st w w' with
  | nil => rfl
  | cons c cs ih =>
    rw [executeAll_cons, executeAll_cons, execute_station out st w out' w' c]
    exact ih _ _ _

/-- A command without names leaves the latest names as they are. -/
theorem execute_last (c : Command) : (st.execute out w c).1.emitter.last =
    if c.names st.hooks.onStandby = [] then st.emitter.last else c.names st.hooks.onStandby := by
  cases c with
  | standby =>
    simp only [execute, Command.names]
    cases st.hooks.onStandby with
    | none => rfl
    | some => rfl
  | keyPress code =>
    simp only [execute, Command.names, Emitter.press, lookup_eq, show maxCode = 0x96 from rfl]
    by_cases hle : code ≤ 0x96
    · simp only [hle, if_true, Except.map]
      cases ((Code.ofByte? code).map Code.names).getD [] <;> rfl
    · simp [hle, Except.map]
  | activate | inactive | restart | exit => rfl

theorem executeAll_last (cs : List Command) : (st.executeAll out w cs).1.emitter.last =
    (((cs.map (Command.names st.hooks.onStandby)).filter (!·.isEmpty)).getLast?).getD st.emitter.last := by
  induction cs generalizing st w with
  | nil => rfl
  | cons c cs ih =>
    obtain ⟨hh, -⟩ := st.execute_frame out w c
    rw [executeAll_cons, ih, execute_last, hh, List.map_cons]
    cases hn : c.names st.hooks.onStandby <;> simp [List.getLast?_cons]

theorem executeAll_wantsActive (cs : List Command) :
    (st.executeAll out w cs).1.wantsActive = flagAfter st.wantsActive cs := by
  induction cs generalizing st w with
  | nil => rfl
  | cons c cs ih =>
    rw [executeAll_cons, ih, execute_wantsActive]
    rfl

theorem executeAll_queue (cs : List Command) : (st.executeAll out w cs).1.queue = st.queue := by
  induction cs generalizing st w with
  | nil => rfl
  | cons c cs ih => exact (ih _ _).trans (st.execute_queue out w c)

/-! ### All together -/

/-- Whatever commands are executed, whoever receives their lines and however their actions end: the lines are those of the
    keys of the commands, and the actions are those that are set for them, in their order. The flag is what the last command
    says that says something about the active source, the latest names are those of the last command that wrote a line, and
    the queue is what it was. Only a restart and an exit end a session. Surroundings that answer otherwise are sent the same
    and leave the station the same. -/
theorem executeAll_effects (out : Outlet σ) (wantsActive : Bool) (hooks : Hooks) (tag : String) (q : Queue) (w : σ)
    (cs : List Command) :
    let st := (Station.fresh wantsActive hooks tag).withQueue q
    let run := st.executeAll out.observed (w, .none) cs
    (run.1, run.2.1) = st.executeAll out w cs ∧
    run.2.2.lines = (cs.flatMap (Command.keys hooks.onStandby)).map (fun key => pressText tag key.1 key.2) ∧
    run.2.2.actions = cs.filterMap (Command.action? hooks) ∧
    run.1.wantsActive = ((cs.filterMap Command.claim?).getLast?).getD wantsActive ∧
    run.1.emitter.last =
      (((cs.filter fun c => !(c.keys hooks.onStandby).isEmpty).map (Command.names hooks.onStandby)).getLast?).getD [] ∧
    run.1.queue = q ∧
    (∀ (c : Command) (st : Station) (w : σ) (e : SessionEnd),
      ((⟨.executing c, st, w⟩ : Run σ).advance out).end? = some e ↔
        c = .restart ∧ e = .restart ∨ c = .exit ∧ e = .exit) ∧
    ∀ (τ : Type) (out' : Outlet τ) (w' : τ),
      (st.executeAll out'.observed (w', .none) cs).1 = run.1 ∧
        (st.executeAll out'.observed (w', .none) cs).2.2 = run.2.2 := by
  intro st run
  have hrun : run = _ := st.executeAll_observed out w .none cs
  have htexts : st.textsOf = fun c => (c.keys hooks.onStandby).map fun key => pressText tag key.1 key.2 :=
    funext st.textsOf_eq
  rw [hrun]
  refine ⟨rfl, ?lines, rfl, ?flag, ?last, st.executeAll_queue out w cs, fun c st w e => ?ends, fun τ out' w' => ?same⟩
  case lines => rw [htexts, List.map_flatMap]; rfl
  case flag => rw [executeAll_wantsActive, flagAfter_eq]; rfl
  case last =>
    rw [executeAll_last, List.filter_map]
    simp only [Function.comp_def, Command.isEmpty_names]
    rfl
  case ends =>
    rw [Run.end?_executing]
    exact Command.ending?_eq_some_iff
  case same =>
    rw [executeAll_observed]
    exact ⟨st.executeAll_station out w out' w' cs, rfl⟩

end Station

end KeyFeed.Session
