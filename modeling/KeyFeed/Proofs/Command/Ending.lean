import KeyFeed.Command.Basic

/-! Commands up to the end of a session. The first command that ends a session is the last that is executed in it,
    whatever was queued behind it. -/

namespace KeyFeed.Command

/-- None of the commands ends a session. -/
def Ordinary (cs : List Command) : Prop := ∀ c ∈ cs, c.ending? = none

/-- The last of the commands ends a session as `e` says, and none before it ends one. -/
def EndsAs (cs : List Command) (e : SessionEnd) : Prop :=
  ∃ before c, cs = before ++ [c] ∧ Ordinary before ∧ c.ending? = some e

/-- The commands up to the first that ends a session, with that one. -/
def untilEnd : List Command → List Command
  | [] => []
  | c :: cs => if c.ending?.isSome then [c] else c :: untilEnd cs

@[simp] theorem untilEnd_nil : untilEnd [] = [] := rfl

theorem untilEnd_cons (c : Command) (cs : List Command) :
    untilEnd (c :: cs) = if c.ending?.isSome then [c] else c :: untilEnd cs := rfl

theorem ordinary_nil : Ordinary [] := by simp [Ordinary]

theorem Ordinary.concat {cs : List Command} {c : Command} (h : Ordinary cs) (hc : c.ending? = none) :
    Ordinary (cs ++ [c]) := by
  intro d hd
  rcases List.mem_append.mp hd with hd | hd
  · exact h d hd
  · rw [List.mem_singleton.mp hd]
    exact hc

theorem untilEnd_append {cs : List Command} (h : Ordinary cs) (ds : List Command) :
    untilEnd (cs ++ ds) = cs ++ untilEnd ds := by
  induction cs with
  | nil => rfl
  | cons c cs ih =>
    have hc : c.ending? = none := h c List.mem_cons_self
    have ih := ih fun d hd => h d (List.mem_cons_of_mem c hd)
    simp [untilEnd_cons, hc, ih]

theorem Ordinary.prefix_untilEnd {cs ds : List Command} (h : Ordinary cs) (hp : cs <+: ds) : cs <+: untilEnd ds := by
  obtain ⟨rest, rfl⟩ := hp
  rw [untilEnd_append h]
  exact List.prefix_append _ _

/-- Commands that end a session are all there is up to its end, whatever comes behind them. -/
theorem EndsAs.untilEnd_eq {cs ds : List Command} {e : SessionEnd} (h : EndsAs cs e) (hp : cs <+: ds) :
    untilEnd ds = cs := by
  obtain ⟨before, c, rfl, hb, hc⟩ := h
  obtain ⟨rest, rfl⟩ := hp
  rw [List.append_assoc, untilEnd_append hb]
  simp [untilEnd_cons, hc]

theorem EndsAs.not_ordinary {cs : List Command} {e : SessionEnd} (h : EndsAs cs e) : ¬Ordinary cs := by
  obtain ⟨before, c, rfl, -, hc⟩ := h
  intro ho
  have := ho c (by simp)
  rw [hc] at this
  cases this

theorem EndsAs.unique {cs : List Command} {e e' : SessionEnd} (h : EndsAs cs e) (h' : EndsAs cs e') : e = e' := by
  obtain ⟨before, c, rfl, -, hc⟩ := h
  obtain ⟨before', c', heq, -, hc'⟩ := h'
  obtain ⟨-, rfl⟩ := List.append_inj' heq rfl |>.imp_right List.singleton_inj.mp
  exact Option.some.inj (hc.symm.trans hc')

/-! ### The commands that are left to execute -/

theorem untilEnd_prefix_self (cs : List Command) : untilEnd cs <+: cs := by
  induction cs with
  | nil => exact List.prefix_rfl
  | cons c cs ih =>
    rw [untilEnd_cons]
    split
    · exact ⟨cs, rfl⟩
    · exact List.cons_prefix_cons.mpr ⟨rfl, ih⟩

/-- What comes behind a command that ends the session is never reached. -/
theorem EndsAs.untilEnd_append {cs : List Command} {e : SessionEnd} (h : EndsAs (untilEnd cs) e) (ds : List Command) :
    untilEnd (cs ++ ds) = untilEnd cs :=
  h.untilEnd_eq ((untilEnd_prefix_self cs).trans (List.prefix_append cs ds))

theorem length_untilEnd_le_append (cs ds : List Command) : (untilEnd cs).length ≤ (untilEnd (cs ++ ds)).length := by
  induction cs with
  | nil => exact Nat.zero_le _
  | cons c cs ih =>
    rw [List.cons_append, untilEnd_cons, untilEnd_cons]
    split
    · exact Nat.le_refl _
    · simpa using ih

theorem endsAs_untilEnd_cons {c : Command} {cs : List Command} {e : SessionEnd} :
    EndsAs (untilEnd (c :: cs)) e ↔ c.ending? = some e ∨ c.ending? = none ∧ EndsAs (untilEnd cs) e := by
  rw [untilEnd_cons]
  cases hc : c.ending? with
  | some e' =>
    have hone : EndsAs [c] e' := ⟨[], c, rfl, ordinary_nil, hc⟩
    simp only [Option.isSome_some, if_true, Option.some.injEq, reduceCtorEq, false_and, or_false]
    exact ⟨fun h => hone.unique h, fun h => h ▸ hone⟩
  | none =>
    simp only [Option.isSome_none, Bool.false_eq_true, if_false, reduceCtorEq, true_and, false_or]
    constructor
    · rintro ⟨before, d, heq, ho, hd⟩
      cases before with
      | nil =>
        obtain ⟨rfl, -⟩ := List.cons.inj heq
        rw [hc] at hd
        cases hd
      | cons b before =>
        obtain ⟨rfl, htail⟩ := List.cons.inj heq
        exact ⟨before, d, htail, fun x hx => ho x (List.mem_cons_of_mem _ hx), hd⟩
    · rintro ⟨before, d, heq, ho, hd⟩
      refine ⟨c :: before, d, by rw [heq]; rfl, fun x hx => ?_, hd⟩
      rcases List.mem_cons.mp hx with rfl | hx
      · exact hc
      · exact ho x hx

/-- Where an exit is and no restart, the session ends with an exit. -/
theorem endsAs_exit_untilEnd {cs : List Command} (hexit : exit ∈ cs) (hrestart : restart ∉ cs) :
    EndsAs (untilEnd cs) .exit := by
  induction cs with
  | nil => cases hexit
  | cons c cs ih =>
    obtain ⟨hc, hcs⟩ : restart ≠ c ∧ restart ∉ cs := by simpa using hrestart
    rw [endsAs_untilEnd_cons]
    cases c with
    | restart => exact absurd rfl hc
    | exit => exact Or.inl rfl
    | standby | activate | inactive | keyPress => exact Or.inr ⟨rfl, ih (by simpa using hexit) hcs⟩

end KeyFeed.Command
