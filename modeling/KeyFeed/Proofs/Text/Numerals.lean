import Mathlib.Data.List.Induction
import KeyFeed.Proofs.Text.Digits

/-! Which texts are numbers. A numeral is one digit or more, with letters of either case; an unsigned number may have
    a plus sign in front of it and must not be above a limit. Of all the numerals of a number, printing writes the one
    without a sign, without capitals and without a zero in front that could be left out. -/

namespace KeyFeed.Text

/-- A digit of a base up to sixteen and its value. -/
def IsDigit (base : Nat) (c : Char) (d : Nat) : Prop :=
  d < base ∧ (c = d.digitChar ∨ c = d.digitChar.toUpper)

/-- A row of digits and the number that it spells, most significant digit first. -/
inductive Spells (base : Nat) : List Char → Nat → Prop where
  | digit {c d} : IsDigit base c d → Spells base [c] d
  | more {cs n c d} : Spells base cs n → IsDigit base c d → Spells base (cs ++ [c]) (base * n + d)

/-- A number up to `limit` as it may be written: digits, or digits behind a plus sign. -/
def IsUnsigned (base limit : Nat) (cs : List Char) (n : Nat) : Prop :=
  n ≤ limit ∧ (Spells base cs n ∨ ∃ ds, cs = '+' :: ds ∧ Spells base ds n)

/-- A number without anything that could be written otherwise. -/
structure IsPlain (cs : List Char) : Prop where
  unsigned : '+' ∉ cs
  lower : ∀ c ∈ cs, c.toLower = c
  noLeadingZero : ∀ ds, cs = '0' :: ds → ds = []

variable {base limit n d : Nat} {c : Char} {cs : List Char}

/-! ### Digits -/

theorem toNat_bounds {low high : Char} (h : (low ≤ c && c ≤ high) = true) : low.toNat ≤ c.toNat ∧ c.toNat ≤ high.toNat := by
  simpa [Char.le_def, UInt32.le_iff_toNat_le] using h

theorem eq_ofNat_of_le {low : Nat} (h : low ≤ c.toNat) : c = Char.ofNat (c.toNat - low + low) := by
  rw [Nat.sub_add_cancel h, c.ofNat_toNat]

theorem digitValue?_eq_some_iff (base_le : base ≤ 16) : digitValue? base c = some d ↔ IsDigit base c d := by
  constructor
  · intro h
    obtain ⟨hvalue, hd⟩ := Option.filter_eq_some_iff.mp h
    refine ⟨by simpa using hd, ?_⟩
    split at hvalue
    · next hin =>
      have hin : 48 ≤ c.toNat ∧ c.toNat ≤ 57 := toNat_bounds hin
      have hall : ∀ d < 10, Char.ofNat (d + 48) = d.digitChar := by decide
      obtain rfl : c.toNat - 48 = d := Option.some.inj hvalue
      exact Or.inl ((eq_ofNat_of_le hin.1).trans (hall _ (by omega)))
    · split at hvalue
      · next hin =>
        have hin : 97 ≤ c.toNat ∧ c.toNat ≤ 102 := toNat_bounds hin
        have hall : ∀ d < 6, Char.ofNat (d + 97) = (d + 10).digitChar := by decide
        have hvalue : c.toNat - 87 = d := Option.some.inj hvalue
        obtain rfl : c.toNat - 97 + 10 = d := by omega
        exact Or.inl ((eq_ofNat_of_le hin.1).trans (hall _ (by omega)))
      · split at hvalue
        · next hin =>
          have hin : 65 ≤ c.toNat ∧ c.toNat ≤ 70 := toNat_bounds hin
          have hall : ∀ d < 6, Char.ofNat (d + 65) = (d + 10).digitChar.toUpper := by decide
          have hvalue : c.toNat - 55 = d := Option.some.inj hvalue
          obtain rfl : c.toNat - 65 + 10 = d := by omega
          exact Or.inr ((eq_ofNat_of_le hin.1).trans (hall _ (by omega)))
        · cases hvalue
  · rintro ⟨hd, rfl | rfl⟩
    · exact digitValue?_digitChar base_le hd
    · have hall : ∀ d < 16, digitValue? 16 d.digitChar.toUpper = some d := by decide
      have h16 := hall d (Nat.lt_of_lt_of_le hd base_le)
      simp only [digitValue?, Option.filter_eq_some_iff] at h16 ⊢
      exact ⟨h16.1, by simpa using hd⟩

theorem IsDigit.ne_plus (h : IsDigit base c d) (base_le : base ≤ 16) : c ≠ '+' := by
  rintro rfl
  have := (digitValue?_eq_some_iff (Nat.le_refl 16)).mpr ⟨Nat.lt_of_lt_of_le h.1 base_le, h.2⟩
  cases this

/-- A digit without a capital is the one that is printed. -/
theorem IsDigit.eq_digitChar (h : IsDigit base c d) (base_le : base ≤ 16) (hlower : c.toLower = c) : c = d.digitChar := by
  obtain ⟨hd, rfl | rfl⟩ := h
  · rfl
  · have hall : ∀ d < 16, d.digitChar.toUpper.toLower = d.digitChar := by decide
    rw [← hlower, hall d (Nat.lt_of_lt_of_le hd base_le)]

/-! ### Rows of digits -/

theorem readDigits?_singleton : readDigits? base [c] = digitValue? base c := by
  cases h : digitValue? base c <;> simp [readDigits?, ofDigits, h]

theorem readDigits?_concat (hne : cs ≠ []) : readDigits? base (cs ++ [c]) =
    (readDigits? base cs).bind fun n => (digitValue? base c).map fun d => base * n + d := by
  rw [readDigits?, readDigits?, if_neg (by simp), if_neg (by simpa using hne), List.mapM_append]
  cases cs.mapM (digitValue? base) with
  | none => rfl
  | some ds => cases h : digitValue? base c <;> simp [ofDigits, h]

theorem readDigits?_eq_some_iff (base_le : base ≤ 16) : readDigits? base cs = some n ↔ Spells base cs n := by
  constructor
  · intro h
    induction cs using List.reverseRecOn generalizing n with
    | nil => cases h
    | append_singleton cs c ih =>
      by_cases hne : cs = []
      · subst hne
        rw [List.nil_append, readDigits?_singleton, digitValue?_eq_some_iff base_le] at h
        exact .digit h
      · rw [readDigits?_concat hne] at h
        obtain ⟨m, hm, h⟩ := Option.bind_eq_some_iff.mp h
        obtain ⟨d, hd, rfl⟩ := Option.map_eq_some_iff.mp h
        exact .more (ih hm) ((digitValue?_eq_some_iff base_le).mp hd)
  · intro h
    induction h with
    | digit hd => rw [readDigits?_singleton, (digitValue?_eq_some_iff base_le).mpr hd]
    | @more cs n c d hcs hd ih =>
      have hne : cs ≠ [] := by
        rintro rfl
        cases ih
      rw [readDigits?_concat hne, ih, (digitValue?_eq_some_iff base_le).mpr hd]
      rfl

theorem Spells.ne_plus_cons (h : Spells base cs n) (base_le : base ≤ 16) (ds : List Char) : cs ≠ '+' :: ds := by
  have hmem : ∀ c ∈ cs, c ≠ '+' := by
    induction h with
    | digit hd => simpa using hd.ne_plus base_le
    | more _ hd ih =>
      intro c hc
      rcases List.mem_append.mp hc with hc | hc
      · exact ih c hc
      · exact List.mem_singleton.mp hc ▸ hd.ne_plus base_le
  rintro rfl
  exact hmem '+' List.mem_cons_self rfl

/-! ### Unsigned numbers -/

theorem readUnsigned?_eq_some_iff (base_le : base ≤ 16) :
    readUnsigned? base limit cs = some n ↔ IsUnsigned base limit cs n := by
  simp only [readUnsigned?, Option.filter_eq_some_iff, decide_eq_true_eq, IsUnsigned]
  rw [and_comm]
  refine and_congr_right fun _ => ?_
  split
  · next ds =>
    rw [readDigits?_eq_some_iff base_le]
    exact ⟨fun h => Or.inr ⟨ds, rfl, h⟩, fun h => h.elim (fun h => absurd rfl (h.ne_plus_cons base_le ds))
      fun ⟨ds', heq, h⟩ => by cases heq; exact h⟩
  · next hplus =>
    rw [readDigits?_eq_some_iff base_le]
    exact ⟨Or.inl, fun h => h.elim id fun ⟨ds, heq, _⟩ => absurd heq (hplus ds)⟩

theorem IsUnsigned.unique {m : Nat} (base_le : base ≤ 16) (hn : IsUnsigned base limit cs n)
    (hm : IsUnsigned base limit cs m) : n = m := by
  rw [← readUnsigned?_eq_some_iff base_le] at hn hm
  exact Option.some.inj (hn.symm.trans hm)

/-! ### What is printed -/

theorem eq_nil_of_toDigits_eq_zero_cons (base_gt : 1 < base) (base_le : base ≤ 16) {ds : List Char}
    (h : Nat.toDigits base n = '0' :: ds) : ds = [] := by
  induction n using Nat.strongRecOn generalizing ds with
  | ind n ih =>
    rw [Nat.toDigits_eq_if base_gt] at h
    split at h
    · exact (List.cons.inj h).2.symm
    · next hn =>
      have hdiv : n / base < n := Nat.div_lt_self (by omega) base_gt
      have hpos : 0 < n / base := Nat.div_pos (by omega) (by omega)
      cases hq : Nat.toDigits base (n / base) with
      | nil => exact absurd hq Nat.toDigits_ne_nil
      | cons c cs =>
        rw [hq] at h
        obtain ⟨rfl, -⟩ := List.cons.inj h
        -- The quotient would be printed as a lone zero, which only zero is.
        have hread := readDigits?_toDigits base_gt base_le (n / base)
        have hzero : digitValue? base '0' = some 0 := digitValue?_digitChar base_le (show 0 < base by omega)
        rw [hq, ih _ hdiv hq, readDigits?_singleton, hzero] at hread
        exact absurd (Option.some.inj hread) (Nat.ne_of_lt hpos)

theorem isPlain_toDigits (base_gt : 1 < base) (base_le : base ≤ 16) (n : Nat) : IsPlain (Nat.toDigits base n) where
  unsigned := notMem_toDigits base_gt base_le (by decide) n
  lower c hc := by
    have hall : ∀ d < 16, d.digitChar.toLower = d.digitChar := by decide
    obtain ⟨d, hd, rfl⟩ := eq_digitChar_of_mem_toDigits base_gt hc
    exact hall d (Nat.lt_of_lt_of_le hd base_le)
  noLeadingZero _ h := eq_nil_of_toDigits_eq_zero_cons base_gt base_le h

theorem Spells.eq_toDigits (base_gt : 1 < base) (base_le : base ≤ 16) (h : Spells base cs n) (hplain : IsPlain cs) :
    cs = Nat.toDigits base n := by
  induction h with
  | @digit c d hd =>
    rw [Nat.toDigits_eq_if base_gt, if_pos hd.1, hd.eq_digitChar base_le (hplain.lower c List.mem_cons_self)]
  | @more cs n c d hcs hd ih =>
    -- The digits in front are plain as well, and they are no lone zero: another digit follows.
    have hinit : cs = Nat.toDigits base n := ih {
      unsigned := fun h => hplain.unsigned (List.mem_append_left _ h)
      lower := fun c hc => hplain.lower c (List.mem_append_left _ hc)
      noLeadingZero := fun ds hds => by
        have := hplain.noLeadingZero (ds ++ [c]) (by rw [hds]; rfl)
        simp at this }
    have hpos : 0 < n := by
      refine Nat.pos_of_ne_zero fun hn => ?_
      rw [hn, Nat.toDigits_zero] at hinit
      have := hplain.noLeadingZero [c] (by rw [hinit]; rfl)
      cases this
    have hle : base ≤ base * n := Nat.le_mul_of_pos_right base hpos
    have hlast : c = d.digitChar :=
      hd.eq_digitChar base_le (hplain.lower c (List.mem_append_right _ List.mem_cons_self))
    rw [Nat.toDigits_eq_if base_gt, if_neg (by omega), Nat.mul_add_div (by omega), Nat.div_eq_of_lt hd.1, Nat.add_zero,
      Nat.mul_add_mod, Nat.mod_eq_of_lt hd.1, ← hinit, hlast]

/-- A number is written as it is printed just when it is plain. -/
theorem IsUnsigned.eq_toDigits_iff (base_gt : 1 < base) (base_le : base ≤ 16) (h : IsUnsigned base limit cs n) :
    cs = Nat.toDigits base n ↔ IsPlain cs := by
  refine ⟨fun heq => heq ▸ isPlain_toDigits base_gt base_le n, fun hplain => ?_⟩
  obtain ⟨-, hspells | ⟨ds, rfl, -⟩⟩ := h
  · exact hspells.eq_toDigits base_gt base_le hplain
  · exact absurd List.mem_cons_self hplain.unsigned

end KeyFeed.Text
