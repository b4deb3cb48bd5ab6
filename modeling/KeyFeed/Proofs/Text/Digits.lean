import KeyFeed.Text.Digits

/-! Numbers read back from their digits. What is printed in a base up to sixteen is read in that base as the same
    number, and refused just when the number is above the limit. -/

namespace KeyFeed.Text

variable {base : Nat}

theorem digitValue?_digitChar (base_le : base ≤ 16) {d : Nat} (hd : d < base) :
    digitValue? base d.digitChar = some d := by
  have hall : ∀ d < 16, digitValue? 16 d.digitChar = some d := by decide
  have h16 := hall d (Nat.lt_of_lt_of_le hd base_le)
  simp only [digitValue?, Option.filter_eq_some_iff] at h16 ⊢
  exact ⟨h16.1, by simpa using hd⟩

theorem eq_digitChar_of_mem_toDigits (base_gt : 1 < base) {n : Nat} {c : Char} (hc : c ∈ Nat.toDigits base n) :
    ∃ d < base, c = d.digitChar := by
  induction n using Nat.strongRecOn with
  | ind n ih =>
    rw [Nat.toDigits_eq_if base_gt] at hc
    split at hc
    · next hn => exact ⟨n, hn, List.mem_singleton.mp hc⟩
    · rcases List.mem_append.mp hc with hc | hc
      · exact ih (n / base) (Nat.div_lt_self (by omega) base_gt) hc
      · exact ⟨n % base, Nat.mod_lt n (by omega), List.mem_singleton.mp hc⟩

/-- A character that is no digit in base sixteen stands in no number. -/
theorem notMem_toDigits (base_gt : 1 < base) (base_le : base ≤ 16) {c : Char} (hc : digitValue? 16 c = none)
    (n : Nat) : c ∉ Nat.toDigits base n := by
  intro hm
  obtain ⟨d, hd, rfl⟩ := eq_digitChar_of_mem_toDigits base_gt hm
  rw [digitValue?_digitChar (Nat.le_refl 16) (Nat.lt_of_lt_of_le hd base_le)] at hc
  cases hc

theorem readDigits?_toDigits (base_gt : 1 < base) (base_le : base ≤ 16) (n : Nat) :
    readDigits? base (Nat.toDigits base n) = some n := by
  have hread : ∃ ds, (Nat.toDigits base n).mapM (digitValue? base) = some ds ∧ ofDigits base ds = n := by
    induction n using Nat.strongRecOn with
    | ind n ih =>
      rw [Nat.toDigits_eq_if base_gt]
      split
      · next hn => exact ⟨[n], by simp [digitValue?_digitChar base_le hn], by simp [ofDigits]⟩
      · -- The last digit is the remainder, and the digits before it are those of the quotient.
        obtain ⟨ds, hds, hn'⟩ := ih (n / base) (Nat.div_lt_self (by omega) base_gt)
        refine ⟨ds ++ [n % base], ?_, ?_⟩
        · simp [List.mapM_append, hds, digitValue?_digitChar base_le (Nat.mod_lt n (by omega))]
        · rw [ofDigits, List.foldl_append]
          show base * ofDigits base ds + n % base = n
          rw [hn', Nat.div_add_mod]
  obtain ⟨ds, hds, rfl⟩ := hread
  rw [readDigits?, if_neg (by simp [Nat.toDigits_ne_nil]), hds]
  rfl

theorem readUnsigned?_toDigits (base_gt : 1 < base) (base_le : base ≤ 16) (limit n : Nat) :
    readUnsigned? base limit (Nat.toDigits base n) = if n ≤ limit then some n else none := by
  have hplus := notMem_toDigits base_gt base_le (show digitValue? 16 '+' = none by decide) n
  have hsign : readUnsigned? base limit (Nat.toDigits base n) =
      (readDigits? base (Nat.toDigits base n)).filter (· ≤ limit) := by
    unfold readUnsigned?
    split
    · next ds heq => exact absurd (heq ▸ List.mem_cons_self) hplus
    · rfl
  rw [hsign, readDigits?_toDigits base_gt base_le]
  by_cases hn : n ≤ limit
  · simp [hn]
  · simpa [hn] using Nat.lt_of_not_le hn

end KeyFeed.Text
