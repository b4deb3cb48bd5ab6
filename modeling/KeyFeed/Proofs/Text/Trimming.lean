import KeyFeed.Text.Blank

/-! What trimming leaves: the one piece of a text that has white space around it only, and none at its own ends. -/

namespace KeyFeed.Text

variable {cs ds : List Char}

/-- A text without the white space at its two ends. -/
structure IsTrimmed (cs ds : List Char) : Prop where
  around : ∃ before after, cs = before ++ (ds ++ after) ∧
    (∀ c ∈ before, isBlank c = true) ∧ ∀ c ∈ after, isBlank c = true
  first : ∀ c, ds.head? = some c → isBlank c = false
  last : ∀ c, ds.getLast? = some c → isBlank c = false

/-! ### White space in front -/

theorem dropWhile_append_of_blank {before : List Char} (hbefore : ∀ c ∈ before, isBlank c = true) (ds : List Char)
    (h : ∀ c, ds.head? = some c → isBlank c = false) : (before ++ ds).dropWhile isBlank = ds := by
  rw [List.dropWhile_append_of_pos hbefore]
  cases ds with
  | nil => rfl
  | cons c ds => simp [h c rfl]

theorem head?_dropWhile (cs : List Char) {c : Char} (h : (cs.dropWhile isBlank).head? = some c) : isBlank c = false := by
  simpa [h] using List.head?_dropWhile_not isBlank cs

theorem exists_append_dropWhile (cs : List Char) :
    ∃ before, cs = before ++ cs.dropWhile isBlank ∧ ∀ c ∈ before, isBlank c = true :=
  ⟨cs.takeWhile isBlank, List.takeWhile_append_dropWhile.symm, List.all_eq_true.mp List.all_takeWhile⟩

/-! ### Both ends -/

theorem isTrimmed_trimChars (cs : List Char) : IsTrimmed cs (trimChars cs) := by
  obtain ⟨before, hbefore, hblank⟩ := exists_append_dropWhile cs
  obtain ⟨after, hafter, hblank'⟩ := exists_append_dropWhile (cs.dropWhile isBlank).reverse
  have hsplit : cs.dropWhile isBlank = trimChars cs ++ after.reverse := by
    simpa [trimChars, trimRight] using congrArg List.reverse hafter
  refine ⟨⟨before, after.reverse, hsplit ▸ hbefore, hblank, fun c hc => hblank' c (List.mem_reverse.mp hc)⟩,
    fun c hc => ?_, fun c hc => ?_⟩
  · -- What stands first was first before the end was trimmed.
    refine head?_dropWhile cs ?_
    rw [hsplit, List.head?_append, hc]
    rfl
  · rw [trimChars, trimRight, List.getLast?_reverse] at hc
    exact head?_dropWhile _ hc

theorem IsTrimmed.trimChars_eq (h : IsTrimmed cs ds) : trimChars cs = ds := by
  obtain ⟨⟨before, after, rfl, hbefore, hafter⟩, hfirst, hlast⟩ := h
  have hback : ∀ c ∈ after.reverse, isBlank c = true := fun c hc => hafter c (List.mem_reverse.mp hc)
  cases ds with
  | nil =>
    have hall : ∀ c ∈ before ++ after, isBlank c = true := fun c hc => (List.mem_append.mp hc).elim (hbefore c) (hafter c)
    have hnil := dropWhile_append_of_blank hall [] (by simp)
    rw [List.append_nil] at hnil
    rw [trimChars, trimRight, List.nil_append, hnil]
    rfl
  | cons c ds =>
    rw [trimChars, trimRight, dropWhile_append_of_blank hbefore (c :: ds ++ after) hfirst, List.reverse_append,
      dropWhile_append_of_blank hback _ (by rwa [List.head?_reverse]), List.reverse_reverse]

theorem trimChars_eq_iff : trimChars cs = ds ↔ IsTrimmed cs ds :=
  ⟨fun h => h ▸ isTrimmed_trimChars cs, IsTrimmed.trimChars_eq⟩

theorem trimChars_eq_nil_iff : trimChars cs = [] ↔ ∀ c ∈ cs, isBlank c = true := by
  rw [trimChars_eq_iff]
  constructor
  · rintro ⟨⟨before, after, rfl, hbefore, hafter⟩, -, -⟩ c hc
    rcases List.mem_append.mp hc with hc | hc
    · exact hbefore c hc
    · exact hafter c hc
  · exact fun h => ⟨⟨cs, [], by simp, h, by simp⟩, by simp, by simp⟩

end KeyFeed.Text
