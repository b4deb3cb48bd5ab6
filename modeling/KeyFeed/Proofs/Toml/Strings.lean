import KeyFeed.Toml.StringReader
import KeyFeed.Toml.StringWriter
import Mathlib.Tactic.SplitIfs

/-! Strings are read back as they were written, whatever is in them. Each form is read one character at a time, and the
    forms with three quotes have to be told where they end: no run of quotes inside them reaches the length of three. -/

namespace KeyFeed.Toml
open Text

/-! ### Characters -/

/-- A control character is one of the first few. -/
theorem toNat_lt_of_needsEscape {c : Char} (h : needsEscape c = true) : c.toNat < 128 := by
  simp only [needsEscape, isVisible, Bool.and_eq_true, Bool.not_eq_true', Bool.or_eq_false_iff, Bool.and_eq_false_iff,
    decide_eq_false_iff_not, bne_eq_false_iff_eq] at h
  omega

/-- The code point of a control character names it again. -/
theorem exists_controlEscape {c : Char} (h : needsEscape c = true) :
    ∃ a b d e, controlEscape c = ['\\', 'u', a, b, d, e] ∧ charOfHex? [a, b, d, e] = some c := by
  have hall : ∀ n < 128, needsEscape (Char.ofNat n) = true →
      controlEscape (Char.ofNat n) = '\\' :: 'u' :: (controlEscape (Char.ofNat n)).drop 2 ∧
      ((controlEscape (Char.ofNat n)).drop 2).length = 4 ∧
      charOfHex? ((controlEscape (Char.ofNat n)).drop 2) = some (Char.ofNat n) := by decide
  have hc := hall c.toNat (toNat_lt_of_needsEscape h)
  rw [Char.ofNat_toNat] at hc
  obtain ⟨hshape, hlength, hread⟩ := hc h
  match hd : (controlEscape c).drop 2, hlength with
  | [a, b, d, e], _ => exact ⟨a, b, d, e, hd ▸ hshape, hd ▸ hread⟩

theorem visible_or_newline {c : Char} (h : needsEscape c = false) : c = '\n' ∨ isVisible c = true := by
  cases hv : isVisible c with
  | true => exact Or.inr rfl
  | false => exact Or.inl (by simpa [needsEscape, hv] using h)

theorem ne_return_of_isVisible {c : Char} (h : isVisible c = true) : c ≠ '\r' := by
  rintro rfl
  revert h
  decide

/-- Between double quotes a character is named by a letter or by its code point, or it stands for itself. -/
theorem escapedChar_cases (c : Char) :
    (∃ x, escapedChar c = ['\\', x] ∧ letterEscape? x = some c) ∨
    (∃ a b d e, escapedChar c = ['\\', 'u', a, b, d, e] ∧ charOfHex? [a, b, d, e] = some c) ∨
    (escapedChar c = [c] ∧ c ≠ '\\' ∧ (c = '\n' ∨ isVisible c = true)) := by
  unfold escapedChar
  split_ifs with hbackspace htab hfeed hreturn hbackslash hcontrol
  · exact Or.inl ⟨'b', rfl, by rw [hbackspace]; rfl⟩
  · exact Or.inl ⟨'t', rfl, by rw [htab]; rfl⟩
  · exact Or.inl ⟨'f', rfl, by rw [hfeed]; rfl⟩
  · exact Or.inl ⟨'r', rfl, by rw [hreturn]; rfl⟩
  · exact Or.inl ⟨'\\', rfl, by rw [hbackslash]; rfl⟩
  · exact Or.inr (Or.inl (exists_controlEscape (Bool.and_eq_true_iff.mp hcontrol).2))
  · refine Or.inr (Or.inr ⟨rfl, hbackslash, ?_⟩)
    by_cases hn : c = '\n'
    · exact Or.inl hn
    · exact visible_or_newline (by simpa [hn] using hcontrol)

/-- What stands for a character begins with a backslash or is the character, and never begins with a carriage return. -/
theorem exists_head_escapedChar (c : Char) :
    ∃ d rest, escapedChar c = d :: rest ∧ (d = '\\' ∨ d = c) ∧ d ≠ '\r' := by
  rcases escapedChar_cases c with ⟨x, h, -⟩ | ⟨a, b, d, e, h, -⟩ | ⟨h, -, hv⟩
  · exact ⟨_, _, h, Or.inl rfl, by decide⟩
  · exact ⟨_, _, h, Or.inl rfl, by decide⟩
  · refine ⟨_, _, h, Or.inr rfl, ?_⟩
    rcases hv with rfl | hv
    · decide
    · exact ne_return_of_isVisible hv

theorem letterEscape?_ne {x y c : Char} (h : letterEscape? x = some c) (hy : letterEscape? y = none) : x ≠ y := by
  rintro rfl
  rw [h] at hy
  cases hy

/-! ### Double quotes on one line -/

theorem basicBody_letter {x c : Char} (h : letterEscape? x = some c) (r : List Char) :
    basicBody ('\\' :: x :: r) = withChar c (basicBody r) := by
  have hu : x ≠ 'u' := letterEscape?_ne h (by decide)
  have hU : x ≠ 'U' := letterEscape?_ne h (by decide)
  rw [basicBody.eq_def]
  simp [hu, hU, h]

theorem basicBody_hex {a b d e c : Char} (h : charOfHex? [a, b, d, e] = some c) (r : List Char) :
    basicBody ('\\' :: 'u' :: a :: b :: d :: e :: r) = withChar c (basicBody r) := by
  simp [basicBody, h]

theorem basicBody_visible {c : Char} (hv : isVisible c = true) (hq : c ≠ '"') (hb : c ≠ '\\') (r : List Char) :
    basicBody (c :: r) = withChar c (basicBody r) := by
  rw [basicBody.eq_def]
  simp [hv, hb]

/-- A character between double quotes on one line. -/
def basicChar (c : Char) : List Char :=
  if c = '"' then ['\\', '"'] else if c = '\n' then ['\\', 'n'] else escapedChar c

theorem writeBasic_eq (cs : List Char) : writeBasic cs = '"' :: cs.flatMap basicChar ++ ['"'] := rfl

theorem basicBody_basicChar (c : Char) (r : List Char) : basicBody (basicChar c ++ r) = withChar c (basicBody r) := by
  unfold basicChar
  split_ifs with hq hn
  · exact basicBody_letter (by rw [hq]; rfl) r
  · exact basicBody_letter (by rw [hn]; rfl) r
  · rcases escapedChar_cases c with ⟨x, h, hx⟩ | ⟨a, b, d, e, h, hx⟩ | ⟨h, hb, hv⟩
    · rw [h]
      exact basicBody_letter hx r
    · rw [h]
      exact basicBody_hex hx r
    · rw [h]
      exact basicBody_visible (hv.resolve_left hn) hq hb r

theorem basicBody_flatMap (cs r : List Char) : basicBody (cs.flatMap basicChar ++ '"' :: r) = some (cs, r) := by
  induction cs with
  | nil => rfl
  | cons c cs ih => simp [basicBody_basicChar, ih, withChar]

/-- No character begins like the end of the string. -/
theorem exists_head_basicChar (c : Char) : ∃ d rest, basicChar c = d :: rest ∧ d ≠ '"' := by
  unfold basicChar
  split_ifs with hq hn
  · exact ⟨_, _, rfl, by decide⟩
  · exact ⟨_, _, rfl, by decide⟩
  · obtain ⟨d, rest, h, hd, -⟩ := exists_head_escapedChar c
    refine ⟨d, rest, h, ?_⟩
    rcases hd with rfl | rfl
    · decide
    · exact hq

/-! ### Single quotes on one line -/

theorem literalBody_append {cs : List Char} (hv : ∀ c ∈ cs, isVisible c = true) (hq : '\x27' ∉ cs) (r : List Char) :
    literalBody (cs ++ '\x27' :: r) = some (cs, r) := by
  induction cs with
  | nil => rfl
  | cons c cs ih =>
    have hc : c ≠ '\x27' := fun hc => hq (hc ▸ List.mem_cons_self)
    have ih := ih (fun d hd => hv d (List.mem_cons_of_mem c hd)) fun hm => hq (List.mem_cons_of_mem c hm)
    rw [List.cons_append, literalBody.eq_def]
    simp [hv c List.mem_cons_self, ih, withChar]

/-! ### Three double quotes -/

theorem multilineBody_letter {x c : Char} (h : letterEscape? x = some c) (r : List Char) :
    multilineBody .none ('\\' :: x :: r) = withChar c (multilineBody .none r) := by
  have hu : x ≠ 'u' := letterEscape?_ne h (by decide)
  have hU : x ≠ 'U' := letterEscape?_ne h (by decide)
  have hn : x ≠ '\n' := letterEscape?_ne h (by decide)
  have hr : x ≠ '\r' := letterEscape?_ne h (by decide)
  have hs : isSpace x = false := by
    simp [isSpace, letterEscape?_ne h (show letterEscape? ' ' = none by decide),
      letterEscape?_ne h (show letterEscape? '\t' = none by decide)]
  rw [multilineBody.eq_def]
  simp [hu, hU, hn, hr, hs, h]

theorem multilineBody_hex {a b d e c : Char} (h : charOfHex? [a, b, d, e] = some c) (r : List Char) :
    multilineBody .none ('\\' :: 'u' :: a :: b :: d :: e :: r) = withChar c (multilineBody .none r) := by
  rw [multilineBody.eq_def]
  simp [h]

theorem multilineBody_newline (r : List Char) :
    multilineBody .none ('\n' :: r) = withChar '\n' (multilineBody .none r) := rfl

theorem multilineBody_visible {c : Char} (hv : isVisible c = true) (hq : c ≠ '"') (hb : c ≠ '\\') (r : List Char) :
    multilineBody .none (c :: r) = withChar c (multilineBody .none r) := by
  have hr : c ≠ '\r' := ne_return_of_isVisible hv
  by_cases hn : c = '\n'
  · rw [hn, multilineBody_newline]
  · rw [multilineBody.eq_def]
    simp [hv, hq, hb, hr]

theorem multilineBody_escapedChar {c : Char} (hq : c ≠ '"') (r : List Char) :
    multilineBody .none (escapedChar c ++ r) = withChar c (multilineBody .none r) := by
  rcases escapedChar_cases c with ⟨x, h, hx⟩ | ⟨a, b, d, e, h, hx⟩ | ⟨h, hb, rfl | hv⟩
  · rw [h]
    exact multilineBody_letter hx r
  · rw [h]
    exact multilineBody_hex hx r
  · rw [h]
    exact multilineBody_newline r
  · rw [h]
    exact multilineBody_visible hv hq hb r

/-- A quote is the first of three, or it stands for itself. -/
theorem multilineBody_quote (r : List Char) : multilineBody .none ('"' :: r) = match r with
    | '"' :: '"' :: '"' :: '"' :: r => some (['"', '"'], r)
    | '"' :: '"' :: '"' :: r => some (['"'], r)
    | '"' :: '"' :: r => some ([], r)
    | r => withChar '"' (multilineBody .none r) := by
  rw [multilineBody.eq_def]
  simp only [reduceCtorEq, ↓reduceIte, Bool.false_and, Bool.false_eq_true, decide_false]
  rfl

theorem multilineBody_lone_quote {r : List Char} (h : ∀ rest, r ≠ '"' :: '"' :: rest) :
    multilineBody .none ('"' :: r) = withChar '"' (multilineBody .none r) := by
  rw [multilineBody_quote]
  split <;> first | exact absurd rfl (h _) | rfl

/-- Up to two quotes stand before the closing three. -/
theorem multilineBody_close {r : List Char} (hr : ∀ rest, r ≠ '"' :: rest) {n : Nat} (hn : n ≤ 2) :
    multilineBody .none (List.replicate n '"' ++ '"' :: '"' :: '"' :: r) = some (List.replicate n '"', r) := by
  match n, hn with
  | 0, _ =>
    show multilineBody .none ('"' :: '"' :: '"' :: r) = some ([], r)
    rw [multilineBody_quote]
    split <;> grind
  | 1, _ =>
    show multilineBody .none ('"' :: '"' :: '"' :: '"' :: r) = some (['"'], r)
    rw [multilineBody_quote]
    split <;> grind
  | 2, _ => exact multilineBody_quote _

theorem escapedChar_append_ne {c : Char} (hc : c ≠ '"') (tail rest : List Char) :
    escapedChar c ++ tail ≠ '"' :: rest := by
  obtain ⟨d, more, hd, hhead, -⟩ := exists_head_escapedChar c
  have hq : d ≠ '"' := by
    rcases hhead with rfl | rfl
    · decide
    · exact hc
  simp [hd, hq]

/-- Behind two quotes no third one follows without a backslash. -/
theorem multilineChars_two_ne {cs : List Char} (hne : cs ≠ []) (tail rest : List Char) :
    multilineChars 2 cs ++ tail ≠ '"' :: rest := by
  cases cs with
  | nil => exact absurd rfl hne
  | cons c cs =>
    by_cases hc : c = '"'
    · simp [multilineChars, hc]
    · simpa [multilineChars, hc] using escapedChar_append_ne hc _ rest

/-- Behind one quote two more follow only at the end. -/
theorem multilineChars_one_ne {cs : List Char} (hne : cs ≠ []) (hpair : cs ≠ ['"']) (tail rest : List Char) :
    multilineChars 1 cs ++ tail ≠ '"' :: '"' :: rest := by
  cases cs with
  | nil => exact absurd rfl hne
  | cons c cs =>
    by_cases hc : c = '"'
    · have hcs : cs ≠ [] := fun hnil => hpair (by rw [hc, hnil])
      simpa [multilineChars, hc] using multilineChars_two_ne hcs tail rest
    · simpa [multilineChars, hc] using escapedChar_append_ne hc _ ('"' :: rest)

/-- A string between three double quotes is read back. The induction goes over the string with the count `run` of the
    quotes that the writer has left unescaped just before. -/
theorem multilineBody_multilineChars (cs : List Char) {r : List Char} (hr : ∀ rest, r ≠ '"' :: rest) {run : Nat}
    (hrun : run ≤ 2) : multilineBody .none (multilineChars run cs ++ '"' :: '"' :: '"' :: r) = some (cs, r) := by
  induction cs generalizing run with
  | nil => exact multilineBody_close hr (Nat.zero_le 2)
  | cons c cs ih =>
    by_cases hc : c = '"'
    · subst hc
      by_cases htwo : run = 2
      · simp only [multilineChars, htwo, ite_true, List.cons_append]
        rw [multilineBody_letter rfl, ih (Nat.zero_le 2)]
        rfl
      simp only [multilineChars, htwo, ite_true, ite_false, List.cons_append]
      by_cases hlast : cs = []
      · subst hlast
        exact multilineBody_close hr (n := 1) (by decide)
      by_cases hpair : run = 0 ∧ cs = ['"']
      · obtain ⟨rfl, rfl⟩ := hpair
        exact multilineBody_close hr (n := 2) (by decide)
      have hlone : ∀ rest, multilineChars (run + 1) cs ++ '"' :: '"' :: '"' :: r ≠ '"' :: '"' :: rest := fun rest => by
        obtain rfl | rfl : run = 0 ∨ run = 1 := by omega
        · exact multilineChars_one_ne hlast (fun hcs => hpair ⟨rfl, hcs⟩) _ rest
        · exact multilineChars_two_ne hlast _ _
      rw [multilineBody_lone_quote hlone, ih (by omega)]
      rfl
    · simp only [multilineChars, hc, ite_false, List.append_assoc]
      rw [multilineBody_escapedChar hc, ih (Nat.zero_le 2)]
      rfl

/-! ### Three single quotes -/

theorem le_longestRun (x : Char) (n : Nat) (cs : List Char) : n ≤ longestRun x n cs := by
  induction cs generalizing n with
  | nil => exact Nat.le_refl n
  | cons c cs ih =>
    rw [longestRun]
    split
    · exact Nat.le_trans (Nat.le_succ n) (ih (n + 1))
    · exact Nat.le_max_left _ _

theorem longestRun_mono (x : Char) {m n : Nat} (h : m ≤ n) (cs : List Char) :
    longestRun x m cs ≤ longestRun x n cs := by
  induction cs generalizing m n with
  | nil => exact h
  | cons c cs ih =>
    rw [longestRun, longestRun]
    split
    · exact ih (Nat.succ_le_succ h)
    · exact Nat.max_le.mpr ⟨Nat.le_trans h (Nat.le_max_left _ _), Nat.le_max_right _ _⟩

theorem notMem_of_longestRun_eq_zero {x : Char} {cs : List Char} (h : longestRun x 0 cs = 0) : x ∉ cs := by
  induction cs with
  | nil => exact List.not_mem_nil
  | cons c cs ih =>
    rw [longestRun] at h
    split at h
    · have := le_longestRun x (0 + 1) cs
      omega
    · next hc =>
      rw [List.mem_cons, not_or]
      exact ⟨fun hx => hc hx.symm, ih (by omega)⟩

theorem multilineLiteralBody_other {c : Char} (hq : c ≠ '\x27') (hc : needsEscape c = false) (r : List Char) :
    multilineLiteralBody (c :: r) = withChar c (multilineLiteralBody r) := by
  rcases visible_or_newline hc with rfl | hv
  · rfl
  · have hr : c ≠ '\r' := ne_return_of_isVisible hv
    rw [multilineLiteralBody.eq_def]
    split <;> grind

/-- A quote that is not the first of three stands for itself. -/
theorem multilineLiteralBody_lone_quote {r : List Char} (h : ∀ rest, r ≠ '\x27' :: '\x27' :: rest) :
    multilineLiteralBody ('\x27' :: r) = withChar '\x27' (multilineLiteralBody r) := by
  have hv : isVisible '\x27' = true := by decide
  rw [multilineLiteralBody.eq_def]
  split <;> grind

/-- Up to two quotes stand before the closing three. -/
theorem multilineLiteralBody_close {r : List Char} (hr : ∀ rest, r ≠ '\x27' :: rest) {n : Nat} (hn : n ≤ 2) :
    multilineLiteralBody (List.replicate n '\x27' ++ '\x27' :: '\x27' :: '\x27' :: r) =
      some (List.replicate n '\x27', r) := by
  match n, hn with
  | 0, _ =>
    show multilineLiteralBody ('\x27' :: '\x27' :: '\x27' :: r) = some ([], r)
    rw [multilineLiteralBody.eq_def]
    split <;> grind
  | 1, _ =>
    show multilineLiteralBody ('\x27' :: '\x27' :: '\x27' :: '\x27' :: r) = some (['\x27'], r)
    rw [multilineLiteralBody.eq_def]
    split <;> grind
  | 2, _ => rfl

/-- A string between three single quotes is read back when it has no run of three. -/
theorem multilineLiteralBody_append {cs : List Char} (hc : ∀ c ∈ cs, needsEscape c = false)
    (hrun : longestRun '\x27' 0 cs ≤ 2) {r : List Char} (hr : ∀ rest, r ≠ '\x27' :: rest) :
    multilineLiteralBody (cs ++ '\x27' :: '\x27' :: '\x27' :: r) = some (cs, r) := by
  induction cs with
  | nil => exact multilineLiteralBody_close hr (Nat.zero_le 2)
  | cons c cs ih =>
    have hcs : longestRun '\x27' 0 cs ≤ 2 := by
      rw [longestRun] at hrun
      split at hrun
      · exact Nat.le_trans (longestRun_mono _ (Nat.zero_le _) cs) hrun
      · exact Nat.le_trans (Nat.le_max_right _ _) hrun
    have ih := ih (fun d hd => hc d (List.mem_cons_of_mem c hd)) hcs
    by_cases hq : c = '\x27'
    · subst hq
      by_cases hlast : cs = []
      · subst hlast
        exact multilineLiteralBody_close hr (n := 1) (by decide)
      by_cases hpair : cs = ['\x27']
      · subst hpair
        exact multilineLiteralBody_close hr (n := 2) (by decide)
      have hlone : ∀ rest, cs ++ '\x27' :: '\x27' :: '\x27' :: r ≠ '\x27' :: '\x27' :: rest := fun rest heq => by
        -- A third quote would make the run too long.
        match cs, hlast, hpair with
        | [c], _, hpair => simp_all
        | c :: c' :: cs, _, _ =>
          simp only [List.cons_append, List.cons.injEq] at heq
          obtain ⟨rfl, rfl, -⟩ := heq
          have hthree := le_longestRun '\x27' (0 + 1 + 1 + 1) cs
          simp only [longestRun, ite_true] at hrun
          omega
      rw [List.cons_append, multilineLiteralBody_lone_quote hlone, ih]
      rfl
    · rw [List.cons_append, multilineLiteralBody_other hq (hc c List.mem_cons_self), ih]
      rfl

/-! ### All forms -/

theorem skipFirstNewline_of_ne {c : Char} (hn : c ≠ '\n') (hr : c ≠ '\r') (cs : List Char) :
    skipFirstNewline (c :: cs) = c :: cs := by
  rw [skipFirstNewline, newline?.eq_def]
  split <;> grind

/-- The line break that the writer puts in front is the one that the reader passes over. -/
theorem skipFirstNewline_firstBreak {cs body : List Char}
    (h : '\n' ∉ cs → ∃ c rest, body = c :: rest ∧ c ≠ '\n' ∧ c ≠ '\r') :
    skipFirstNewline (firstBreak cs ++ body) = body := by
  unfold firstBreak
  by_cases hn : '\n' ∈ cs
  · rw [List.contains_iff_mem.mpr hn]
    rfl
  · obtain ⟨c, rest, rfl, hc, hr⟩ := h hn
    rw [if_neg (by simpa using hn)]
    exact skipFirstNewline_of_ne hc hr rest

theorem readString_writeBasic (cs : List Char) {r : List Char} (hr : ∀ rest, r ≠ '"' :: rest) :
    readString (writeBasic cs ++ r) = some (cs, r) := by
  have hopen : ∀ rest, cs.flatMap basicChar ++ '"' :: r ≠ '"' :: '"' :: rest := fun rest heq => by
    cases cs with
    | nil => exact hr rest (List.cons.inj heq).2
    | cons c cs =>
      obtain ⟨d, more, hd, hq⟩ := exists_head_basicChar c
      simp only [List.flatMap_cons, hd, List.cons_append, List.cons.injEq] at heq
      exact hq heq.1
  calc readString (writeBasic cs ++ r)
      = readString ('"' :: (cs.flatMap basicChar ++ '"' :: r)) := by simp [writeBasic_eq]
    _ = basicBody (cs.flatMap basicChar ++ '"' :: r) := by
      rw [readString.eq_def]
      split <;> grind
    _ = some (cs, r) := basicBody_flatMap cs r

theorem readString_writeLiteral {cs : List Char} (hv : ∀ c ∈ cs, isVisible c = true) (hq : '\x27' ∉ cs) {r : List Char}
    (hr : ∀ rest, r ≠ '\x27' :: rest) : readString (writeLiteral cs ++ r) = some (cs, r) := by
  have hopen : ∀ rest, cs ++ '\x27' :: r ≠ '\x27' :: '\x27' :: rest := fun rest heq => by
    cases cs with
    | nil => exact hr rest (List.cons.inj heq).2
    | cons c cs => exact hq ((List.cons.inj heq).1 ▸ List.mem_cons_self)
  calc readString (writeLiteral cs ++ r)
      = readString ('\x27' :: (cs ++ '\x27' :: r)) := by simp [writeLiteral]
    _ = literalBody (cs ++ '\x27' :: r) := by
      rw [readString.eq_def]
      split <;> grind
    _ = some (cs, r) := literalBody_append hv hq r

theorem readString_writeMultiline (cs : List Char) {r : List Char} (hr : ∀ rest, r ≠ '"' :: rest) :
    readString (writeMultiline cs ++ r) = some (cs, r) := by
  have hskip : skipFirstNewline (firstBreak cs ++ (multilineChars 0 cs ++ '"' :: '"' :: '"' :: r)) =
      multilineChars 0 cs ++ '"' :: '"' :: '"' :: r := by
    refine skipFirstNewline_firstBreak fun hn => ?_
    cases cs with
    | nil => exact ⟨_, _, rfl, by decide, by decide⟩
    | cons c cs =>
      by_cases hc : c = '"'
      · subst hc
        exact ⟨_, _, rfl, by decide, by decide⟩
      · obtain ⟨d, more, hd, hhead, hreturn⟩ := exists_head_escapedChar c
        refine ⟨d, more ++ (multilineChars 0 cs ++ '"' :: '"' :: '"' :: r), by simp [multilineChars, hc, hd], ?_, hreturn⟩
        rcases hhead with rfl | rfl
        · decide
        · exact fun h => hn (h ▸ List.mem_cons_self)
  calc readString (writeMultiline cs ++ r)
      = multilineBody .none (skipFirstNewline
          (firstBreak cs ++ (multilineChars 0 cs ++ '"' :: '"' :: '"' :: r))) := by
        simp [writeMultiline, readString]
    _ = some (cs, r) := by rw [hskip, multilineBody_multilineChars cs hr (Nat.zero_le 2)]

theorem readString_writeMultilineLiteral {cs : List Char} (hc : ∀ c ∈ cs, needsEscape c = false)
    (hrun : longestRun '\x27' 0 cs ≤ 2) {r : List Char} (hr : ∀ rest, r ≠ '\x27' :: rest) :
    readString (writeMultilineLiteral cs ++ r) = some (cs, r) := by
  have hskip : skipFirstNewline (firstBreak cs ++ (cs ++ '\x27' :: '\x27' :: '\x27' :: r)) =
      cs ++ '\x27' :: '\x27' :: '\x27' :: r := by
    refine skipFirstNewline_firstBreak fun hn => ?_
    cases cs with
    | nil => exact ⟨_, _, rfl, by decide, by decide⟩
    | cons c cs =>
      have hne : c ≠ '\n' := fun h => hn (h ▸ List.mem_cons_self)
      exact ⟨_, _, rfl, hne, ne_return_of_isVisible ((visible_or_newline (hc c List.mem_cons_self)).resolve_left hne)⟩
  calc readString (writeMultilineLiteral cs ++ r)
      = multilineLiteralBody (skipFirstNewline
          (firstBreak cs ++ (cs ++ '\x27' :: '\x27' :: '\x27' :: r))) := by
        simp [writeMultilineLiteral, readString]
    _ = some (cs, r) := by rw [hskip, multilineLiteralBody_append hc hrun hr]

/-- Whatever is in a string, and in whatever form it is written, it is read back; what stands behind it must not go on
    with quotes. -/
theorem readString_writeString (cs : List Char) {r : List Char} (hdouble : ∀ rest, r ≠ '"' :: rest)
    (hsingle : ∀ rest, r ≠ '\x27' :: rest) : readString (writeString cs ++ r) = some (cs, r) := by
  have hplain : (!cs.any needsEscape) = true → ∀ c ∈ cs, needsEscape c = false := by simp
  unfold writeString
  simp only [Bool.and_eq_true, decide_eq_true_eq]
  split_ifs with hbasic hliteral hmultiline hmultilineLiteral hlines
  · exact readString_writeBasic cs hdouble
  · obtain ⟨⟨hp, hzero⟩, hn⟩ := hliteral
    refine readString_writeLiteral (fun c hc => ?_) (notMem_of_longestRun_eq_zero hzero) hsingle
    have hnew : '\n' ∉ cs := by simpa using hn
    exact (visible_or_newline (hplain hp c hc)).resolve_left fun hc' => hnew (hc' ▸ hc)
  · exact readString_writeMultiline cs hdouble
  · exact readString_writeMultilineLiteral (hplain hmultilineLiteral.1) hmultilineLiteral.2 hsingle
  · exact readString_writeMultiline cs hdouble
  · exact readString_writeBasic cs hdouble

end KeyFeed.Toml
