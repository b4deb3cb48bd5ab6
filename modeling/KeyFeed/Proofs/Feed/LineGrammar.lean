import KeyFeed.Proofs.Feed.LineText
import KeyFeed.Proofs.Text.Numerals

/-! Which texts are lines. A reader takes a code in hexadecimal of either case, with or without a plus sign and with any
    number of zeros in front, and of several things that are wrong it reports the first. A line that was taken is
    written back in its one plain form. -/

namespace KeyFeed.Feed.Line
open Text

/-- A code as readers take it. -/
def IsCode (cs : List Char) (code : UInt32) : Prop := IsUnsigned 16 0xFFFFFFFF cs code.toNat

/-- Four fields as they stand in a line. -/
def ofFour (code repeating name source : List Char) : List Char :=
  code ++ ' ' :: (repeating ++ ' ' :: (name ++ ' ' :: source)) ++ ['\n']

/-- Four fields that can be told apart. -/
structure Apart (code repeating name source : List Char) : Prop where
  code : ' ' ∉ code
  repeating : ' ' ∉ repeating
  name : ' ' ∉ name
  source : ' ' ∉ source

/-- What a text is to a reader: a line, or the first thing that is wrong with it. -/
inductive Reading : List Char → Except LineError Line → Prop where
  | missingNewline {cs} : cs.getLast? ≠ some '\n' → Reading cs (.error .missingNewline)
  | fieldCount {body} : body.count ' ' ≠ 3 → Reading (body ++ ['\n']) (.error (.fieldCount (body.count ' ' + 1)))
  | invalidCode {code repeating name source} : Apart code repeating name source → (∀ c, ¬ IsCode code c) →
      Reading (ofFour code repeating name source) (.error (.invalidCode (String.ofList code)))
  | invalidRepeat {code repeating name source c} : Apart code repeating name source → IsCode code c →
      repeating ≠ ['0'] → repeating ≠ ['1'] →
      Reading (ofFour code repeating name source) (.error (.invalidRepeat (String.ofList repeating)))
  | line {code l} : Apart code [repeatFlag l.repeating] l.name.toList l.source.toList → IsCode code l.code →
      Reading (ofFour code [repeatFlag l.repeating] l.name.toList l.source.toList) (.ok l)

/-! ### The single fields -/

theorem readCode_eq_ok_iff {cs : List Char} {code : UInt32} : readCode cs = .ok code ↔ IsCode cs code := by
  rw [IsCode, ← readUnsigned?_eq_some_iff (Nat.le_refl 16), readCode]
  cases h : readUnsigned? 16 0xFFFFFFFF cs with
  | none => simp
  | some n =>
    have hle : n ≤ 0xFFFFFFFF := ((readUnsigned?_eq_some_iff (Nat.le_refl 16)).mp h).1
    have hn : (UInt32.ofNat n).toNat = n := UInt32.toNat_ofNat_of_lt' (Nat.lt_succ_of_le hle)
    simp only [Except.ok.injEq, Option.some.injEq]
    exact ⟨fun heq => by rw [← heq, hn], fun heq => UInt32.toNat_inj.mp (hn.trans heq)⟩

theorem readCode_eq_error {cs : List Char} (h : ∀ c, ¬ IsCode cs c) :
    readCode cs = .error (.invalidCode (String.ofList cs)) := by
  cases hread : readCode cs with
  | ok c => exact absurd (readCode_eq_ok_iff.mp hread) (h c)
  | error e =>
    unfold readCode at hread
    split at hread
    · cases hread
    · exact hread.symm

theorem readRepeat_cases (cs : List Char) : (∃ b, cs = [repeatFlag b]) ∨
    (cs ≠ ['0'] ∧ cs ≠ ['1'] ∧ readRepeat cs = .error (.invalidRepeat (String.ofList cs))) := by
  by_cases h0 : cs = ['0']
  · exact Or.inl ⟨false, h0⟩
  · by_cases h1 : cs = ['1']
    · exact Or.inl ⟨true, h1⟩
    · refine Or.inr ⟨h0, h1, ?_⟩
      unfold readRepeat
      split
      · exact absurd rfl h0
      · exact absurd rfl h1
      · rfl

/-! ### Four fields -/

theorem Apart.parseChars_eq {code repeating name source : List Char} (h : Apart code repeating name source) :
    parseChars (ofFour code repeating name source) = ofFields code repeating name source := by
  simp only [parseChars, ofFour, dropLast?_concat, fields_four h.code h.repeating h.name h.source]

theorem exists_ofFour {body : List Char} (h : body.count ' ' = 3) :
    ∃ code repeating name source, Apart code repeating name source ∧
      body ++ ['\n'] = ofFour code repeating name source := by
  have hlength : (fields ' ' body).length = 4 := by rw [length_fields, h]
  obtain ⟨code, repeating, name, source, hfields⟩ : ∃ a b c d, fields ' ' body = [a, b, c, d] := by
    match fields ' ' body, hlength with
    | [a, b, c, d], _ => exact ⟨a, b, c, d, rfl⟩
  obtain ⟨-, hmem, hjoin⟩ := fields_eq_iff.mp hfields
  refine ⟨code, repeating, name, source, ⟨?_, ?_, ?_, ?_⟩, ?_⟩
  · exact hmem code (by simp)
  · exact hmem repeating (by simp)
  · exact hmem name (by simp)
  · exact hmem source (by simp)
  · rw [← hjoin]
    simp [join, ofFour]

/-! ### The whole text -/

theorem parseChars_of_reading {cs : List Char} {r : Except LineError Line} (h : Reading cs r) : parseChars cs = r := by
  cases h with
  | missingNewline h => rw [parseChars, dropLast?_eq_none_iff.mpr h]
  | fieldCount h => exact parseChars_of_count h
  | invalidCode hapart hcode => rw [hapart.parseChars_eq, ofFields, readCode_eq_error hcode]
  | @invalidRepeat _ repeating _ _ _ hapart hcode h0 h1 =>
    rcases readRepeat_cases repeating with ⟨b, rfl⟩ | ⟨-, -, hrepeat⟩
    · cases b
      · exact absurd rfl h0
      · exact absurd rfl h1
    · rw [hapart.parseChars_eq, ofFields, readCode_eq_ok_iff.mpr hcode]
      simp only [hrepeat]
  | line hapart hcode =>
    rw [hapart.parseChars_eq, ofFields, readCode_eq_ok_iff.mpr hcode]
    simp only [readRepeat_repeatFlag, String.ofList_toList]

/-- Every text is a line or has a first thing that is wrong with it. -/
theorem exists_reading (cs : List Char) : ∃ r, Reading cs r := by
  cases hdrop : dropLast? '\n' cs with
  | none => exact ⟨_, .missingNewline (dropLast?_eq_none_iff.mp hdrop)⟩
  | some body =>
    obtain rfl := eq_concat_of_dropLast? hdrop
    by_cases hcount : body.count ' ' = 3
    · obtain ⟨code, repeating, name, source, hapart, heq⟩ := exists_ofFour hcount
      rw [heq]
      by_cases hcode : ∃ c, IsCode code c
      · obtain ⟨c, hcode⟩ := hcode
        rcases readRepeat_cases repeating with ⟨b, rfl⟩ | ⟨h0, h1, -⟩
        · have hline := Reading.line (l := ⟨c, b, String.ofList name, String.ofList source⟩)
            (by simpa using hapart) hcode
          exact ⟨_, by simpa using hline⟩
        · exact ⟨_, .invalidRepeat hapart hcode h0 h1⟩
      · exact ⟨_, .invalidCode hapart fun c hc => hcode ⟨c, hc⟩⟩
    · exact ⟨_, .fieldCount hcount⟩

theorem parse_eq_iff_reading {s : String} {r : Except LineError Line} : parse s = r ↔ Reading s.toList r := by
  refine ⟨fun h => ?_, parseChars_of_reading⟩
  obtain ⟨r', hr⟩ := exists_reading s.toList
  have heq : parse s = r' := parseChars_of_reading hr
  rwa [← h, heq]

/-! ### Lines written back -/

/-- The text of a line that was read has its fields, with the code as it is printed. -/
theorem toList_text_eq_ofFour (l : Line) : l.text.toList =
    ofFour (hexDigits l.code.toNat) [repeatFlag l.repeating] l.name.toList l.source.toList := by
  simp [text, chars, ofFour]

theorem ofFour_inj_code {code code' repeating name source : List Char} :
    ofFour code repeating name source = ofFour code' repeating name source ↔ code = code' := by
  simp [ofFour]

theorem takeWhile_ofFour {code repeating name source : List Char} (h : ' ' ∉ code) :
    (ofFour code repeating name source).takeWhile (· ≠ ' ') = code := by
  have hcode : ∀ c ∈ code, decide (c ≠ ' ') = true := fun c hc => by
    simpa using fun heq : c = ' ' => h (heq ▸ hc)
  rw [ofFour, List.append_assoc, List.takeWhile_append_of_pos hcode]
  simp

/-- A text is taken just when it is a line, and what is reported otherwise is the first thing that is wrong with it. A
    line that was taken is taken again as it is written back, and it was written so in the first place just when its
    code, which is all that stands before the first space, was plain. -/
theorem parse_iff_reading_and_text_iff_plain (s : String) :
    (∀ r, parse s = r ↔ Reading s.toList r) ∧
    ∀ l, parse s = .ok l → parse l.text = .ok l ∧ (l.text = s ↔ IsPlain (s.toList.takeWhile (· ≠ ' '))) := by
  refine ⟨fun r => parse_eq_iff_reading, fun l hparse => ?_⟩
  have hreading := parse_eq_iff_reading.mp hparse
  generalize hs : s.toList = cs at hreading ⊢
  generalize hr : Except.ok l = r at hreading
  cases hreading with
  | missingNewline | fieldCount | invalidCode | invalidRepeat => cases hr
  | @line code l hapart hcode =>
    obtain rfl := Except.ok.inj hr
    refine ⟨parse_text l hapart.name hapart.source, ?_⟩
    calc l.text = s
        ↔ ofFour (hexDigits l.code.toNat) [repeatFlag l.repeating] l.name.toList l.source.toList =
            ofFour code [repeatFlag l.repeating] l.name.toList l.source.toList := by
          rw [← String.toList_inj, toList_text_eq_ofFour, hs]
      _ ↔ code = hexDigits l.code.toNat := by rw [ofFour_inj_code, eq_comm]
      _ ↔ IsPlain code := hcode.eq_toDigits_iff (by decide) (Nat.le_refl 16)
      _ ↔ _ := by rw [takeWhile_ofFour hapart.code]

/-- A sign, two zeros and a capital are taken, and so is a name without a character in it; the line is written back
    without the first three. -/
theorem parse_iff_reading_and_text_iff_plain_signed :
    let l : Line := ⟨0xAB, true, "", "DEN"⟩
    parse "+00aB 1  DEN\n" = .ok l ∧ parse l.text = .ok l ∧ l.text = "ab 1  DEN\n" ∧
      ¬ IsPlain ("+00aB 1  DEN\n".toList.takeWhile (· ≠ ' ')) := by
  intro l
  have hparse : parse "+00aB 1  DEN\n" = .ok l := by decide
  have htext : l.text = "ab 1  DEN\n" := by decide
  obtain ⟨hback, hplain⟩ := (parse_iff_reading_and_text_iff_plain "+00aB 1  DEN\n").2 l hparse
  exact ⟨hparse, hback, htext, fun h => absurd (htext.symm.trans (hplain.mpr h)) (by decide)⟩

end KeyFeed.Feed.Line
