import KeyFeed.Feed.Line
import KeyFeed.Proofs.Text.Digits
import KeyFeed.Proofs.Text.Fields

/-! Lines as subscribers receive them. A line without a space in its names is read back as it was, and no other line
    is; lines without a line feed in their names can be told apart in the stream that they make up. -/

namespace KeyFeed.Feed
open Text

namespace Line

/-- A name that can stand in a line: no reader takes a part of it for the end of the field or of the line. -/
def IsWord (s : String) : Prop := ' ' ∉ s.toList ∧ '\n' ∉ s.toList

instance (s : String) : Decidable (IsWord s) := inferInstanceAs (Decidable (_ ∧ _))

/-- A line without its line feed. -/
def body (l : Line) : List Char :=
  hexDigits l.code.toNat ++ ' ' :: [repeatFlag l.repeating] ++ ' ' :: l.name.toList ++ ' ' :: l.source.toList

theorem toList_text (l : Line) : l.text.toList = l.body ++ ['\n'] := by
  simp [text, chars, body]

theorem notMem_hexDigits {c : Char} (hc : digitValue? 16 c = none) (n : Nat) : c ∉ hexDigits n :=
  notMem_toDigits (by decide) (Nat.le_refl 16) hc n

theorem notMem_repeatFlag (b : Bool) : ' ' ≠ repeatFlag b ∧ '\n' ≠ repeatFlag b := by
  cases b <;> decide

theorem fields_body (l : Line) (hn : ' ' ∉ l.name.toList) (hs : ' ' ∉ l.source.toList) :
    fields ' ' l.body = [hexDigits l.code.toNat, [repeatFlag l.repeating], l.name.toList, l.source.toList] := by
  have hcode : ' ' ∉ hexDigits l.code.toNat := notMem_hexDigits (by decide) _
  have hflag : ' ' ∉ [repeatFlag l.repeating] := by simpa using (notMem_repeatFlag l.repeating).1
  calc fields ' ' l.body
      = fields ' ' (hexDigits l.code.toNat ++ ' ' ::
          ([repeatFlag l.repeating] ++ ' ' :: (l.name.toList ++ ' ' :: l.source.toList))) := by simp [body]
    _ = _ := fields_four hcode hflag hn hs

theorem readCode_hexDigits (code : UInt32) : readCode (hexDigits code.toNat) = .ok code := by
  have hle : code.toNat ≤ 0xFFFFFFFF := Nat.le_of_lt_succ code.toNat_lt
  rw [readCode, hexDigits, readUnsigned?_toDigits (by decide) (Nat.le_refl 16), if_pos hle]
  simp

theorem readRepeat_repeatFlag (b : Bool) : readRepeat [repeatFlag b] = .ok b := by
  cases b <;> rfl

theorem parse_text (l : Line) (hn : ' ' ∉ l.name.toList) (hs : ' ' ∉ l.source.toList) : parse l.text = .ok l := by
  simp only [parse, parseChars, toList_text, dropLast?_concat, fields_body l hn hs, ofFields, readCode_hexDigits,
    readRepeat_repeatFlag, String.ofList_toList]

theorem newline_notMem_body (l : Line) (hn : '\n' ∉ l.name.toList) (hs : '\n' ∉ l.source.toList) : '\n' ∉ l.body := by
  have hcode : '\n' ∉ hexDigits l.code.toNat := notMem_hexDigits (by decide) _
  simp [body, hcode, hn, hs, (notMem_repeatFlag l.repeating).2]

/-- Each line ends in its only line feed, so the stream gives the lines back. -/
theorem pieces_texts {lines : List Line} (h : ∀ l ∈ lines, IsWord l.name ∧ IsWord l.source) :
    (pieces '\n' ((lines.map text).flatMap String.toList)).map String.ofList = lines.map text := by
  have hpieces : pieces '\n' ((lines.map text).map String.toList).flatten = (lines.map text).map String.toList := by
    refine pieces_flatten fun cs hcs => ?_
    obtain ⟨t, ht, rfl⟩ := List.mem_map.mp hcs
    obtain ⟨l, hl, rfl⟩ := List.mem_map.mp ht
    exact ⟨l.body, l.toList_text, newline_notMem_body l (h l hl).1.2 (h l hl).2.2⟩
  rw [List.flatMap_def, hpieces]
  simp

theorem parseChars_of_count {body : List Char} (h : body.count ' ' ≠ 3) :
    parseChars (body ++ ['\n']) = .error (.fieldCount (body.count ' ' + 1)) := by
  have hlength := length_fields ' ' body
  rw [parseChars, dropLast?_concat]
  simp only
  split
  · next hfields =>
    rw [hfields] at hlength
    exact absurd (Nat.succ.inj hlength).symm h
  · rw [hlength]

theorem count_body (l : Line) : l.body.count ' ' = 3 + (l.name.toList.count ' ' + l.source.toList.count ' ') := by
  have hcode : (hexDigits l.code.toNat).count ' ' = 0 := List.count_eq_zero.mpr (notMem_hexDigits (by decide) _)
  have hflag : [repeatFlag l.repeating].count ' ' = 0 :=
    List.count_eq_zero.mpr (by simpa using (notMem_repeatFlag l.repeating).1)
  simp only [body, List.count_append, List.count_cons_self, hcode, hflag]
  omega

/-- Each space in the two names makes one field more than a line has. -/
theorem parse_text_of_space {l : Line} (h : ' ' ∈ l.name.toList ∨ ' ' ∈ l.source.toList) :
    parse l.text = .error (.fieldCount (4 + (l.name.toList.count ' ' + l.source.toList.count ' '))) := by
  have hspaces : 0 < l.name.toList.count ' ' + l.source.toList.count ' ' := by
    rcases h with h | h
    · exact Nat.add_pos_left (List.count_pos_iff.mpr h) _
    · exact Nat.add_pos_right _ (List.count_pos_iff.mpr h)
  have hcount := l.count_body
  rw [parse, toList_text, parseChars_of_count (by omega), hcount]
  congr 2
  omega

theorem format_eq_text (l : Line) : format l.code l.repeating l.name l.source = l.text := by
  have hflag : decimalDigits l.repeating.toNat = [repeatFlag l.repeating] := by cases l.repeating <;> rfl
  apply String.toList_inj.mp
  simp [format, text, chars, hex, decimal, hflag]

/-- What is written straight from four parts is the text of the line that they make up. It is read back as that line
    just when no space stands in either name; each space in them makes one field more. -/
theorem parse_format_iff (code : UInt32) (repeating : Bool) (name source : String) :
    let l : Line := ⟨code, repeating, name, source⟩
    let spaces := name.toList.count ' ' + source.toList.count ' '
    format code repeating name source = l.text ∧
    (parse (format code repeating name source) = .ok l ↔ ' ' ∉ name.toList ∧ ' ' ∉ source.toList) ∧
    (parse (format code repeating name source) = .error (.fieldCount (4 + spaces)) ↔
      ' ' ∈ name.toList ∨ ' ' ∈ source.toList) := by
  intro l spaces
  have hformat : format code repeating name source = l.text := format_eq_text l
  refine ⟨hformat, ?_⟩
  rw [hformat]
  by_cases h : ' ' ∈ name.toList ∨ ' ' ∈ source.toList
  · have hparse : parse l.text = .error (.fieldCount (4 + spaces)) := parse_text_of_space h
    rw [hparse]
    exact ⟨⟨nofun, fun hwords => absurd h (not_or.mpr hwords)⟩, fun _ => h, fun _ => rfl⟩
  · have hwords : ' ' ∉ name.toList ∧ ' ' ∉ source.toList := not_or.mp h
    have hparse : parse l.text = .ok l := parse_text l hwords.1 hwords.2
    rw [hparse]
    exact ⟨⟨fun _ => hwords, fun _ => rfl⟩, nofun, fun hspace => absurd hspace h⟩

end Line

end KeyFeed.Feed
