import KeyFeed.Toml.Document
import KeyFeed.Proofs.Toml.Strings

/-! Documents of plain sections: a header for each, then pairs of bare names and values, each on a line of its own.
    Such lines are read as the statements that they were written for, and these build one table for each section
    with just its pairs in it. -/

namespace KeyFeed.Toml
open Text

variable {name : String} {rest : List Char}

/-! ### Names -/

/-- A name that can stand without quotes. -/
def isBareName (name : String) : Bool := !name.toList.isEmpty && name.toList.all isBare

theorem ne_of_isBare {c d : Char} (hc : isBare c = true) (hd : isBare d = false) : c ≠ d := fun h => by
  rw [h, hd] at hc
  cases hc

theorem isSpace_of_isBare {c : Char} (h : isBare c = true) : isSpace c = false := by
  have hblank : c ≠ ' ' := ne_of_isBare h (by decide)
  have htab : c ≠ '\t' := ne_of_isBare h (by decide)
  simp [isSpace, hblank, htab]

theorem skipSpaces_of_not {c : Char} (h : isSpace c = false) (cs : List Char) : skipSpaces (c :: cs) = c :: cs := by
  simp [skipSpaces, h]

theorem exists_head_of_isBareName (h : isBareName name = true) : ∃ c cs, name.toList = c :: cs ∧ isBare c = true := by
  simp only [isBareName, Bool.and_eq_true, Bool.not_eq_true', List.all_eq_true] at h
  cases hn : name.toList with
  | nil => simp [hn] at h
  | cons c cs => exact ⟨c, cs, rfl, h.2 c (hn ▸ List.mem_cons_self)⟩

/-- A line that begins with a bare character is not over. -/
theorem lineEnd?_of_isBare {c : Char} (h : isBare c = true) (cs : List Char) : lineEnd? (c :: cs) = none := by
  have hhash : c ≠ '#' := ne_of_isBare h (by decide)
  have hnew : c ≠ '\n' := ne_of_isBare h (by decide)
  have hreturn : c ≠ '\r' := ne_of_isBare h (by decide)
  rw [lineEnd?, skipSpaces_of_not (isSpace_of_isBare h), skipComment.eq_2 _ (by grind)]
  show newline? (c :: cs) = none
  rw [newline?.eq_def]
  split <;> grind

theorem readName_bare (h : isBareName name = true) {c : Char} (hc : isBare c = false) :
    readName (name.toList ++ c :: rest) = some (name, c :: rest) := by
  obtain ⟨d, ds, hd, hbare⟩ := exists_head_of_isBareName h
  have hdouble : d ≠ '"' := ne_of_isBare hbare (by decide)
  have hsingle : d ≠ '\x27' := ne_of_isBare hbare (by decide)
  have hall : ∀ c' ∈ name.toList, isBare c' = true := by
    simp only [isBareName, Bool.and_eq_true, List.all_eq_true] at h
    exact h.2
  have htake : (name.toList ++ c :: rest).takeWhile isBare = name.toList := by
    rw [List.takeWhile_append_of_pos hall]
    simp [hc]
  have hdrop : (name.toList ++ c :: rest).dropWhile isBare = c :: rest := by
    rw [List.dropWhile_append_of_pos hall]
    simp [hc]
  rw [readName.eq_def]
  split
  · grind
  · grind
  · simp only [htake, hdrop, String.ofList_toList]
    simp [hd]

/-- A bare name is a whole path before anything that does not go on with a period. -/
theorem readPath_bare (h : isBareName name = true) {c d : Char} (hc : isBare c = false) {ds : List Char}
    (hskip : skipSpaces (c :: rest) = d :: ds) (hd : d ≠ '.') :
    readPath (name.toList ++ c :: rest) = some (⟨[], name⟩, d :: ds) := by
  obtain ⟨n, ns, hn, hbare⟩ := exists_head_of_isBareName h
  have hfront : skipSpaces (name.toList ++ c :: rest) = name.toList ++ c :: rest := by
    rw [hn, List.cons_append, skipSpaces_of_not (isSpace_of_isBare hbare)]
  show readPathWithin (78 + 1) _ = _
  rw [readPathWithin, hfront, readName_bare h hc]
  simp only [hskip]
  split <;> grind

/-! ### Values -/

/-- A text that is read as this item at the end of a line. -/
structure IsValue (cs : List Char) (item : Item) : Prop where
  not_space : ∃ c more, cs = c :: more ∧ isSpace c = false
  read : ∀ rest, readValue (cs ++ '\n' :: rest) = some (item, '\n' :: rest)

theorem exists_head_writeString (cs : List Char) :
    ∃ c more, writeString cs = c :: more ∧ (c = '"' ∨ c = '\x27') := by
  unfold writeString
  simp only
  split_ifs
  all_goals
    first
    | exact ⟨'"', _, rfl, Or.inl rfl⟩
    | exact ⟨'\x27', _, rfl, Or.inr rfl⟩

theorem isValue_writeString (s : String) : IsValue (writeString s.toList) (.text s) := by
  obtain ⟨c, more, hc, hquote⟩ := exists_head_writeString s.toList
  refine ⟨⟨c, more, hc, by rcases hquote with rfl | rfl <;> decide⟩, fun rest => ?_⟩
  have hread : readString (writeString s.toList ++ '\n' :: rest) = some (s.toList, '\n' :: rest) :=
    readString_writeString s.toList (fun r h => by cases h) (fun r h => by cases h)
  rw [hc, List.cons_append] at hread ⊢
  show readValueWithin 79 _ = _
  rcases hquote with rfl | rfl
  all_goals
    rw [readValueWithin, hread]
    simp

theorem isValue_true : IsValue "true".toList (.boolean true) :=
  ⟨⟨'t', ['r', 'u', 'e'], rfl, by decide⟩, fun rest => by
    simp [readValue, maxDepth, readValueWithin, readScalar, readWord, endsWord, scalar?]⟩

theorem isValue_false : IsValue "false".toList (.boolean false) :=
  ⟨⟨'f', ['a', 'l', 's', 'e'], rfl, by decide⟩, fun rest => by
    simp [readValue, maxDepth, readValueWithin, readScalar, readWord, endsWord, scalar?]⟩

/-! ### Lines -/

/-- Whole lines that are read as these statements, whatever lines follow. -/
def Reads (cs : List Char) (statements : List Statement) : Prop :=
  ∀ rest more, (∀ fuel, rest.length ≤ fuel → readLines fuel rest = some more) →
    ∀ fuel, (cs ++ rest).length ≤ fuel → readLines fuel (cs ++ rest) = some (statements ++ more)

theorem Reads.nil : Reads [] [] := fun _ _ h => h

theorem Reads.append {cs ds : List Char} {ss ts : List Statement} (hcs : Reads cs ss) (hds : Reads ds ts) :
    Reads (cs ++ ds) (ss ++ ts) := fun rest more h fuel hfuel => by
  rw [List.append_assoc] at hfuel ⊢
  rw [List.append_assoc]
  exact hcs _ _ (hds rest more h) fuel hfuel

/-- One line. -/
theorem Reads.line {cs : List Char} (statement : Option Statement) (hne : cs ≠ [])
    (h : ∀ rest, readLine (cs ++ rest) = some (statement, rest)) :
    Reads cs statement.toList := fun rest more hmore fuel hfuel => by
  cases hcs : cs ++ rest with
  | nil => exact absurd (List.append_eq_nil_iff.mp hcs).1 hne
  | cons c ds =>
    have hpos : 0 < cs.length := List.length_pos_iff.mpr hne
    obtain ⟨fuel, rfl⟩ : ∃ n, fuel = n + 1 := ⟨fuel - 1, by simp at hfuel; omega⟩
    rw [readLines, ← hcs, h rest]
    · simp only
      rw [hmore fuel (by simp at hfuel; omega)]
      rfl
    · exact List.cons_ne_nil c ds

theorem Reads.readLines_eq {cs : List Char} {ss : List Statement} (h : Reads cs ss) :
    readLines cs.length cs = some ss := by
  have hend : ∀ fuel, ([] : List Char).length ≤ fuel → readLines fuel [] = some [] := fun fuel _ => by
    cases fuel <;> rfl
  simpa using h [] [] hend cs.length (by simp)

theorem reads_blank : Reads ['\n'] [] := Reads.line none (by simp) fun rest => rfl

theorem reads_header (name : String) (h : isBareName name = true) :
    Reads ('[' :: name.toList ++ [']', '\n']) [.header ⟨[], name⟩] :=
  Reads.line (some (.header ⟨[], name⟩)) (by simp) fun rest => by
    obtain ⟨c, cs, hc, hbare⟩ := exists_head_of_isBareName h
    have hopen : c ≠ '[' := ne_of_isBare hbare (by decide)
    have hpath : readPath (name.toList ++ ']' :: '\n' :: rest) = some (⟨[], name⟩, ']' :: '\n' :: rest) :=
      readPath_bare h (by decide) (skipSpaces_of_not (by decide) _) (by decide)
    have hheader : readHeader (name.toList ++ ']' :: '\n' :: rest) = some (.header ⟨[], name⟩, rest) := by
      rw [readHeader.eq_def]
      split
      · grind
      · rw [hpath]
        rfl
    calc readLine ('[' :: name.toList ++ [']', '\n'] ++ rest)
        = (readHeader (name.toList ++ ']' :: '\n' :: rest)).map fun p => (some p.1, p.2) := by
          simp [readLine, lineEnd?, skipSpaces, isSpace, skipComment, newline?]
      _ = some (some (.header ⟨[], name⟩), rest) := by rw [hheader]; rfl

theorem reads_pair (name : String) (h : isBareName name = true) {value : List Char} {item : Item}
    (hvalue : IsValue value item) :
    Reads (name.toList ++ [' ', '=', ' '] ++ value ++ ['\n']) [.pair ⟨[], name⟩ item] :=
  Reads.line (some (.pair ⟨[], name⟩ item)) (by simp) fun rest => by
    obtain ⟨c, cs, hc, hbare⟩ := exists_head_of_isBareName h
    obtain ⟨v, vs, hv, hspace⟩ := hvalue.not_space
    have hpath : readPath (name.toList ++ ' ' :: '=' :: ' ' :: (value ++ '\n' :: rest)) =
        some (⟨[], name⟩, '=' :: ' ' :: (value ++ '\n' :: rest)) :=
      readPath_bare h (by decide) (by simp [skipSpaces, isSpace]) (by decide)
    have hskip : skipSpaces (' ' :: (value ++ '\n' :: rest)) = value ++ '\n' :: rest := by
      simp [skipSpaces, hv, hspace, show isSpace ' ' = true from by decide]
    have hpair : readPair readValue (name.toList ++ ' ' :: '=' :: ' ' :: (value ++ '\n' :: rest)) =
        some ((⟨[], name⟩, item), '\n' :: rest) := by
      rw [readPair, hpath]
      simp only [hskip, hvalue.read]
      rfl
    have hopen : c ≠ '[' := ne_of_isBare hbare (by decide)
    calc readLine (name.toList ++ [' ', '=', ' '] ++ value ++ ['\n'] ++ rest)
        = readLine (name.toList ++ ' ' :: '=' :: ' ' :: (value ++ '\n' :: rest)) := by simp
      _ = some (some (.pair ⟨[], name⟩ item), rest) := by
        rw [hc, List.cons_append] at hpair ⊢
        rw [readLine, lineEnd?_of_isBare hbare, skipSpaces_of_not (isSpace_of_isBare hbare)]
        simp only
        split
        · grind
        · rw [hpair]
          rfl

/-! ### Tables -/

/-- A name that is new is added at the end. -/
theorem updateEntry_of_notMem {es : Entries} (h : name ∉ es.map Prod.fst) (change : Option Item → Option Item) :
    updateEntry name change es = (change none).map fun item => es ++ [(name, item)] := by
  induction es with
  | nil => rfl
  | cons e es ih =>
    obtain ⟨hne, hrest⟩ : name ≠ e.1 ∧ name ∉ es.map Prod.fst := by simpa using h
    obtain ⟨n, item⟩ := e
    rw [updateEntry, if_neg (Ne.symm hne), ih hrest]
    cases change none <;> rfl

theorem updateEntry_append_cons {es : Entries} (h : name ∉ es.map Prod.fst) (change : Option Item → Option Item)
    (item : Item) (more : Entries) :
    updateEntry name change (es ++ (name, item) :: more) =
      (change (some item)).map fun item => es ++ (name, item) :: more := by
  induction es with
  | nil => simp [updateEntry]
  | cons e es ih =>
    obtain ⟨hne, hrest⟩ : name ≠ e.1 ∧ name ∉ es.map Prod.fst := by simpa using h
    obtain ⟨n, item'⟩ := e
    rw [List.cons_append, updateEntry, if_neg (Ne.symm hne), ih hrest]
    cases change (some item) <;> rfl

theorem get?_of_notMem {es : Entries} (h : name ∉ es.map Prod.fst) : Entries.get? es name = none := by
  simp only [Entries.get?, Option.map_eq_none_iff, List.find?_eq_none, beq_iff_eq]
  exact fun e he hn => h (hn ▸ List.mem_map_of_mem he)

/-! ### Sections -/

/-- The statements of a section: its header, and a pair for each entry. -/
def sectionStatements (name : String) (es : Entries) : List Statement :=
  .header ⟨[], name⟩ :: es.map fun e => .pair ⟨[], e.1⟩ e.2

/-- What the statements of a section leave behind its tables: a table of its own. -/
def sectionEntry (name : String) (es : Entries) : String × Item := (name, .table .header es)

theorem add_pair {root es : Entries} (hroot : name ∉ root.map Prod.fst) {key : String}
    (hkey : key ∉ es.map Prod.fst) (value : Item) :
    Draft.add ⟨root ++ [sectionEntry name es], [name]⟩ (.pair ⟨[], key⟩ value) =
      some ⟨root ++ [sectionEntry name (es ++ [(key, value)])], [name]⟩ := by
  simp only [Draft.add, descend, sectionEntry]
  rw [updateEntry_append_cons hroot]
  simp [insertPair, insertAt, updateEntry_of_notMem hkey]

theorem foldlM_add_pairs {root : Entries} (hroot : name ∉ root.map Prod.fst) {es more : Entries}
    (hnodup : ((es ++ more).map Prod.fst).Nodup) :
    (more.map fun e => Statement.pair ⟨[], e.1⟩ e.2).foldlM Draft.add ⟨root ++ [sectionEntry name es], [name]⟩ =
      some ⟨root ++ [sectionEntry name (es ++ more)], [name]⟩ := by
  induction more generalizing es with
  | nil => simp
  | cons e more ih =>
    have hkey : e.1 ∉ es.map Prod.fst := fun h => by
      rw [List.map_append, List.nodup_append] at hnodup
      exact hnodup.2.2 e.1 h e.1 List.mem_cons_self rfl
    rw [List.map_cons, List.foldlM_cons, add_pair hroot hkey]
    simpa using @ih (es ++ [(e.1, e.2)]) (by simpa using hnodup)

/-- A section under a new name adds its table and touches no other. -/
theorem foldlM_add_section {d : Draft} (hroot : name ∉ d.root.map Prod.fst) {es : Entries}
    (hnodup : (es.map Prod.fst).Nodup) :
    (sectionStatements name es).foldlM Draft.add d = some ⟨d.root ++ [sectionEntry name es], [name]⟩ := by
  have hopen : d.add (.header ⟨[], name⟩) = some ⟨d.root ++ [sectionEntry name []], [name]⟩ := by
    simp [Draft.add, descend, openTable, updateEntry_of_notMem hroot, sectionEntry]
  rw [sectionStatements, List.foldlM_cons, hopen]
  exact foldlM_add_pairs hroot hnodup

theorem foldlM_add_sections {sections : List (String × Entries)} {d : Draft}
    (hnames : (d.root.map Prod.fst ++ sections.map Prod.fst).Nodup)
    (hkeys : ∀ s ∈ sections, (s.2.map Prod.fst).Nodup) :
    ((sections.flatMap fun s => sectionStatements s.1 s.2).foldlM Draft.add d).map Draft.root =
      some (d.root ++ sections.map fun s => sectionEntry s.1 s.2) := by
  induction sections generalizing d with
  | nil => simp
  | cons s sections ih =>
    have hnew : s.1 ∉ d.root.map Prod.fst := fun h => by
      rw [List.nodup_append] at hnames
      exact hnames.2.2 s.1 h s.1 List.mem_cons_self rfl
    rw [List.flatMap_cons, List.foldlM_append, foldlM_add_section hnew (hkeys s List.mem_cons_self)]
    simpa [sectionEntry] using ih (d := ⟨d.root ++ [sectionEntry s.1 s.2], [s.1]⟩)
      (by simpa [sectionEntry] using hnames) fun s hs => hkeys s (List.mem_cons_of_mem _ hs)

/-- A document of sections gives back the table of each. -/
theorem parse_of_reads {c : Char} {cs : List Char} (hmark : c ≠ '\uFEFF') {sections : List (String × Entries)}
    (hreads : Reads (c :: cs) (sections.flatMap fun s => sectionStatements s.1 s.2))
    (hnames : (sections.map Prod.fst).Nodup) (hkeys : ∀ s ∈ sections, (s.2.map Prod.fst).Nodup) :
    parse (c :: cs) = some (sections.map fun s => sectionEntry s.1 s.2) := by
  have hskip : skipByteOrderMark (c :: cs) = c :: cs := by
    rw [skipByteOrderMark.eq_def]
    split <;> grind
  have hbuild := foldlM_add_sections (d := .empty) (by simpa [Draft.empty] using hnames) hkeys
  rw [parse, hskip]
  simp only [hreads.readLines_eq, Option.bind_some, build]
  simpa [Draft.empty] using hbuild

end KeyFeed.Toml
