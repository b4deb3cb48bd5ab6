import KeyFeed.Settings.Reader
import KeyFeed.Settings.Writer
import KeyFeed.Proofs.Bus.AddressText
import KeyFeed.Proofs.Toml.Sections

/-! Settings are read back from the document that is written for them. A port that no device can have is found out
    while the document is read, and only then is the tag looked at. -/

namespace KeyFeed
open Text Bus Toml

/-! ### Fields that may be absent -/

/-- The entries of the fields that have a value. -/
def entriesOf (fields : List (String × Option Item)) : Entries :=
  fields.flatMap fun f => (f.2.map (f.1, ·)).toList

theorem fst_sublist_entriesOf (fields : List (String × Option Item)) :
    ((entriesOf fields).map Prod.fst).Sublist (fields.map Prod.fst) := by
  induction fields with
  | nil => exact List.Sublist.refl []
  | cons f fields ih =>
    obtain ⟨name, item⟩ := f
    cases item with
    | none => exact ih.cons name
    | some item => exact ih.cons_cons name

theorem get?_entriesOf {fields : List (String × Option Item)} (hnodup : (fields.map Prod.fst).Nodup) {name : String}
    {item : Option Item} (h : (name, item) ∈ fields) : (entriesOf fields).get? name = item := by
  induction fields with
  | nil => cases h
  | cons f fields ih =>
    rw [List.map_cons, List.nodup_cons] at hnodup
    have hsub := fst_sublist_entriesOf fields
    obtain ⟨other, first⟩ := f
    rcases List.mem_cons.mp h with heq | h
    · obtain ⟨rfl, rfl⟩ := Prod.mk.inj heq
      cases item with
      | none => exact get?_of_notMem fun hmem => hnodup.1 (hsub.subset hmem)
      | some item => simp [entriesOf, Entries.get?]
    · have hne : other ≠ name := by
        rintro rfl
        exact hnodup.1 (List.mem_map.mpr ⟨_, h, rfl⟩)
      rw [← ih hnodup.2 h]
      cases first with
      | none => rfl
      | some first => simp [entriesOf, Entries.get?, hne]

/-- The fields of the section about the feed, the adapter and the log, in the order in which they are written. -/
def DaemonSettings.fields (s : DaemonSettings) : List (String × Option Item) :=
  [("socket_path", some (.text s.socketPath)), ("device", s.device.map .text),
    ("make_active", some (.boolean s.makeActive)), ("log_level", some (.text s.logLevel)),
    ("source_tag", some (.text s.sourceTag)), ("target_address", s.target.map fun a => .text a.text),
    ("osd_name", s.osdName.map .text)]

def ActionSettings.fields (s : ActionSettings) : List (String × Option Item) :=
  [("on_standby", s.onStandby.map .text), ("on_activate", s.onActivate.map .text),
    ("on_deactivate", s.onDeactivate.map .text)]

/-- The sections of the document, each with the fields that have a value. -/
def Settings.sections (s : Settings) : List (String × Entries) :=
  [("daemon", entriesOf s.daemon.fields), ("actions", entriesOf s.actions.fields)]

theorem DaemonSettings.nodup_fields (s : DaemonSettings) : (s.fields.map Prod.fst).Nodup := by
  simp [fields]

theorem ActionSettings.nodup_fields (s : ActionSettings) : (s.fields.map Prod.fst).Nodup := by
  simp [fields]

/-! ### Lines -/

theorem reads_textLine (name : String) (h : isBareName name = true) (value : String) :
    Reads (textLine name value) [.pair ⟨[], name⟩ (.text value)] :=
  reads_pair name h (isValue_writeString value)

theorem reads_textLine? (name : String) (h : isBareName name = true) (value : Option String) :
    Reads (textLine? name value)
      (((value.map Item.text).map (name, ·)).toList.map fun e => .pair ⟨[], e.1⟩ e.2) := by
  cases value with
  | none => exact Reads.nil
  | some value => exact reads_textLine name h value

theorem isValue_writeBoolean (b : Bool) : IsValue (writeBoolean b) (.boolean b) := by
  cases b
  · exact isValue_false
  · exact isValue_true

theorem DaemonSettings.reads_lines (s : DaemonSettings) :
    Reads s.lines (sectionStatements "daemon" (entriesOf s.fields)) := by
  have h := reads_header "daemon" (by decide)
    |>.append (reads_textLine "socket_path" (by decide) s.socketPath)
    |>.append (reads_textLine? "device" (by decide) s.device)
    |>.append (reads_pair "make_active" (by decide) (isValue_writeBoolean s.makeActive))
    |>.append (reads_textLine "log_level" (by decide) s.logLevel)
    |>.append (reads_textLine "source_tag" (by decide) s.sourceTag)
    |>.append (reads_textLine? "target_address" (by decide) (s.target.map HdmiAddress.text))
    |>.append (reads_textLine? "osd_name" (by decide) s.osdName)
  simpa [lines, headerLine, fieldLine, sectionStatements, entriesOf, fields, Function.comp_def] using h

theorem ActionSettings.reads_lines (s : ActionSettings) :
    Reads s.lines (sectionStatements "actions" (entriesOf s.fields)) := by
  have h := reads_header "actions" (by decide)
    |>.append (reads_textLine? "on_standby" (by decide) s.onStandby)
    |>.append (reads_textLine? "on_activate" (by decide) s.onActivate)
    |>.append (reads_textLine? "on_deactivate" (by decide) s.onDeactivate)
  simpa [lines, headerLine, sectionStatements, entriesOf, fields] using h

theorem DaemonSettings.exists_lines_eq (s : DaemonSettings) : ∃ cs, s.lines = '[' :: cs :=
  ⟨_, by
    simp only [lines, headerLine, List.append_assoc, List.cons_append]
    rfl⟩

/-- The document has the two sections and nothing else. -/
theorem Settings.toml_parse_text (s : Settings) :
    Toml.parse s.text.toList = some (s.sections.map fun entry => sectionEntry entry.1 entry.2) := by
  have hreads : Reads (s.daemon.lines ++ '\n' :: s.actions.lines)
      (s.sections.flatMap fun entry => sectionStatements entry.1 entry.2) := by
    simpa [sections] using s.daemon.reads_lines.append (reads_blank.append s.actions.reads_lines)
  have hkeys : ∀ entry ∈ s.sections, (entry.2.map Prod.fst).Nodup := by
    simp only [sections, List.forall_mem_cons]
    exact ⟨s.daemon.nodup_fields.sublist (fst_sublist_entriesOf _),
      s.actions.nodup_fields.sublist (fst_sublist_entriesOf _), by simp⟩
  obtain ⟨cs, hcs⟩ := s.daemon.exists_lines_eq
  rw [text, String.toList_ofList]
  rw [hcs, List.cons_append] at hreads ⊢
  exact parse_of_reads (by decide) hreads (by simp [sections]) hkeys

/-! ### Sections -/

theorem read?_entriesOf {α : Type} {fields : List (String × Option Item)} (hnodup : (fields.map Prod.fst).Nodup)
    (name : String) (item : Option Item) (h : (name, item) ∈ fields) (position : Nat) (ofItem : Item → Option α) :
    (SectionFields.named (entriesOf fields)).read? position name ofItem =
      item.elim (some none) fun item => (ofItem item).map some := by
  rw [SectionFields.read?, SectionFields.get?, get?_entriesOf hnodup h]
  cases item <;> rfl

theorem read?_text {fields : List (String × Option Item)} (hnodup : (fields.map Prod.fst).Nodup) (name : String)
    (value : Option String) (h : (name, value.map Item.text) ∈ fields) (position : Nat) :
    (SectionFields.named (entriesOf fields)).read? position name textOfItem? = some value := by
  rw [read?_entriesOf hnodup name _ h]
  cases value <;> rfl

/-- An address without a port, or with one that a device can have. -/
def portPossible (target : Option HdmiAddress) : Bool := (target.bind HdmiAddress.port?).all HdmiAddress.portInRange

theorem addressOfItem?_text (a : HdmiAddress) :
    addressOfItem? (.text a.text) = if portPossible (some a) then some a else none := by
  rw [addressOfItem?, HdmiAddress.parse_text, portPossible, Option.bind_some]
  cases a.port? with
  | none => rfl
  | some p =>
    simp only [Option.all_some]
    split <;> rfl

theorem DaemonSettings.ofFields?_entriesOf (s : DaemonSettings) :
    ofFields? (.named (entriesOf s.fields)) = if portPossible s.target then some s else none := by
  have htext {name : String} (value : Option String) := read?_text s.nodup_fields name value
  have hboolean := read?_entriesOf s.nodup_fields "make_active" (some (.boolean s.makeActive))
    (by simp [fields]) 2 booleanOfItem?
  have htarget := read?_entriesOf s.nodup_fields "target_address" (s.target.map fun a => .text a.text)
    (by simp [fields]) 5 addressOfItem?
  rw [ofFields?, htext (some s.socketPath) (by simp [fields]), htext s.device (by simp [fields]),
    hboolean, htext (some s.logLevel) (by simp [fields]), htext (some s.sourceTag) (by simp [fields]),
    htarget, htext s.osdName (by simp [fields])]
  obtain ⟨socketPath, device, makeActive, logLevel, sourceTag, target, osdName⟩ := s
  cases target with
  | none => rfl
  | some a =>
    simp only [Option.map_some, Option.elim_some, addressOfItem?_text]
    by_cases hport : portPossible (some a) = true
    · rw [if_pos hport, if_pos hport]
      rfl
    · rw [if_neg hport, if_neg hport]
      rfl

theorem ActionSettings.ofFields?_entriesOf (s : ActionSettings) :
    ofFields? (.named (entriesOf s.fields)) = some s := by
  have htext {name : String} (value : Option String) := read?_text s.nodup_fields name value
  rw [ofFields?, htext s.onStandby (by simp [fields]), htext s.onActivate (by simp [fields]),
    htext s.onDeactivate (by simp [fields])]

namespace Settings

/-- What a document of the two sections holds. -/
theorem ofEntries?_sections (s : Settings) :
    ofEntries? (s.sections.map fun entry => sectionEntry entry.1 entry.2) =
      if portPossible s.daemon.target then some s else none := by
  have hdaemon : sectionOf? (s.sections.map fun entry => sectionEntry entry.1 entry.2) "daemon" DaemonSettings.default
      DaemonSettings.ofFields? = if portPossible s.daemon.target then some s.daemon else none := by
    rw [← DaemonSettings.ofFields?_entriesOf]
    rfl
  have hactions : sectionOf? (s.sections.map fun entry => sectionEntry entry.1 entry.2) "actions" ActionSettings.default
      ActionSettings.ofFields? = some s.actions := by
    rw [← ActionSettings.ofFields?_entriesOf]
    rfl
  rw [ofEntries?, hdaemon, hactions]
  by_cases hport : portPossible s.daemon.target = true
  · rw [if_pos hport, if_pos hport]
  · rw [if_neg hport, if_neg hport]

theorem parse_text_bind (s : Settings) :
    (Toml.parse s.text.toList).bind ofEntries? = if portPossible s.daemon.target then some s else none := by
  rw [toml_parse_text, Option.bind_some, ofEntries?_sections]

/-- Settings come back from the document that is written for them. A port that no device can have makes the document
    malformed, whatever the tag; otherwise a tag that is not one word is reported as it is. -/
theorem parse_text_eq (s : Settings) : parse s.text =
    if portPossible s.daemon.target then
      if isSourceTag s.daemon.sourceTag then .ok s else .error (.invalidSourceTag s.daemon.sourceTag)
    else .error .malformed := by
  rw [parse, parse_text_bind]
  by_cases hport : portPossible s.daemon.target = true
  · rw [if_pos hport, if_pos hport]
    simp only [checkSourceTag]
    split <;> rfl
  · rw [if_neg hport, if_neg hport]

/-- The television without a port is neither physical nor has it a possible port or one that is impossible, and yet
    the settings come back: no port is as good as a possible one. -/
theorem parse_text_portlessTv :
    let s : Settings := ⟨{ DaemonSettings.default with target := some (.tv none) }, .default⟩
    ¬ (s.daemon.target = none ∨ (∃ p, s.daemon.target = some (.physical p)) ∨
        ∃ a p, s.daemon.target = some a ∧ a.port? = some p ∧ 1 ≤ p ∧ p ≤ 15) ∧
      ¬ (∃ a p, s.daemon.target = some a ∧ a.port? = some p ∧ ¬ (1 ≤ p ∧ p ≤ 15)) ∧
      parse s.text = .ok s ∧ parse s.text ≠ .error (.invalidSourceTag s.daemon.sourceTag) := by
  intro s
  have hread : parse s.text = .ok s := by
    have htag : isSourceTag s.daemon.sourceTag = true := by decide
    rw [parse, parse_text_bind, if_pos (by rfl)]
    simp only [checkSourceTag, htag, if_true]
    rfl
  refine ⟨?_, ?_, hread, by simp [hread]⟩ <;> simp [s, HdmiAddress.port?]

end Settings

end KeyFeed
