import KeyFeed.Flags.Basic
import KeyFeed.Proofs.Feed.LineText
import KeyFeed.Proofs.Session.Recording
import KeyFeed.Settings.Reader
import KeyFeed.Session.Record
import KeyFeed.Supervisor.Basic

/-! From the settings to the wire. Whatever settings the program accepts, whatever the command line overrides and whatever
    commands are executed: the stream of lines can be cut into its lines again, and every line is read back with the tag of
    the settings and with a key of the command that wrote it. -/

namespace KeyFeed
open Text Bus Host Feed Key Session

/-! ### Words -/

theorem Key.Code.isWord_of_mem_names (c : Code) : ∀ name ∈ c.names, Line.IsWord name := by
  cases c <;> decide

theorem isSourceTag_iff {tag : String} :
    isSourceTag tag = true ↔ tag ≠ "" ∧ ∀ c ∈ tag.toList, isBlank c = false ∧ isControl c = false := by
  simp [isSourceTag]

theorem isWord_of_isSourceTag {tag : String} (h : isSourceTag tag = true) : Line.IsWord tag := by
  have hnot : ∀ c, isBlank c = true → c ∉ tag.toList := fun c hc hm => by
    rw [((isSourceTag_iff.mp h).2 c hm).1] at hc
    cases hc
  exact ⟨hnot ' ' (by decide), hnot '\n' (by decide)⟩

theorem isSourceTag_default : isSourceTag Settings.default.daemon.sourceTag = true := by decide

namespace Settings

section
variable {path : String} {content : Except OsError String} {settings : Settings}

/-- Settings that were accepted are those of a document, with a tag that was looked at, or the default. -/
theorem eq_default_or_of_load (accepted : load path content = .ok settings) : settings = .default ∨
    ∃ entries, ofEntries? entries = some settings ∧ isSourceTag settings.daemon.sourceTag = true := by
  unfold load at accepted
  split at accepted
  · unfold parse at accepted
    split at accepted
    · cases accepted
    · next read hread =>
      obtain ⟨entries, -, hentries⟩ := Option.bind_eq_some_iff.mp hread
      cases htag : isSourceTag read.daemon.sourceTag with
      | true =>
        simp only [checkSourceTag, htag, ite_true, Except.map] at accepted
        obtain rfl := Except.ok.inj accepted
        exact Or.inr ⟨entries, hentries, htag⟩
      | false => simp [checkSourceTag, htag, Except.map] at accepted
  · exact Or.inl (Except.ok.inj accepted).symm
  · cases accepted

theorem isSourceTag_of_load (accepted : load path content = .ok settings) :
    isSourceTag settings.daemon.sourceTag = true := by
  rcases eq_default_or_of_load accepted with rfl | ⟨-, -, htag⟩
  · exact isSourceTag_default
  · exact htag

end

end Settings

/-! ### The keys of commands -/

/-- Every key of a command is a name of its code. -/
theorem Command.lookup_of_mem_keys {onStandby : Option String} {c : Command} {key : UInt8 × String}
    (h : key ∈ c.keys onStandby) : key.1 ≤ 0x96 ∧ ∃ names, lookup key.1 = .ok names ∧ key.2 ∈ names := by
  cases c with
  | standby =>
    have hkey : key = (0x40, "KEY_POWER") := by
      simp only [keys] at h
      split at h
      · simpa using h
      · cases h
    subst hkey
    exact ⟨by decide, ["KEY_POWER"], rfl, List.mem_singleton_self _⟩
  | keyPress code =>
    simp only [keys] at h
    split at h
    · next hle =>
      obtain ⟨name, hname, rfl⟩ := List.mem_map.mp h
      exact ⟨hle, _, (lookup_eq code).trans (if_pos hle), hname⟩
    · cases h
  | activate | inactive | restart | exit => cases h

theorem isWord_of_lookup {code : UInt8} {names : List String} (h : lookup code = .ok names) {name : String}
    (hn : name ∈ names) : Line.IsWord name := by
  rw [lookup_eq] at h
  split at h
  · obtain rfl := Except.ok.inj h
    cases hc : Code.ofByte? code with
    | none => simp [hc] at hn
    | some c => exact c.isWord_of_mem_names name (by simpa [hc] using hn)
  · cases h

namespace Session.Station

variable {σ : Type}

/-- The lines of an execution are those of its commands, in their order. -/
theorem executeAll_lines (out : Outlet σ) (st : Station) (w : σ) (lines : List String) (cs : List Command) :
    (st.executeAll (out.recording fun line lines => lines ++ [line]) (w, lines) cs).2.2 = lines ++
      ((cs.flatMap (Command.keys st.hooks.onStandby)).map (keyLine st.emitter.tag)).map Line.text := by
  induction cs generalizing st w lines with
  | nil => simp
  | cons c cs ih =>
    obtain ⟨hh, ht⟩ := st.execute_frame out w c
    rw [executeAll_cons, execute_recording, ih, hh, ht, linesOf_eq, foldl_concat_text]
    simp [List.map_flatMap]

end Session.Station

/-! ### From the settings on -/

/-- The lines that the program writes for commands can be cut out of their stream and read back, and what is read are the
    keys of the commands with the tag of the settings. Nothing on the command line and no file that is accepted can change
    that. -/
theorem parse_lines_of_load {σ : Type} {path : String} {content : Except OsError String} {settings : Settings}
    (accepted : Settings.load path content = .ok settings) (flags : Flags) (hostname : Option String)
    (out : Outlet σ) (w : σ) (commands : List Command) :
    let options := Options.ofSettings hostname (flags.applyTo settings)
    let st := (Supervisor.State.fresh options).station
    let lines := (st.executeAll (out.recording fun line lines => lines ++ [line]) (w, []) commands).2.2
    let keys := commands.flatMap (Command.keys options.hooks.onStandby)
    (pieces '\n' (lines.flatMap String.toList)).map String.ofList = lines ∧
    lines.map Line.parse =
      keys.map (fun key => .ok ⟨key.1.toUInt32, false, key.2, settings.daemon.sourceTag⟩) ∧
    ∀ key ∈ keys, key.1 ≤ 0x96 ∧ ∃ names, lookup key.1 = .ok names ∧ key.2 ∈ names := by
  intro options st lines keys
  have hkeys : ∀ key ∈ keys, key.1 ≤ 0x96 ∧ ∃ names, lookup key.1 = .ok names ∧ key.2 ∈ names := fun key hk => by
    obtain ⟨c, -, hc⟩ := List.mem_flatMap.mp hk
    exact Command.lookup_of_mem_keys hc
  have hlines : lines = (keys.map (Station.keyLine settings.daemon.sourceTag)).map Line.text :=
    Station.executeAll_lines out st w [] commands
  have hword : ∀ l ∈ keys.map (Station.keyLine settings.daemon.sourceTag), Line.IsWord l.name ∧ Line.IsWord l.source := by
    intro l hl
    obtain ⟨key, hk, rfl⟩ := List.mem_map.mp hl
    obtain ⟨-, names, hn, hm⟩ := hkeys key hk
    exact ⟨isWord_of_lookup hn hm, isWord_of_isSourceTag (Settings.isSourceTag_of_load accepted)⟩
  refine ⟨hlines ▸ Line.pieces_texts hword, ?_, hkeys⟩
  rw [hlines, List.map_map, List.map_map]
  refine List.map_congr_left fun key hk => ?_
  obtain ⟨hname, hsource⟩ := hword _ (List.mem_map_of_mem hk)
  exact Line.parse_text _ hname.1 hsource.1

/-- A blank command for going to sleep takes back the one of the settings, so keys are written; a code without an entry
    among the names writes none. -/
theorem parse_lines_of_load_blankCommand :
    let settings : Settings := ⟨{ DaemonSettings.default with sourceTag := "DEN" }, ⟨some "true", none, none⟩⟩
    let flags := { Flags.empty with onStandby := some " " }
    let st := (Supervisor.State.fresh (Options.ofSettings none (flags.applyTo settings))).station
    let out := (Record.outlet fun _ => none).recording fun line lines => lines ++ [line]
    let lines := (st.executeAll out (.empty, []) [.keyPress 0x07, .standby, .keyPress 0xA0]).2.2
    Settings.load "config.toml" (.ok "[daemon]\nsource_tag = \"DEN\"\n[actions]\non_standby = \"true\"\n") = .ok settings ∧
    lines = ["7 0 KEY_LEFT DEN\n", "7 0 KEY_UP DEN\n", "40 0 KEY_POWER DEN\n", "40 0 KEY_POWER DEN\n"] ∧
    lines.map Line.parse = [.ok ⟨0x07, false, "KEY_LEFT", "DEN"⟩, .ok ⟨0x07, false, "KEY_UP", "DEN"⟩,
      .ok ⟨0x40, false, "KEY_POWER", "DEN"⟩, .ok ⟨0x40, false, "KEY_POWER", "DEN"⟩] := by
  intro settings flags st out lines
  have accepted : Settings.load "config.toml"
      (.ok "[daemon]\nsource_tag = \"DEN\"\n[actions]\non_standby = \"true\"\n") = .ok settings := rfl
  have h := parse_lines_of_load accepted flags none (Record.outlet fun _ => none) .empty
    [.keyPress 0x07, .standby, .keyPress 0xA0]
  exact ⟨accepted, by decide, h.2.1⟩

end KeyFeed
