import KeyFeed.Proofs.Adapter.OsdName
import KeyFeed.Proofs.Bus.AddressGrammar
import KeyFeed.Proofs.Feed.Wire
import KeyFeed.Proofs.Flags.Scan

/-! From the settings to the options of a run. The command line lies over the settings that were accepted, and what is
    taken from both has been checked wherever it came from: the tag by the settings, a port by whoever read the address,
    the commands and the name when the options are made. -/

namespace KeyFeed
open Text Bus Toml Host Adapter Session

/-! ### Flags over settings -/

/-- A setting with a flag over it: what the flag says if it was given, and what was there before otherwise. -/
inductive Overridden {α : Type} : Option α → α → α → Prop where
  | given (v old : α) : Overridden (some v) old v
  | kept (old : α) : Overridden none old old

/-- Settings `c` are settings `file` with the command line over them. -/
structure Flags.Overrides (fs : Flags) (file c : Settings) : Prop where
  socketPath : Overridden fs.socket file.daemon.socketPath c.daemon.socketPath
  device : Overridden (fs.port.map some) file.daemon.device c.daemon.device
  target : Overridden (fs.address.map some) file.daemon.target c.daemon.target
  logLevel : Overridden (fs.verbosity.map levelOf) file.daemon.logLevel c.daemon.logLevel
  onStandby : Overridden (fs.onStandby.map some) file.actions.onStandby c.actions.onStandby
  onActivate : Overridden (fs.onActivate.map some) file.actions.onActivate c.actions.onActivate
  onDeactivate : Overridden (fs.onDeactivate.map some) file.actions.onDeactivate c.actions.onDeactivate
  makeActive : c.daemon.makeActive = true ↔ file.daemon.makeActive = true ∧ fs.noActivate = false
  osdName : c.daemon.osdName = file.daemon.osdName
  sourceTag : c.daemon.sourceTag = file.daemon.sourceTag

section
variable {α : Type}

theorem overridden_getD (flag : Option α) (old : α) : Overridden flag old (flag.getD old) := by
  cases flag with
  | none => exact .kept old
  | some v => exact .given v old

theorem overridden_or (flag old : Option α) : Overridden (flag.map some) old (flag.or old) := by
  cases flag with
  | none => exact .kept old
  | some v => exact .given (some v) old

/-- A flag that was given once says the same again. -/
theorem Overridden.again {flag : Option α} {old new new' : α} (h : Overridden flag old new)
    (h' : Overridden flag new new') : new' = new := by
  cases h with
  | given => cases h'; rfl
  | kept => cases h'; rfl

end

namespace Flags

theorem overrides_applyTo (fs : Flags) (s : Settings) : fs.Overrides s (fs.applyTo s) where
  socketPath := overridden_getD fs.socket s.daemon.socketPath
  device := overridden_or fs.port s.daemon.device
  target := overridden_or fs.address s.daemon.target
  logLevel := overridden_getD (fs.verbosity.map levelOf) s.daemon.logLevel
  onStandby := overridden_or fs.onStandby s.actions.onStandby
  onActivate := overridden_or fs.onActivate s.actions.onActivate
  onDeactivate := overridden_or fs.onDeactivate s.actions.onDeactivate
  makeActive := by simp [applyTo]
  osdName := rfl
  sourceTag := rfl

theorem applyTo_applyTo (fs : Flags) (s : Settings) : fs.applyTo (fs.applyTo s) = fs.applyTo s := by
  have once := fs.overrides_applyTo s
  have twice := fs.overrides_applyTo (fs.applyTo s)
  have hmake : (fs.applyTo (fs.applyTo s)).daemon.makeActive = (fs.applyTo s).daemon.makeActive := by
    rw [Bool.eq_iff_iff, twice.makeActive]
    exact ⟨And.left, fun h => ⟨h, (once.makeActive.mp h).2⟩⟩
  generalize fs.applyTo s = c at once twice hmake ⊢
  generalize fs.applyTo c = c' at twice hmake ⊢
  obtain ⟨⟨socketPath, device, makeActive, logLevel, sourceTag, target, osdName⟩, ⟨standby, activate, deactivate⟩⟩ := c'
  obtain rfl := once.socketPath.again twice.socketPath
  obtain rfl := once.device.again twice.device
  obtain rfl := once.target.again twice.target
  obtain rfl := once.logLevel.again twice.logLevel
  obtain rfl := once.onStandby.again twice.onStandby
  obtain rfl := once.onActivate.again twice.onActivate
  obtain rfl := once.onDeactivate.again twice.onDeactivate
  obtain rfl := twice.sourceTag
  obtain rfl := twice.osdName
  obtain rfl := hmake
  rfl

end Flags

/-! ### Ports -/

/-- No address, or one whose port, if it has one, is a port that a device can have. -/
def IsTarget (target : Option HdmiAddress) : Prop := ∀ a ∈ target, ∀ p ∈ a.port?, 1 ≤ p ∧ p ≤ 15

theorem isTarget_none : IsTarget none := nofun

theorem isTarget_of_parse {s : String} {a : HdmiAddress} (h : HdmiAddress.parse s = .ok a) : IsTarget (some a) := by
  intro a' ha' p hp
  obtain rfl := Option.some.inj ha'
  exact HdmiAddress.port_bounds_of_parse h hp

namespace Flags

theorem keeps_isTarget : Keeps fun fs => IsTarget fs.address where
  raise s fs h := by cases s <;> exact h
  assign v value fs fs' hassign h := by
    cases v with
    | port | onStandby | onActivate | onDeactivate =>
      cases hassign
      exact h
    | socket | verbose | config =>
      obtain ⟨_, -, rfl⟩ := except_map_eq_ok.mp hassign
      exact h
    | address =>
      obtain ⟨a, hread, rfl⟩ := except_map_eq_ok.mp hassign
      cases hparse : HdmiAddress.parse value with
      | error e =>
        rw [readAddress, hparse] at hread
        cases hread
      | ok a' =>
        rw [readAddress, hparse] at hread
        cases hread
        exact isTarget_of_parse hparse

theorem isTarget_address {args : List String} {flags : Flags} (taken : parse args = .ok flags) :
    IsTarget flags.address :=
  of_parse keeps_isTarget isTarget_none taken

end Flags

theorem SectionFields.isTarget_of_read? {fs : SectionFields} {position : Nat} {name : String}
    {target : Option HdmiAddress} (h : fs.read? position name addressOfItem? = some target) : IsTarget target := by
  unfold read? at h
  split at h
  · cases h
    exact isTarget_none
  · next item _ =>
    obtain ⟨a, hitem, rfl⟩ := Option.map_eq_some_iff.mp h
    cases item with
    | text s =>
      cases hparse : HdmiAddress.parse s with
      | error e => simp [addressOfItem?, hparse, Except.toOption] at hitem
      | ok a' =>
        simp only [addressOfItem?, hparse, Except.toOption, Option.some.injEq] at hitem
        exact hitem ▸ isTarget_of_parse hparse
    | _ => cases hitem

theorem DaemonSettings.isTarget_of_ofFields? {fs : SectionFields} {s : DaemonSettings} (h : ofFields? fs = some s) :
    IsTarget s.target := by
  unfold ofFields? at h
  split at h
  · next htarget _ =>
    cases h
    exact SectionFields.isTarget_of_read? htarget
  · cases h

namespace Settings

theorem isTarget_of_ofEntries? {es : Entries} {s : Settings} (h : ofEntries? es = some s) : IsTarget s.daemon.target := by
  unfold ofEntries? at h
  split at h
  · next daemon actions hdaemon _ =>
    cases h
    unfold sectionOf? at hdaemon
    split at hdaemon
    · cases hdaemon
      exact isTarget_none
    · obtain ⟨fs, -, hfields⟩ := Option.bind_eq_some_iff.mp hdaemon
      exact DaemonSettings.isTarget_of_ofFields? hfields
  · cases h

theorem isTarget_of_load {path : String} {content : Except OsError String} {s : Settings}
    (accepted : load path content = .ok s) : IsTarget s.daemon.target := by
  rcases eq_default_or_of_load accepted with rfl | ⟨entries, hentries, -⟩
  · exact isTarget_none
  · exact isTarget_of_ofEntries? hentries

end Settings

theorem Flags.isTarget_applyTo {fs : Flags} {s : Settings} (hflags : IsTarget fs.address)
    (hsettings : IsTarget s.daemon.target) : IsTarget (fs.applyTo s).daemon.target := by
  show IsTarget (fs.address.or s.daemon.target)
  generalize fs.address = flag at hflags
  cases flag with
  | none => exact hsettings
  | some a => exact hflags

/-! ### Commands -/

/-- What becomes of a command as it was written: nothing if no one could see a word in it, and the words otherwise. -/
structure IsHookOf (command hook : Option String) : Prop where
  eq_none_iff : hook = none ↔ ∀ text ∈ command, ∀ c ∈ text.toList, isBlank c = true
  trimmed : ∀ words ∈ hook, words ≠ "" ∧ ∃ text ∈ command, IsTrimmed text.toList words.toList

theorem isHookOf_configuredCommand (command : Option String) : IsHookOf command (configuredCommand command) := by
  cases command with
  | none => exact ⟨by simp [configuredCommand], fun words hwords => by cases hwords⟩
  | some text =>
    by_cases hblank : trimChars text.toList = []
    · have hnone : configuredCommand (some text) = none := by simp [configuredCommand, trim, hblank]
      rw [hnone]
      refine ⟨⟨fun _ text' ht => ?_, fun _ => rfl⟩, fun words hwords => by cases hwords⟩
      obtain rfl := Option.some.inj ht
      exact trimChars_eq_nil_iff.mp hblank
    · have hsome : configuredCommand (some text) = some (trim text) := by simp [configuredCommand, trim, hblank]
      rw [hsome]
      refine ⟨⟨fun h => absurd h (Option.some_ne_none _), fun h => ?_⟩, fun words hwords => ?_⟩
      · exact absurd (trimChars_eq_nil_iff.mpr (h text rfl)) hblank
      obtain rfl := Option.some.inj hwords
      refine ⟨fun hempty => hblank ?_, text, rfl, ?_⟩
      · simpa [trim] using congrArg String.toList hempty
      · rw [trim, String.toList_ofList]
        exact isTrimmed_trimChars text.toList

/-! ### Options -/

/-- Options in which nothing has to be looked at again, made from settings `c`. -/
structure Options.Checked (c : Settings) (o : Options) : Prop where
  sourceTag_ne : o.sourceTag ≠ ""
  sourceTag_word : ∀ ch ∈ o.sourceTag.toList, isBlank ch = false ∧ isControl ch = false
  osdName : IsOsdName o.adapter.osdName
  onStandby : IsHookOf c.actions.onStandby o.hooks.onStandby
  onActivate : IsHookOf c.actions.onActivate o.hooks.onActivate
  onDeactivate : IsHookOf c.actions.onDeactivate o.hooks.onDeactivate
  target : IsTarget o.target

theorem Options.checked_ofSettings {c : Settings} (htag : isSourceTag c.daemon.sourceTag = true)
    (htarget : IsTarget c.daemon.target) (hostname : Option String) : (ofSettings hostname c).Checked c where
  sourceTag_ne := (isSourceTag_iff.mp htag).1
  sourceTag_word := (isSourceTag_iff.mp htag).2
  osdName := by
    simp only [ofSettings]
    cases c.daemon.osdName with
    | none => exact isOsdName_defaultOsdName hostname
    | some name => exact isOsdName_clampOsdName name
  onStandby := isHookOf_configuredCommand _
  onActivate := isHookOf_configuredCommand _
  onDeactivate := isHookOf_configuredCommand _
  target := htarget

/-- Whatever file is accepted, or if there is none, and whatever flags are taken: each flag overrides its setting and
    nothing else, to apply them twice is to apply them once, and the options that come of it have been checked. -/
theorem overrides_and_checked_of_load {path : String} {content : Except OsError String} {settings : Settings}
    (accepted : Settings.load path content = .ok settings) {args : List String} {flags : Flags}
    (taken : Flags.parse args = .ok flags) (hostname : Option String) :
    let c := flags.applyTo settings
    flags.Overrides settings c ∧ flags.applyTo c = c ∧ (Options.ofSettings hostname c).Checked c := by
  intro c
  have overrides : flags.Overrides settings c := flags.overrides_applyTo settings
  have htag : isSourceTag c.daemon.sourceTag = true := by
    rw [overrides.sourceTag]
    exact Settings.isSourceTag_of_load accepted
  have htarget : IsTarget c.daemon.target :=
    Flags.isTarget_applyTo (Flags.isTarget_address taken) (Settings.isTarget_of_load accepted)
  exact ⟨overrides, flags.applyTo_applyTo settings, Options.checked_ofSettings htag htarget hostname⟩

/-- The command of the settings is taken back by a blank one, another is tidied, and the name is cut before the letter that
    would not fit. -/
theorem overrides_and_checked_of_load_blankFlag :
    let content := "[daemon]\nsource_tag = \"DEN\"\ntarget_address = \"av.1\"\nosd_name = \"  Wohnzimmer fünf oben \"\n" ++
      "[actions]\non_standby = \" suspend \"\non_activate = \"lamp\"\n"
    let settings : Settings := ⟨{ DaemonSettings.default with
      sourceTag := "DEN", target := some (.audioSystem 1), osdName := some "  Wohnzimmer fünf oben " },
      ⟨some " suspend ", some "lamp", none⟩⟩
    let args := ["-a", "--on-activate", " ", "-t", " TV.03", "-v2", "--socket=/tmp/feed"]
    let flags := { Flags.empty with
      socket := some "/tmp/feed", verbosity := some 2, noActivate := true, address := some (.tv (some 3)),
      onActivate := some " " }
    let c := flags.applyTo settings
    Settings.load "config.toml" (.ok content) = .ok settings ∧ Flags.parse args = .ok flags ∧
    c = ⟨⟨"/tmp/feed", none, false, "trace", "DEN", some (.tv (some 3)), some "  Wohnzimmer fünf oben "⟩,
      ⟨some " suspend ", some " ", none⟩⟩ ∧
    Options.ofSettings none c =
      ⟨"/tmp/feed", ⟨none, "Wohnzimmer fü"⟩, false, some (.tv (some 3)), ⟨some "suspend", none, none⟩, "DEN"⟩ ∧
    flags.applyTo c = c ∧ (Options.ofSettings none c).Checked c := by
  intro content settings args flags c
  have accepted : Settings.load "config.toml" (.ok content) = .ok settings := by decide +kernel
  have taken : Flags.parse args = .ok flags := by decide
  have h := overrides_and_checked_of_load accepted taken none
  exact ⟨accepted, taken, by decide, by decide, h.2⟩

end KeyFeed
