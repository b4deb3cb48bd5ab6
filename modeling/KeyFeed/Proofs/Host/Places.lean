import KeyFeed.Host.Files

/-! Where a path leads depends on nothing but what is at the places on the way there. So a path that leads to a place
    leads there still when something is put there or taken away, as long as neither the one nor the other leads on. What
    is made at a path is therefore shown at that path, and what is taken away there is not shown there any more. -/

namespace KeyFeed.Host

namespace Files

/-- What is at a place. -/
def content? (fs : Files) (place : Place) : Option Content := (fs.entry? place).map Entry.content

/-- Nothing, or something that leads nowhere else: neither a directory nor a link. -/
def IsEnd (content : Option Content) : Prop := content ≠ some .directory ∧ ∀ target, content ≠ some (.link target)

section
variable {fs fs' : Files} {place p dir : Place} {names : List String} {name : String} {links : Nat} {follow : Bool}

theorem walk_none (hchild : childPlace dir name = .ok p) (h : fs.content? p = none) :
    fs.walk follow links dir (name :: names) = if names.isEmpty then .ok p else .error .noEntry := by
  have hentry : fs.entry? p = none := Option.map_eq_none_iff.mp h
  simp only [walk, hchild, hentry]

theorem walk_link {target : String} (hchild : childPlace dir name = .ok p) (h : fs.content? p = some (.link target))
    (hon : (names.isEmpty && !follow) = false) : fs.walk follow (links + 1) dir (name :: names) =
      fs.walk follow links (if isAbsolute target then [] else dir) (pathNames target ++ names) := by
  obtain ⟨e, hentry, hcontent⟩ := Option.map_eq_some_iff.mp h
  rw [walk, hchild]
  simp [hentry, hcontent, hon]

theorem walk_some {c : Content} (hchild : childPlace dir name = .ok p) (h : fs.content? p = some c)
    (hlink : ∀ target, c ≠ .link target) (hon : names.isEmpty = true ∨ c = .directory) :
    fs.walk follow links dir (name :: names) = fs.walk follow links p names := by
  obtain ⟨e, hentry, hcontent⟩ := Option.map_eq_some_iff.mp h
  have hdirectory : (names.isEmpty || e.isDirectory) = true := by
    simpa [Entry.isDirectory, hcontent] using hon
  rw [walk, hchild]
  simp only [hentry]
  split
  · next target htarget => exact absurd (hcontent.symm.trans htarget) (hlink target)
  · rw [if_pos hdirectory]

/-- Two trees that differ in nothing but what is at one place, which leads nowhere else in either of them. -/
structure AlikeBut (place : Place) (fs fs' : Files) : Prop where
  elsewhere : ∀ p, p ≠ place → fs'.content? p = fs.content? p
  before : IsEnd (fs.content? place)
  after : IsEnd (fs'.content? place)
  workplace : fs'.workplace = fs.workplace

/-- What leads to the place leads there in the other tree too, whether a link at its end is gone through or not. -/
theorem AlikeBut.walk (h : AlikeBut place fs fs') (hwalk : fs.walk false links dir names = .ok place) :
    fs'.walk follow links dir names = .ok place := by
  -- What a walk ends at is there in either tree, if it leads nowhere else.
  have hlast {dir : Place} {name : String} {links : Nat} (hchild : childPlace dir name = .ok place) :
      fs'.walk follow links dir [name] = .ok place := by
    cases hc : fs'.content? place with
    | none => rw [walk_none hchild hc, List.isEmpty_nil, if_pos rfl]
    | some c =>
      have hlink : ∀ target, c ≠ .link target := fun target heq => h.after.2 target (hc.trans (congrArg some heq))
      rw [walk_some hchild hc hlink (Or.inl rfl), Files.walk]
  fun_induction fs.walk false links dir names with
  | case1 links dir =>
    rw [Files.walk]
    exact hwalk
  | case3 links dir name names p hchild hentry hnames =>
    cases hwalk
    rw [List.isEmpty_iff.mp hnames]
    exact hlast hchild
  | case5 links dir name names p hchild e hentry target hcontent hnames =>
    cases hwalk
    have hp : fs.content? place = some (.link target) := by simp [content?, hentry, hcontent]
    exact absurd hp (h.before.2 target)
  | case7 dir name names p hchild e hentry target hcontent hnames links ih =>
    have hp : fs.content? p = some (.link target) := by simp [content?, hentry, hcontent]
    have hne : p ≠ place := fun heq => h.before.2 target (heq ▸ hp)
    have hon : (names.isEmpty && !follow) = false := by
      have hnonempty : names.isEmpty = false := by simpa using hnames
      rw [hnonempty, Bool.false_and]
    rw [walk_link hchild ((h.elsewhere p hne).trans hp) hon]
    exact ih hwalk
  | case8 links dir name names p hchild e hentry hon hlink ih =>
    have hp : fs.content? p = some e.content := by simp [content?, hentry]
    have hon : names.isEmpty = true ∨ e.content = .directory := by simpa [Entry.isDirectory] using hon
    by_cases hplace : p = place
    · subst hplace
      have hnames : names.isEmpty = true := hon.resolve_right fun hd => h.before.1 (hd ▸ hp)
      rw [List.isEmpty_iff.mp hnames]
      exact hlast hchild
    · rw [walk_some hchild ((h.elsewhere p hplace).trans hp) hlink hon]
      exact ih hwalk
  | case2 | case4 | case6 | case9 => cases hwalk

end

/-! ### Changes at one place -/

section
variable {fs : Files} {place p : Place}

theorem find?_filter_ne (entries : List (Place × Entry)) (h : p ≠ place) :
    (entries.filter (·.1 != place)).find? (·.1 == p) = entries.find? (·.1 == p) := by
  rw [List.find?_filter]
  refine congrArg (entries.find? ·) (funext fun e => ?_)
  by_cases he : e.1 = p
  · simp [he, h]
  · simp [he]

theorem add_entry_ne (content : Content) (mode : Nat) (h : p ≠ place) :
    entry? (fs.add place content mode) p = fs.entry? p := by
  have hlast : ([(place, fs.fresh content mode)] : List (Place × Entry)).find? (·.1 == p) = none := by
    simp [Ne.symm h]
  simp only [add, put, entry?, List.find?_append, find?_filter_ne fs.entries h, hlast, Option.or_none]

theorem add_entry_self (content : Content) (mode : Nat) (h : place ≠ []) :
    entry? (fs.add place content mode) place = some (fs.fresh content mode) := by
  have hothers : (fs.entries.filter (·.1 != place)).find? (·.1 == place) = none := by simp
  simp [add, put, entry?, List.find?_append, hothers, h]

theorem remove_entry_ne (h : p ≠ place) : entry? (fs.remove place) p = fs.entry? p := by
  simp only [remove, entry?, find?_filter_ne fs.entries h]

theorem remove_entry_self (h : place ≠ []) : entry? (fs.remove place) place = none := by
  simp [remove, entry?, h]

/-- A change that leaves contents alone leaves alone what is at any place. -/
theorem content?_change (node : Nat) {f : Entry → Entry} (hf : ∀ e, (f e).content = e.content) :
    (fs.change node f).content? p = fs.content? p := by
  have hchanged (e : Entry) : (if e.node = node then f e else e).content = e.content := by
    split
    · exact hf e
    · rfl
  simp only [content?, entry?]
  split
  · rfl
  · simp only [change, List.find?_map, Option.map_map]
    exact congrArg (Option.map · _) (funext fun e => hchanged e.2)

theorem ne_nil_of_no_entry (h : fs.entry? place = none) : place ≠ [] := by
  rintro rfl
  cases h

end

/-! ### Paths -/

/-- The path ends in a name, and not in a step up. -/
def endsInName (path : String) : Bool := (pathNames path).getLastD "" != "." && (pathNames path).getLastD "" != ".."

/-- A path that can be asked for, that is neither the root nor empty, and that need not mean a directory. -/
structure IsPlain (path : String) : Prop where
  nul : holdsNul path = false
  short : ¬ pathLimit ≤ path.utf8ByteSize
  names : pathNames path ≠ []
  slash : endsInSlash path = false

section
variable {fs fs' : Files} {place : Place} {path : String} {follow : Bool}

/-- Where relative paths start, or the root for others. -/
def start (fs : Files) (path : String) : Place := if isAbsolute path then [] else fs.workplace

theorem resolve_of_isPlain (h : IsPlain path) : fs.resolve follow path =
    (fs.walk follow maxLinks (fs.start path) (pathNames path)).map fun place => ⟨place, endsInName path, false⟩ := by
  have hnul : ¬ holdsNul path = true := Bool.eq_false_iff.mp h.nul
  rw [resolve, if_neg hnul, if_neg h.short]
  simp only [h.slash, Bool.or_false]
  split
  · next hnames => exact absurd hnames h.names
  · rfl

theorem isPlain_of_resolve {t : Target} (h : fs.resolve follow path = .ok t) (hslash : t.slashed = false) :
    IsPlain path := by
  unfold resolve at h
  by_cases hnul : holdsNul path = true
  · rw [if_pos hnul] at h
    cases h
  by_cases hshort : pathLimit ≤ path.utf8ByteSize
  · rw [if_neg hnul, if_pos hshort] at h
    cases h
  rw [if_neg hnul, if_neg hshort] at h
  cases hnames : pathNames path with
  | nil =>
    simp only [hnames] at h
    by_cases hempty : path.isEmpty = true
    · rw [if_pos hempty] at h
      cases h
    · rw [if_neg hempty] at h
      cases h
      cases hslash
  | cons name names =>
    simp only [hnames] at h
    refine ⟨Bool.eq_false_iff.mpr hnul, hshort, by simp [hnames], ?_⟩
    generalize fs.walk _ _ _ _ = walked at h
    cases walked with
    | error e => cases h
    | ok place =>
      cases h
      exact hslash

/-- What a path leads to that need not mean a directory. -/
theorem walk_of_locate {t : Target} (h : fs.locate path = .ok t) (hslash : t.slashed = false) :
    fs.walk false maxLinks (fs.start path) (pathNames path) = .ok t.place ∧ t = ⟨t.place, endsInName path, false⟩ := by
  rw [locate, resolve_of_isPlain (isPlain_of_resolve h hslash)] at h
  cases hwalk : fs.walk false maxLinks (fs.start path) (pathNames path) with
  | error e =>
    rw [hwalk] at h
    cases h
  | ok place =>
    rw [hwalk] at h
    cases h
    exact ⟨rfl, rfl⟩

/-- A path that leads to the place leads there in the other tree too. -/
theorem AlikeBut.resolve {t : Target} (h : AlikeBut t.place fs fs') (ht : fs.locate path = .ok t)
    (hslash : t.slashed = false) : fs'.resolve follow path = .ok t := by
  obtain ⟨hwalk, htarget⟩ := walk_of_locate ht hslash
  have hstart : fs'.start path = fs.start path := by rw [start, h.workplace, start]
  rw [resolve_of_isPlain (isPlain_of_resolve ht hslash), hstart, h.walk hwalk, htarget]
  rfl

/-! ### Taking away and making -/

/-- What a path shows, if it shows anything; whether a link at its end is gone through, is told. -/
def shown (follow : Bool) (fs : Files) (path : String) : Option Content :=
  (fs.entryAt follow path).toOption.map Entry.content

theorem contains_eq_isSome_shown : fs.contains path = (fs.shown true path).isSome := by
  rw [contains, shown, stat]
  cases fs.entryAt true path <;> rfl

theorem shown_of_resolve {t : Target} (h : fs.resolve follow path = .ok t) (hslash : t.slashed = false) :
    fs.shown follow path = fs.content? t.place := by
  rw [shown, entryAt, h, content?]
  cases hentry : fs.entry? t.place with
  | none => simp only [hentry, Except.toOption, Option.map_none]
  | some e => simp [hentry, hslash, Except.toOption]

theorem locate_of_shown {content : Content} (h : fs.shown false path = some content) (hc : content ≠ .directory) :
    ∃ t e, fs.locate path = .ok t ∧ t.slashed = false ∧ fs.entry? t.place = some e ∧ e.content = content := by
  obtain ⟨e, he, rfl⟩ := Option.map_eq_some_iff.mp h
  have hdirectory : e.isDirectory = false := by simpa [Entry.isDirectory] using hc
  cases ht : fs.resolve false path with
  | error cause => simp [entryAt, ht, Except.toOption] at he
  | ok t =>
    cases hentry : fs.entry? t.place with
    | none => simp [entryAt, ht, hentry, Except.toOption] at he
    | some found =>
      cases hslashed : t.slashed && !found.isDirectory with
      | true => simp [entryAt, ht, hentry, hslashed, Except.toOption] at he
      | false =>
        obtain rfl : found = e := by simpa [entryAt, ht, hentry, hslashed, Except.toOption] using he
        exact ⟨t, found, ht, by simpa [hdirectory] using hslashed, hentry, rfl⟩

/-- What a path shows, and what leads nowhere else, can be taken away by a name. Then the path shows nothing. -/
theorem unlink_of_shown {content : Content} (h : fs.shown false path = some content) (hend : IsEnd (some content))
    (hname : endsInName path = true) :
    ∃ fs', fs.unlink path = .ok fs' ∧ ∀ follow, fs'.shown follow path = none := by
  obtain ⟨t, e, ht, hslash, hentry, rfl⟩ := locate_of_shown h fun hc => hend.1 (congrArg some hc)
  have hdirectory : e.isDirectory = false := by simpa [Entry.isDirectory] using hend.1
  have hnamed : t.named = true := by rw [(walk_of_locate ht hslash).2, hname]
  have hplace : t.place ≠ [] := by
    intro hroot
    rw [hroot] at hentry
    cases hentry
    cases hdirectory
  have hgone : (fs.remove t.place).content? t.place = none := congrArg _ (remove_entry_self hplace)
  have halike : AlikeBut t.place fs (fs.remove t.place) := {
    elsewhere := fun p hp => congrArg (Option.map Entry.content) (remove_entry_ne hp)
    before := by simpa [content?, hentry] using hend
    after := by simp [hgone, IsEnd]
    workplace := rfl }
  exact ⟨fs.remove t.place, by simp [unlink, ht, hnamed, hentry, hdirectory, hslash],
    fun follow => (shown_of_resolve (halike.resolve ht hslash) hslash).trans hgone⟩

theorem makeAt_eq_ok {content : Content} {mode : Nat} {taken : OsError}
    (h : fs.makeAt path content mode taken = .ok fs') : ∃ t, fs.locate path = .ok t ∧ t.named = true ∧
      t.slashed = false ∧ fs.entry? t.place = none ∧ fs' = fs.add t.place content mode := by
  rw [makeAt] at h
  cases ht : fs.locate path with
  | error e =>
    rw [ht] at h
    cases h
  | ok t =>
    cases hnamed : t.named with
    | false => simp [ht, hnamed] at h
    | true =>
      cases hentry : fs.entry? t.place with
      | some e => simp [ht, hnamed, hentry] at h
      | none =>
        cases hslash : t.slashed with
        | true => simp [ht, hnamed, hentry, hslash] at h
        | false =>
          simp only [ht, hnamed, hentry, hslash] at h
          cases h
          exact ⟨t, rfl, hnamed, hslash, hentry, rfl⟩

theorem setMode_eq_ok {mode : Nat} (h : fs.setMode path mode = .ok fs') :
    ∃ e, fs.stat path = .ok e ∧ fs' = fs.change e.node fun e => { e with mode := mode } := by
  rw [setMode] at h
  cases hstat : fs.stat path with
  | error cause =>
    rw [hstat] at h
    cases h
  | ok e =>
    rw [hstat] at h
    cases h
    exact ⟨e, rfl, rfl⟩

/-- What is made at a path, and leads nowhere else, is shown whatever its mode is set to, and the path ends in a
    name. -/
theorem shown_makeAt_setMode {made : Files} {content : Content} {bits mode : Nat} {taken : OsError}
    (hmade : fs.makeAt path content bits taken = .ok made) (hmode : made.setMode path mode = .ok fs')
    (hend : IsEnd (some content)) : endsInName path = true ∧ ∀ follow, fs'.shown follow path = some content := by
  obtain ⟨t, ht, hnamed, hslash, hentry, rfl⟩ := makeAt_eq_ok hmade
  obtain ⟨changed, -, rfl⟩ := setMode_eq_ok hmode
  let moded (e : Entry) : Entry := { e with mode := mode }
  have hcontents (p : Place) : ((fs.add t.place content bits).change changed.node moded).content? p =
      (fs.add t.place content bits).content? p := content?_change changed.node fun _ => rfl
  have hthere := (hcontents t.place).trans
    (congrArg (Option.map Entry.content) (add_entry_self content bits (ne_nil_of_no_entry hentry)))
  have halike : AlikeBut t.place fs _ := {
    elsewhere := fun p hp => (hcontents p).trans (congrArg (Option.map Entry.content) (add_entry_ne content bits hp))
    before := by simp [content?, hentry, IsEnd]
    after := hthere ▸ hend
    workplace := rfl }
  refine ⟨by rw [← hnamed, (walk_of_locate ht hslash).2], fun follow => ?_⟩
  exact (shown_of_resolve (halike.resolve ht hslash) hslash).trans hthere

end

end Files

end KeyFeed.Host
