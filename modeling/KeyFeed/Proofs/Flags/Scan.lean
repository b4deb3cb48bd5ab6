import KeyFeed.Flags.Reader

/-! What holds of the flags of a command line. Words change the flags only by raising a switch or by assigning a value
    that was read, so what neither of them breaks holds of all flags that are taken. -/

namespace KeyFeed

theorem except_bind_eq_ok {ε α β : Type} {x : Except ε α} {f : α → Except ε β} {b : β} :
    (x >>= f) = .ok b ↔ ∃ a, x = .ok a ∧ f a = .ok b := by
  cases x with
  | error e => exact ⟨nofun, fun ⟨_, h, _⟩ => nomatch h⟩
  | ok a => exact ⟨fun h => ⟨a, rfl, h⟩, fun ⟨_, h, hf⟩ => Except.ok.inj h ▸ hf⟩

theorem except_map_eq_ok {ε α β : Type} {x : Except ε α} {f : α → β} {b : β} :
    x.map f = .ok b ↔ ∃ a, x = .ok a ∧ f a = b := by
  cases x with
  | error e => exact ⟨nofun, fun ⟨_, h, _⟩ => nomatch h⟩
  | ok a => exact ⟨fun h => ⟨a, rfl, Except.ok.inj h⟩, fun ⟨_, h, hf⟩ => Except.ok.inj h ▸ congrArg Except.ok hf⟩

/-- Nothing that a word does to the flags breaks `P`. -/
structure Flags.Keeps (P : Flags → Prop) : Prop where
  raise : ∀ s fs, P fs → P (fs.raise s)
  assign : ∀ v value fs fs', Flags.assign v value fs = .ok fs' → P fs → P fs'

namespace FlagScan

variable {P : Flags → Prop} {sc sc' : FlagScan}

theorem give_flags {f : Flag} (h : sc.give f = .ok sc') : sc'.flags = sc.flags := by
  unfold give at h
  split at h
  · cases h
  · cases h
    rfl

theorem assign_keeps (keeps : Flags.Keeps P) {v : ValueFlag} {value : String} (h : sc.assign v value = .ok sc')
    (hsc : P sc.flags) : P sc'.flags := by
  obtain ⟨given, hgive, h⟩ := except_bind_eq_ok.mp h
  obtain ⟨flags, hassign, h⟩ := except_bind_eq_ok.mp h
  cases h
  exact keeps.assign v value _ _ hassign (give_flags hgive ▸ hsc)

theorem settle_keeps (keeps : Flags.Keeps P) (h : sc.settle = .ok sc') (hsc : P sc.flags) : P sc'.flags := by
  unfold settle at h
  split at h
  · cases h
    exact hsc
  · cases h
  · exact assign_keeps keeps h hsc

theorem takeBare_keeps (keeps : Flags.Keeps P) {f : Flag} (h : sc.takeBare f = .ok sc') (hsc : P sc.flags) :
    P sc'.flags := by
  obtain ⟨settled, hsettle, h⟩ := except_bind_eq_ok.mp h
  have hsettled : P settled.flags := settle_keeps keeps hsettle hsc
  cases f with
  | help | version => cases h
  | value v =>
    cases h
    exact hsettled
  | switch s =>
    obtain ⟨given, hgive, h⟩ := except_bind_eq_ok.mp h
    cases h
    exact keeps.raise s _ (give_flags hgive ▸ hsettled)

theorem takeAttached_keeps (keeps : Flags.Keeps P) {v : ValueFlag} {value : String}
    (h : sc.takeAttached v value = .ok sc') (hsc : P sc.flags) : P sc'.flags := by
  obtain ⟨settled, hsettle, h⟩ := except_bind_eq_ok.mp h
  exact assign_keeps keeps h (settle_keeps keeps hsettle hsc)

theorem takeLong_keeps (keeps : Flags.Keeps P) {body : List Char} (h : sc.takeLong body = .ok sc') (hsc : P sc.flags) :
    P sc'.flags := by
  unfold takeLong at h
  split at h
  split at h
  · cases h
  · exact takeBare_keeps keeps h hsc
  · exact takeAttached_keeps keeps h hsc
  · cases h

/-- By induction on the letters: each takes the scan a step further, or takes the rest of them as its value. -/
theorem takeShort_keeps (keeps : Flags.Keeps P) {letters : List Char} (h : sc.takeShort letters = .ok sc')
    (hsc : P sc.flags) : P sc'.flags := by
  induction letters generalizing sc with
  | nil =>
    cases h
    exact hsc
  | cons c rest ih =>
    unfold takeShort at h
    split at h
    · cases h
    · split at h
      · exact takeBare_keeps keeps h hsc
      · exact takeAttached_keeps keeps h hsc
      · exact takeAttached_keeps keeps h hsc
    · obtain ⟨taken, htake, h⟩ := except_bind_eq_ok.mp h
      exact ih h (takeBare_keeps keeps htake hsc)

theorem takeWord_flags {word : String} (h : sc.takeWord word = .ok sc') : sc'.flags = sc.flags := by
  unfold takeWord at h
  split at h
  · cases h
    rfl
  · cases h

theorem take_keeps (keeps : Flags.Keeps P) {arg : String} (h : sc.take arg = .ok sc') (hsc : P sc.flags) :
    P sc'.flags := by
  unfold take at h
  split at h
  · exact takeLong_keeps keeps h hsc
  · exact takeShort_keeps keeps h hsc
  · exact takeWord_flags h ▸ hsc

theorem takeAll_keeps (keeps : Flags.Keeps P) {args : List String} (h : sc.takeAll args = .ok sc') (hsc : P sc.flags) :
    P sc'.flags := by
  induction args generalizing sc with
  | nil => exact settle_keeps keeps h hsc
  | cons arg args ih =>
    unfold takeAll at h
    split at h
    · exact settle_keeps keeps h hsc
    · exact settle_keeps keeps h hsc
    · cases h
    · next heq =>
      cases heq
      obtain ⟨taken, htake, h⟩ := except_bind_eq_ok.mp h
      exact ih h (take_keeps keeps htake hsc)

end FlagScan

/-- What holds of an empty command line and is kept by every word holds of all flags that are taken. -/
theorem Flags.of_parse {P : Flags → Prop} (keeps : Flags.Keeps P) (hempty : P .empty) {args : List String}
    {flags : Flags} (h : Flags.parse args = .ok flags) : P flags := by
  obtain ⟨sc, hscan, rfl⟩ := except_map_eq_ok.mp h
  exact FlagScan.takeAll_keeps keeps hscan hempty

end KeyFeed
