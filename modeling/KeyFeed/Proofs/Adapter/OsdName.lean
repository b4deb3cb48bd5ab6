import KeyFeed.Adapter.OsdName
import KeyFeed.Proofs.Text.Trimming

/-! The name that the television shows. A name that is too long for the bus is cut to its longest beginning that fits, in
    whole characters; as a character takes at most four bytes, there are eleven bytes of it left. The white space around a
    name is taken off before the cut and not behind it: a name that is cut behind white space ends in white space, and only
    clamping it again takes that off. -/

namespace KeyFeed.Adapter
open Text

/-! ### Beginnings of a text -/

/-- `t` is the longest beginning of `s` that fits into `room` bytes. -/
structure IsLongestPrefix (room : Nat) (s t : String) : Prop where
  isPrefix : t.toList <+: s.toList
  fits : t.utf8ByteSize ≤ room
  longest : ∀ u : String, u.toList <+: s.toList → u.utf8ByteSize ≤ room → u.toList <+: t.toList

variable {room : Nat} {s t : String}

theorem exists_append_of_begins (h : t.toList <+: s.toList) : ∃ rest, s = t ++ rest := by
  obtain ⟨rest, hrest⟩ := h
  refine ⟨String.ofList rest, String.toList_inj.mp ?_⟩
  rw [String.toList_append, String.toList_ofList, hrest]

theorem utf8ByteSize_mono (h : t.toList <+: s.toList) : t.utf8ByteSize ≤ s.utf8ByteSize := by
  obtain ⟨rest, rfl⟩ := exists_append_of_begins h
  rw [String.utf8ByteSize_append]
  exact Nat.le_add_right _ _

/-- A beginning with as many bytes is the whole. -/
theorem eq_of_begins (h : t.toList <+: s.toList) (hsize : s.utf8ByteSize ≤ t.utf8ByteSize) : t = s := by
  obtain ⟨rest, rfl⟩ := exists_append_of_begins h
  rw [String.utf8ByteSize_append] at hsize
  have hrest : rest = "" := String.utf8ByteSize_eq_zero_iff.mp (by omega)
  rw [hrest, String.append_empty]

namespace IsLongestPrefix

theorem unique {u : String} (h : IsLongestPrefix room s t) (h' : IsLongestPrefix room s u) : t = u :=
  eq_of_begins (h'.longest t h.isPrefix h.fits) (utf8ByteSize_mono (h.longest u h'.isPrefix h'.fits))

theorem eq_self (h : IsLongestPrefix room s t) (hs : s.utf8ByteSize ≤ room) : t = s :=
  eq_of_begins h.isPrefix (utf8ByteSize_mono (h.longest s List.prefix_rfl hs))

/-- A text is cut before the character that does not fit any more. -/
theorem exists_next (h : IsLongestPrefix room s t) (hcut : t ≠ s) :
    ∃ c rest, s.toList = t.toList ++ c :: rest ∧ room < t.utf8ByteSize + c.utf8Size := by
  obtain ⟨rest, hrest⟩ := h.isPrefix
  cases rest with
  | nil =>
    rw [List.append_nil] at hrest
    exact absurd (String.toList_inj.mp hrest) hcut
  | cons c rest =>
    refine ⟨c, rest, hrest.symm, Nat.lt_of_not_le fun hfits => ?_⟩
    have hsize : (t ++ String.singleton c).utf8ByteSize = t.utf8ByteSize + c.utf8Size := by
      rw [String.utf8ByteSize_append, String.utf8ByteSize_singleton]
    have hbegins : (t ++ String.singleton c).toList <+: s.toList := ⟨rest, by simp [← hrest]⟩
    have hle := utf8ByteSize_mono (h.longest _ hbegins (by omega))
    have := c.utf8Size_pos
    omega

theorem of_next {c : Char} {rest : List Char} (hs : s.toList = t.toList ++ c :: rest) (hfits : t.utf8ByteSize ≤ room)
    (hnext : room < t.utf8ByteSize + c.utf8Size) : IsLongestPrefix room s t where
  isPrefix := ⟨c :: rest, hs.symm⟩
  fits := hfits
  longest u hu husize := by
    have hbegins : (t ++ String.singleton c).toList <+: s.toList := ⟨rest, by simp [hs]⟩
    have hsize : (t ++ String.singleton c).utf8ByteSize = t.utf8ByteSize + c.utf8Size := by
      rw [String.utf8ByteSize_append, String.utf8ByteSize_singleton]
    have hno : ¬ (t ++ String.singleton c).toList <+: u.toList := fun h => by
      have := utf8ByteSize_mono h
      omega
    have hle : u.toList <+: (t ++ String.singleton c).toList :=
      (List.prefix_or_prefix_of_prefix hu hbegins).resolve_right hno
    rw [String.toList_append, String.toList_singleton, List.prefix_concat_iff] at hle
    exact hle.resolve_left fun heq => hno (by simp [heq])

/-- Where the next character does not fit there are three bytes of room at most. -/
theorem room_lt (h : IsLongestPrefix room s t) (hcut : t ≠ s) : room < t.utf8ByteSize + 4 := by
  obtain ⟨c, -, -, hnext⟩ := h.exists_next hcut
  have := c.utf8Size_le_four
  omega

/-- With room for any character something is left of a text. -/
theorem ne_empty (h : IsLongestPrefix room s t) (hroom : 4 ≤ room) (hs : s ≠ "") : t ≠ "" := by
  rintro rfl
  have := h.room_lt hs.symm
  simp at this
  omega

end IsLongestPrefix

/-! ### The cut -/

theorem isValid_iff {n : Nat} :
    String.Pos.Raw.isValid s ⟨n⟩ = true ↔ ∃ t rest, s = t ++ rest ∧ n = t.utf8ByteSize := by
  rw [String.Pos.Raw.isValid_eq_true_iff, String.Pos.Raw.isValid_iff_exists_append]
  simp [String.Pos.Raw.ext_iff]

theorem firstBytes?_append (t rest : String) : firstBytes? (t ++ rest) t.utf8ByteSize = some t := by
  rw [firstBytes?, dif_pos (isValid_iff.mpr ⟨t, rest, rfl, rfl⟩), Option.some_inj, ← String.toByteArray_inj]
  simp only [String.extract, String.toByteArray_append]
  exact ByteArray.extract_append_eq_left String.size_toByteArray.symm

/-- The search does not leave the text at its front, and where it ends the text can be cut: behind the longest beginning
    that fits. -/
theorem cut?_eq_some (room : Nat) (s : String) : ∃ t, cut? room s = some t ∧ IsLongestPrefix room s t := by
  obtain ⟨m, hm, hfound, hvalid, hlast⟩ := exists_boundaryUpTo? s (min s.utf8ByteSize room)
  obtain ⟨t, rest, hs, rfl⟩ := isValid_iff.mp hvalid
  have hcut : cut? room s = some t := by
    rw [cut?, hfound, Option.bind_some, hs, firstBytes?_append]
  have hbegins : t.toList <+: s.toList := ⟨rest.toList, by simp [hs]⟩
  refine ⟨t, hcut, hbegins, by omega, fun u hu husize => ?_⟩
  obtain ⟨rest', hs'⟩ := exists_append_of_begins hu
  have hle : u.utf8ByteSize ≤ t.utf8ByteSize :=
    hlast _ (Nat.le_min.mpr ⟨utf8ByteSize_mono hu, husize⟩) (isValid_iff.mpr ⟨u, rest', hs', rfl⟩)
  rcases List.prefix_or_prefix_of_prefix hu hbegins with h | h
  · exact h
  · obtain rfl := eq_of_begins h hle
    exact List.prefix_rfl

/-! ### The name -/

theorem clampOsdName_eq_of_some (h : clampOsdName? s = some t) : clampOsdName s = t := by
  simp [clampOsdName, h]

/-- The name is the fallback, or the longest beginning that fits of the name that was given, trimmed. -/
theorem clampOsdName?_cases (s : String) :
    (trim s = "" ∧ clampOsdName? s = some fallbackOsdName) ∨
      (trim s ≠ "" ∧ ∃ name, clampOsdName? s = some name ∧ IsLongestPrefix maxOsdNameBytes (trim s) name) := by
  obtain ⟨name, hcut, hname⟩ := cut?_eq_some maxOsdNameBytes (trim s)
  by_cases hempty : trim s = ""
  · exact Or.inl ⟨hempty, by simp [clampOsdName?, hempty]⟩
  · refine Or.inr ⟨hempty, name, ?_, hname⟩
    simp [clampOsdName?, hempty, hcut]

theorem clampOsdName_of_fits (hne : trim s ≠ "") (hfits : (trim s).utf8ByteSize ≤ maxOsdNameBytes) :
    clampOsdName s = trim s := by
  rcases clampOsdName?_cases s with ⟨hempty, -⟩ | ⟨-, name, hname, hlongest⟩
  · exact absurd hempty hne
  · rw [clampOsdName_eq_of_some hname, hlongest.eq_self hfits]

/-- A name that the bus carries. -/
structure IsOsdName (s : String) : Prop where
  nonempty : s ≠ ""
  fits : s.utf8ByteSize ≤ 14

theorem isOsdName_fallback : IsOsdName fallbackOsdName := ⟨by decide, by decide⟩

theorem isOsdName_clampOsdName (s : String) : IsOsdName (clampOsdName s) := by
  rcases clampOsdName?_cases s with ⟨-, hname⟩ | ⟨hne, name, hname, hlongest⟩
  · rw [clampOsdName_eq_of_some hname]
    exact isOsdName_fallback
  · rw [clampOsdName_eq_of_some hname]
    exact ⟨hlongest.ne_empty (by decide) hne, hlongest.fits⟩

theorem isOsdName_defaultOsdName (hostname : Option String) : IsOsdName (defaultOsdName hostname) := by
  cases hostname with
  | none => exact isOsdName_fallback
  | some name => exact isOsdName_clampOsdName name

theorem trim_eq_empty_iff : trim s = "" ↔ isBlankText s = true := by
  rw [trim, String.ofList_eq_empty_iff, trimChars_eq_nil_iff, isBlankText, List.all_eq_true]

/-- Every name is clamped: the search for the place of the cut stays within the text, and the text is cut between two
    characters. -/
theorem isLongestPrefix_clampOsdName (s : String) :
    ∃ name, clampOsdName? s = some name ∧ clampOsdName s = name ∧ name ≠ "" ∧
      if isBlankText s then name = "RaspberryPI"
      else ∃ trimmed : String, IsTrimmed s.toList trimmed.toList ∧ IsLongestPrefix 14 trimmed name ∧
        (trimmed.utf8ByteSize ≤ 14 ↔ name = trimmed) ∧ (name = trimmed ∨ 11 ≤ name.utf8ByteSize) := by
  rcases clampOsdName?_cases s with ⟨hempty, hname⟩ | ⟨hne, name, hname, hlongest⟩
  · refine ⟨fallbackOsdName, hname, clampOsdName_eq_of_some hname, isOsdName_fallback.nonempty, ?_⟩
    rw [if_pos (trim_eq_empty_iff.mp hempty)]
    rfl
  · refine ⟨name, hname, clampOsdName_eq_of_some hname, hlongest.ne_empty (by decide) hne, ?_⟩
    rw [if_neg fun hblank => hne (trim_eq_empty_iff.mpr hblank)]
    have htrimmed : IsTrimmed s.toList (trim s).toList := by
      rw [trim, String.toList_ofList]
      exact isTrimmed_trimChars s.toList
    refine ⟨trim s, htrimmed, hlongest, ⟨hlongest.eq_self, fun h => h ▸ hlongest.fits⟩, ?_⟩
    by_cases hcut : name = trim s
    · exact Or.inl hcut
    · have hroom : 14 < name.utf8ByteSize + 4 := hlongest.room_lt hcut
      exact Or.inr (by omega)

/-! ### White space at the cut -/

/-- A text that is clean in front has white space at its end, or none to take off. -/
theorem trim_eq_self_iff (hfirst : ∀ c, s.toList.head? = some c → isBlank c = false) :
    trim s = s ↔ ∀ c, s.toList.getLast? = some c → isBlank c = false := by
  have hsame : trim s = s ↔ trimChars s.toList = s.toList := by
    rw [trim, ← String.toList_inj, String.toList_ofList]
  rw [hsame, trimChars_eq_iff]
  exact ⟨IsTrimmed.last, fun hlast => ⟨⟨[], [], by simp, by simp, by simp⟩, hfirst, hlast⟩⟩

theorem trim_trim (s : String) : trim (trim s) = trim s := by
  have h := isTrimmed_trimChars s.toList
  rw [trim_eq_self_iff]
  · simpa [trim] using h.last
  · simpa [trim] using h.first

/-- White space never stands in front of a name. -/
theorem head?_clampOsdName (s : String) {c : Char} (hc : (clampOsdName s).toList.head? = some c) : isBlank c = false := by
  rcases clampOsdName?_cases s with ⟨-, hname⟩ | ⟨hne, name, hname, hlongest⟩
  · rw [clampOsdName_eq_of_some hname] at hc
    obtain rfl : 'R' = c := by simpa [fallbackOsdName] using hc
    decide
  · rw [clampOsdName_eq_of_some hname] at hc
    obtain ⟨rest, hrest⟩ := hlongest.isPrefix
    refine (isTrimmed_trimChars s.toList).first c ?_
    rw [trim, String.toList_ofList] at hrest
    rw [← hrest, List.head?_append, hc]
    rfl

/-- Trimming leaves a text that is clean in front the same there. -/
theorem trim_begins (hfirst : ∀ c, s.toList.head? = some c → isBlank c = false) : (trim s).toList <+: s.toList := by
  obtain ⟨before, after, hs, hbefore, -⟩ := (isTrimmed_trimChars s.toList).around
  have hnone : before = [] := by
    cases before with
    | nil => rfl
    | cons c before =>
      have hblank := hbefore c List.mem_cons_self
      rw [hfirst c (by rw [hs]; rfl)] at hblank
      cases hblank
  rw [hnone, List.nil_append] at hs
  rw [trim, String.toList_ofList]
  exact ⟨after, hs.symm⟩

/-- A name fits, so clamping it again only trims it. -/
theorem clampOsdName_eq_trim (s : String) : clampOsdName (clampOsdName s) = trim (clampOsdName s) := by
  have hname := isOsdName_clampOsdName s
  have hfirst : ∀ c, (clampOsdName s).toList.head? = some c → isBlank c = false := fun c => head?_clampOsdName s
  refine clampOsdName_of_fits (fun hempty => ?_) ?_
  · have hblank := List.all_eq_true.mp (trim_eq_empty_iff.mp hempty)
    cases hcs : (clampOsdName s).toList with
    | nil => exact hname.nonempty (by simpa using hcs)
    | cons c cs =>
      have hc := hblank c (by rw [hcs]; exact List.mem_cons_self)
      rw [hfirst c (by rw [hcs]; rfl)] at hc
      cases hc
  · exact Nat.le_trans (utf8ByteSize_mono (trim_begins hfirst)) hname.fits

/-- A name is cut behind white space: `next` is the first character that does not fit. -/
def CutBehindBlank (s : String) : Prop :=
  ∃ kept b next rest, IsTrimmed s.toList (kept ++ b :: next :: rest) ∧ isBlank b = true ∧
    (String.ofList (kept ++ [b])).utf8ByteSize ≤ 14 ∧
    14 < (String.ofList (kept ++ [b])).utf8ByteSize + next.utf8Size

theorem cutBehindBlank_iff (s : String) :
    CutBehindBlank s ↔ ∃ b, (clampOsdName s).toList.getLast? = some b ∧ isBlank b = true := by
  constructor
  · rintro ⟨kept, b, next, rest, htrimmed, hblank, hfits, hnext⟩
    have htrim : (trim s).toList = (String.ofList (kept ++ [b])).toList ++ next :: rest := by
      rw [trim, String.toList_ofList, htrimmed.trimChars_eq]
      simp
    have hcut : IsLongestPrefix maxOsdNameBytes (trim s) (String.ofList (kept ++ [b])) := .of_next htrim hfits hnext
    rcases clampOsdName?_cases s with ⟨hempty, -⟩ | ⟨-, name, hname, hlongest⟩
    · simp [hempty] at htrim
    · rw [clampOsdName_eq_of_some hname, hlongest.unique hcut]
      exact ⟨b, by simp, hblank⟩
  · rintro ⟨b, hlast, hblank⟩
    rcases clampOsdName?_cases s with ⟨-, hname⟩ | ⟨-, name, hname, hlongest⟩
    · rw [clampOsdName_eq_of_some hname] at hlast
      obtain rfl : 'I' = b := by simpa [fallbackOsdName] using hlast
      cases hblank
    · rw [clampOsdName_eq_of_some hname] at hlast
      have htrimmed := isTrimmed_trimChars s.toList
      have hcut : name ≠ trim s := by
        rintro rfl
        rw [trim, String.toList_ofList] at hlast
        rw [htrimmed.last b hlast] at hblank
        cases hblank
      obtain ⟨next, rest, hrest, hnext⟩ := hlongest.exists_next hcut
      obtain ⟨kept, hkept⟩ := List.getLast?_eq_some_iff.mp hlast
      have hsame : String.ofList (kept ++ [b]) = name := by rw [← hkept, String.ofList_toList]
      refine ⟨kept, b, next, rest, ?_, hblank, hsame ▸ hlongest.fits, hsame ▸ hnext⟩
      rw [trim, String.toList_ofList] at hrest
      rw [show kept ++ b :: next :: rest = name.toList ++ next :: rest by simp [hkept], ← hrest]
      exact htrimmed

/-- No name has white space in front. It has white space at its end just when it was cut behind some; to clamp it again takes
    that off, and every further time changes nothing. -/
theorem clampOsdName_clampOsdName (s : String) :
    let name := clampOsdName s
    (∀ c, name.toList.head? = some c → isBlank c = false) ∧
    (CutBehindBlank s ↔ ∃ b, name.toList.getLast? = some b ∧ isBlank b = true) ∧
    (CutBehindBlank s ↔ clampOsdName name ≠ name) ∧
    clampOsdName name = trim name ∧ clampOsdName (clampOsdName name) = clampOsdName name := by
  intro name
  have hfirst : ∀ c, name.toList.head? = some c → isBlank c = false := fun c => head?_clampOsdName s
  have hagain : clampOsdName name = trim name := clampOsdName_eq_trim s
  refine ⟨hfirst, cutBehindBlank_iff s, ?_, hagain, ?_⟩
  · rw [hagain, Ne, trim_eq_self_iff hfirst, cutBehindBlank_iff]
    simp [name]
  · rw [clampOsdName_eq_trim name, hagain, trim_trim]

/-- Thirteen letters and a blank are as much as fits: the blank stays, and clamping again takes it off. -/
theorem clampOsdName_ends_blank :
    let name := clampOsdName "aaaaaaaaaaaaa b"
    name = "aaaaaaaaaaaaa " ∧ (∃ c ∈ name.toList.getLast?, isBlank c = true) ∧ clampOsdName name ≠ name := by
  have hname : clampOsdName "aaaaaaaaaaaaa b" = "aaaaaaaaaaaaa " := by decide +kernel
  have hagain : clampOsdName "aaaaaaaaaaaaa " = "aaaaaaaaaaaaa" := by decide +kernel
  intro name
  rw [show name = "aaaaaaaaaaaaa " from hname, hagain]
  exact ⟨rfl, ⟨' ', by simp, by decide⟩, by decide⟩

end KeyFeed.Adapter
