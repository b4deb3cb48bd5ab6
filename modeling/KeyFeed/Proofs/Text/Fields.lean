import KeyFeed.Text.Fields

/-! Words that are put together with a separator and cut again. A separator that stands in none of the words cuts
    them as they were; `pieces` cuts behind a closing character and keeps it. -/

namespace KeyFeed.Text

variable {sep : Char} {w : List Char}

theorem fields_of_notMem (h : sep ∉ w) : fields sep w = [w] := by
  induction w with
  | nil => rfl
  | cons c w ih =>
    have hc : c ≠ sep := fun hc => h (hc ▸ List.mem_cons_self)
    simp [fields, hc, ih fun hw => h (List.mem_cons_of_mem c hw)]

theorem fields_append_cons (h : sep ∉ w) (rest : List Char) : fields sep (w ++ sep :: rest) = w :: fields sep rest := by
  induction w with
  | nil => simp [fields]
  | cons c w ih =>
    have hc : c ≠ sep := fun hc => h (hc ▸ List.mem_cons_self)
    simp [fields, hc, ih fun hw => h (List.mem_cons_of_mem c hw)]

/-- The last of four words is what is left behind three separators. -/
theorem fields_four {a b c d : List Char} (ha : sep ∉ a) (hb : sep ∉ b) (hc : sep ∉ c) (hd : sep ∉ d) :
    fields sep (a ++ sep :: (b ++ sep :: (c ++ sep :: d))) = [a, b, c, d] := by
  rw [fields_append_cons ha, fields_append_cons hb, fields_append_cons hc, fields_of_notMem hd]

theorem join_cons (sep : List Char) (w : List Char) (ws : List (List Char)) :
    join sep (w :: ws) = w ++ ws.flatMap fun v => sep ++ v := by
  induction ws generalizing w with
  | nil => simp [join]
  | cons v ws ih => simp [join, ih]

theorem fields_join {ws : List (List Char)} (hne : ws ≠ []) (h : ∀ w ∈ ws, sep ∉ w) :
    fields sep (join [sep] ws) = ws := by
  induction ws with
  | nil => exact absurd rfl hne
  | cons w ws ih =>
    have hw := h w List.mem_cons_self
    cases ws with
    | nil => exact fields_of_notMem hw
    | cons w' ws =>
      rw [join, List.append_assoc, List.singleton_append, fields_append_cons hw,
        ih (List.cons_ne_nil _ _) fun v hv => h v (List.mem_cons_of_mem w hv)]
      simp

theorem cut?_append_cons (h : sep ∉ w) (rest : List Char) : cut? sep (w ++ sep :: rest) = some (w, rest) := by
  induction w with
  | nil => simp [cut?]
  | cons c w ih =>
    have hc : c ≠ sep := fun hc => h (hc ▸ List.mem_cons_self)
    simp [cut?, hc, ih fun hw => h (List.mem_cons_of_mem c hw)]

theorem sep_notMem_of_mem_fields {cs : List Char} (h : w ∈ fields sep cs) : sep ∉ w := by
  induction cs generalizing w with
  | nil => simp_all [fields]
  | cons c cs ih =>
    unfold fields at h
    split at h
    · rcases List.mem_cons.mp h with rfl | h
      · exact List.not_mem_nil
      · exact ih h
    · next hc =>
      cases hf : fields sep cs with
      | nil => exact absurd hf (fields_ne_nil sep cs)
      | cons v ws =>
        rw [hf] at h
        rcases List.mem_cons.mp h with rfl | h
        · have hv := ih (hf ▸ List.mem_cons_self)
          exact fun hmem => (List.mem_cons.mp hmem).elim (fun heq => hc heq.symm) hv
        · exact ih (hf ▸ List.mem_cons_of_mem v h)

/-- The words of a text between its separators. -/
structure IsSplit (sep : Char) (cs : List Char) (ws : List (List Char)) : Prop where
  nonempty : ws ≠ []
  notMem : ∀ w ∈ ws, sep ∉ w
  join_eq : join [sep] ws = cs

theorem fields_eq_iff {cs : List Char} {ws : List (List Char)} : fields sep cs = ws ↔ IsSplit sep cs ws := by
  constructor
  · rintro rfl
    exact ⟨fields_ne_nil sep cs, fun _ hw => sep_notMem_of_mem_fields hw, join_fields sep cs⟩
  · rintro ⟨hne, hmem, rfl⟩
    exact fields_join hne hmem

theorem cut?_eq_none_iff {cs : List Char} : cut? sep cs = none ↔ sep ∉ cs := by
  induction cs with
  | nil => simp [cut?]
  | cons c cs ih =>
    by_cases hc : c = sep
    · simp [cut?, hc]
    · simp [cut?, hc, ih, Ne.symm hc]

theorem eq_append_of_cut? {cs before after : List Char} (h : cut? sep cs = some (before, after)) :
    sep ∉ before ∧ cs = before ++ sep :: after := by
  induction cs generalizing before with
  | nil => cases h
  | cons c cs ih =>
    unfold cut? at h
    split at h
    · next hc =>
      cases h
      exact ⟨List.not_mem_nil, by rw [hc]; rfl⟩
    · next hc =>
      obtain ⟨⟨a, b⟩, hcut, heq⟩ := Option.map_eq_some_iff.mp h
      cases heq
      obtain ⟨hmem, rfl⟩ := ih hcut
      exact ⟨fun hm => (List.mem_cons.mp hm).elim (fun heq => hc heq.symm) hmem, rfl⟩

theorem dropLast?_concat (c : Char) (cs : List Char) : dropLast? c (cs ++ [c]) = some cs := by
  simp [dropLast?]

theorem eq_concat_of_dropLast? {c : Char} {cs body : List Char} (h : dropLast? c cs = some body) :
    cs = body ++ [c] := by
  unfold dropLast? at h
  split at h
  · next hlast =>
    obtain ⟨ds, rfl⟩ := List.getLast?_eq_some_iff.mp hlast
    cases h
    rw [List.dropLast_concat]
  · cases h

theorem dropLast?_eq_none_iff {c : Char} {cs : List Char} : dropLast? c cs = none ↔ cs.getLast? ≠ some c := by
  simp [dropLast?]

/-- A text cut behind every closing character; what stands behind the last of them is a piece of its own. -/
def pieces (close : Char) : List Char → List (List Char)
  | [] => []
  | c :: cs =>
    if c = close then [c] :: pieces close cs
    else match pieces close cs with
      | [] => [[c]]
      | w :: ws => (c :: w) :: ws

theorem pieces_append {close : Char} (h : close ∉ w) (rest : List Char) :
    pieces close (w ++ close :: rest) = (w ++ [close]) :: pieces close rest := by
  induction w with
  | nil => simp [pieces]
  | cons c w ih =>
    have hc : c ≠ close := fun hc => h (hc ▸ List.mem_cons_self)
    simp [pieces, hc, ih fun hw => h (List.mem_cons_of_mem c hw)]

/-- Texts that each end in their only closing character are the pieces of what they make up together. -/
theorem pieces_flatten {close : Char} {lines : List (List Char)}
    (h : ∀ l ∈ lines, ∃ w, l = w ++ [close] ∧ close ∉ w) : pieces close lines.flatten = lines := by
  induction lines with
  | nil => rfl
  | cons l lines ih =>
    obtain ⟨w, rfl, hw⟩ := h l List.mem_cons_self
    rw [List.flatten_cons, List.append_assoc, List.singleton_append, pieces_append hw,
      ih fun l hl => h l (List.mem_cons_of_mem _ hl)]

end KeyFeed.Text
