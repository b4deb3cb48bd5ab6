/-! Cutting text at a separator. `fields` gives back every piece, empty ones included, so joining the pieces
    with the separator gives the text again; `cut?` stops at the first separator. -/

namespace KeyFeed.Text

/-- The pieces between the separators: one more than there are separators. -/
def fields (sep : Char) : List Char → List (List Char)
  | [] => [[]]
  | c :: cs =>
    if c = sep then [] :: fields sep cs
    else match fields sep cs with
      | [] => [[c]]
      | w :: ws => (c :: w) :: ws

/-- What stands before and after the first separator, if there is one. -/
def cut? (sep : Char) : List Char → Option (List Char × List Char)
  | [] => none
  | c :: cs => if c = sep then some ([], cs) else (cut? sep cs).map fun (a, b) => (c :: a, b)

/-- The text before a closing character, if the text ends in it. -/
def dropLast? (c : Char) (cs : List Char) : Option (List Char) :=
  if cs.getLast? = some c then some cs.dropLast else none

def join (sep : List Char) : List (List Char) → List Char
  | [] => []
  | [w] => w
  | w :: ws => w ++ sep ++ join sep ws

theorem fields_ne_nil (sep : Char) (cs : List Char) : fields sep cs ≠ [] := by
  induction cs with
  | nil => simp [fields]
  | cons c cs ih =>
    unfold fields
    split
    · simp
    · split <;> simp_all

theorem length_fields (sep : Char) (cs : List Char) : (fields sep cs).length = cs.count sep + 1 := by
  induction cs with
  | nil => rfl
  | cons c cs ih =>
    unfold fields
    by_cases h : c = sep
    · simp [h, ih]
    · rw [if_neg h, List.count_cons_of_ne h, ← ih]
      split
      · next hn => exact absurd hn (fields_ne_nil sep cs)
      · next hw => simp [hw]

theorem join_fields (sep : Char) (cs : List Char) : join [sep] (fields sep cs) = cs := by
  induction cs with
  | nil => rfl
  | cons c cs ih =>
    unfold fields
    by_cases h : c = sep
    · rw [if_pos h]
      cases hf : fields sep cs with
      | nil => exact absurd hf (fields_ne_nil sep cs)
      | cons w ws => rw [hf] at ih; simp [join, ih, h]
    · rw [if_neg h]
      cases hf : fields sep cs with
      | nil => exact absurd hf (fields_ne_nil sep cs)
      | cons w ws =>
        rw [hf] at ih
        cases ws <;> simp_all [join]

end KeyFeed.Text
