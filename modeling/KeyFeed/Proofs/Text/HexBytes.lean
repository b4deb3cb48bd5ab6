import KeyFeed.Proofs.Text.Numerals

/-! Bytes as two digits in base sixteen. A digit is taken only as it is printed, so a byte is read from one text alone, and
    a list of bytes from the list of their texts. -/

namespace KeyFeed.Text

/-- The value of a digit that is written as it is printed. -/
def printedDigit? (c : Char) : Option Nat := (digitValue? 16 c).filter fun d => d.digitChar = c

def byteChars (b : UInt8) : List Char := padded 2 (hexDigits b.toNat)

def readByte? : List Char → Option UInt8
  | [high, low] => (printedDigit? high).bind fun h => (printedDigit? low).map fun l => UInt8.ofNat (16 * h + l)
  | _ => none

variable {c : Char} {d : Nat} {w : List Char} {b : UInt8}

theorem printedDigit?_eq_some_iff : printedDigit? c = some d ↔ d < 16 ∧ c = d.digitChar := by
  constructor
  · intro h
    obtain ⟨hvalue, hprinted⟩ := Option.filter_eq_some_iff.mp h
    have hdigit := (digitValue?_eq_some_iff (Nat.le_refl 16)).mp hvalue
    exact ⟨hdigit.1, (of_decide_eq_true hprinted).symm⟩
  · rintro ⟨hd, rfl⟩
    exact Option.filter_eq_some_iff.mpr ⟨digitValue?_digitChar (Nat.le_refl 16) hd, by simp⟩

theorem hexDigits_of_lt (hd : d < 16) : hexDigits d = [d.digitChar] := by
  rw [hexDigits, Nat.toDigits_eq_if (by decide), if_pos hd]

theorem byteChars_eq (b : UInt8) : byteChars b = [(b.toNat / 16).digitChar, (b.toNat % 16).digitChar] := by
  have hb := b.toNat_lt
  by_cases hlow : b.toNat < 16
  · rw [byteChars, hexDigits_of_lt hlow, Nat.div_eq_of_lt hlow, Nat.mod_eq_of_lt hlow]
    rfl
  · have hhigh : Nat.toDigits 16 (b.toNat / 16) = [(b.toNat / 16).digitChar] := hexDigits_of_lt (by omega)
    rw [byteChars, hexDigits, Nat.toDigits_eq_if (by decide), if_neg hlow, hhigh]
    rfl

theorem colon_notMem_hexDigits (n : Nat) : ':' ∉ hexDigits n :=
  notMem_toDigits (by decide) (Nat.le_refl 16) (by decide) n

theorem colon_notMem_byteChars (b : UInt8) : ':' ∉ byteChars b := by
  intro h
  rcases List.mem_append.mp h with h | h
  · cases List.eq_of_mem_replicate h
  · exact colon_notMem_hexDigits b.toNat h

/-- A byte is read from the two digits that are printed for it and from nothing else. -/
theorem readByte?_eq_some_iff : readByte? w = some b ↔ w = byteChars b := by
  constructor
  · intro h
    unfold readByte? at h
    split at h
    · next high low =>
      obtain ⟨m, hm, h⟩ := Option.bind_eq_some_iff.mp h
      obtain ⟨n, hn, rfl⟩ := Option.map_eq_some_iff.mp h
      obtain ⟨hm, rfl⟩ := printedDigit?_eq_some_iff.mp hm
      obtain ⟨hn, rfl⟩ := printedDigit?_eq_some_iff.mp hn
      have hvalue : (UInt8.ofNat (16 * m + n)).toNat = 16 * m + n := UInt8.toNat_ofNat_of_lt' (by
        show 16 * m + n < 256
        omega)
      have hdiv : (16 * m + n) / 16 = m := by omega
      have hmod : (16 * m + n) % 16 = n := by omega
      rw [byteChars_eq, hvalue, hdiv, hmod]
    · cases h
  · rintro rfl
    have hb := b.toNat_lt
    have hhigh : printedDigit? (b.toNat / 16).digitChar = some (b.toNat / 16) :=
      printedDigit?_eq_some_iff.mpr ⟨by omega, rfl⟩
    have hlow : printedDigit? (b.toNat % 16).digitChar = some (b.toNat % 16) :=
      printedDigit?_eq_some_iff.mpr ⟨by omega, rfl⟩
    rw [byteChars_eq, readByte?, hhigh, hlow, Option.bind_some, Option.map_some, Nat.div_add_mod, UInt8.ofNat_toNat]

/-- A reader that takes exactly what is printed does so for a whole list. -/
theorem mapM_eq_some_iff {α β : Type} {read : α → Option β} {print : β → α}
    (h : ∀ a b, read a = some b ↔ a = print b) (as : List α) (bs : List β) :
    as.mapM read = some bs ↔ as = bs.map print := by
  induction as generalizing bs with
  | nil => simp [eq_comm]
  | cons a as ih =>
    simp only [List.mapM_cons, Option.bind_eq_bind, Option.bind_eq_some_iff, Option.pure_def, Option.some.injEq, h, ih]
    constructor
    · rintro ⟨b, rfl, bs, rfl, rfl⟩
      rfl
    · intro heq
      cases bs with
      | nil => cases heq
      | cons b bs =>
        obtain ⟨rfl, rfl⟩ := List.cons.inj heq
        exact ⟨b, rfl, bs, rfl, rfl⟩

end KeyFeed.Text
