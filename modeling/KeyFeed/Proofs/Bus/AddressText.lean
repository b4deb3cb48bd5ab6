import KeyFeed.Bus.Address
import KeyFeed.Proofs.Text.Digits
import KeyFeed.Proofs.Text.Fields

/-! Addresses are read back from their text. The four nibbles of a physical address make it up again; an HDMI address
    comes back unless its port is one that no device can have. -/

namespace KeyFeed.Bus
open Text

/-! ### Characters of addresses -/

theorem trimChars_of_notBlank {cs : List Char} (h : ∀ c ∈ cs, isBlank c = false) : trimChars cs = cs := by
  have hdrop : ∀ ds : List Char, (∀ c ∈ ds, isBlank c = false) → ds.dropWhile isBlank = ds := fun ds hds => by
    cases ds with
    | nil => rfl
    | cons c ds => simp [hds c List.mem_cons_self]
  rw [trimChars, trimRight, hdrop cs h, hdrop cs.reverse fun c hc => h c (List.mem_reverse.mp hc), List.reverse_reverse]

/-- The characters of addresses. -/
def isAddressChar (c : Char) : Bool := isAsciiDigit c || c == '.' || c == 't' || c == 'v' || c == 'a'

theorem isBlank_of_isAddressChar {c : Char} (h : isAddressChar c = true) : isBlank c = false := by
  simp only [isAddressChar, Bool.or_eq_true, beq_iff_eq] at h
  rcases h with (((h | rfl) | rfl) | rfl) | rfl
  · simp only [isAsciiDigit, Bool.and_eq_true, decide_eq_true_eq, Char.le_def, UInt32.le_iff_toNat_le] at h
    have hn : 48 ≤ c.toNat ∧ c.toNat ≤ 57 := h
    simp [isBlank]
    omega
  all_goals decide

theorem isAsciiDigit_of_mem_decimalDigits {n : Nat} {c : Char} (h : c ∈ decimalDigits n) : isAsciiDigit c = true := by
  have hall : ∀ d < 10, isAsciiDigit d.digitChar = true := by decide
  obtain ⟨d, hd, rfl⟩ := eq_digitChar_of_mem_toDigits (by decide) h
  exact hall d hd

theorem period_notMem_decimalDigits (n : Nat) : '.' ∉ decimalDigits n :=
  notMem_toDigits (by decide) (by decide) (by decide) n

/-! ### Physical addresses -/

namespace PhysicalAddress

theorem toNat_component (p : PhysicalAddress) (shift : UInt16) (hs : shift.toNat < 16) :
    (p.component shift).toNat = p.raw.toNat / Nat.pow 2 shift.toNat % 16 := by
  have hand : ∀ n : Nat, n &&& 15 = n % 16 := fun n => Nat.and_two_pow_sub_one_eq_mod n 4
  simp only [component, UInt16.toNat_toUInt8, UInt16.toNat_and, UInt16.toNat_shiftRight, Nat.mod_eq_of_lt hs,
    Nat.shiftRight_eq_div_pow]
  rw [show (0xF : UInt16).toNat = 15 from rfl, hand]
  exact Nat.mod_eq_of_lt (Nat.lt_trans (Nat.mod_lt _ (by decide)) (by decide))

/-- One more component behind others that leave room for it. -/
theorem toNat_shift_or (acc : UInt16) (hacc : acc.toNat < 4096) {d : UInt8} (hd : d.toNat < 16) :
    (acc <<< 4 ||| (d &&& 0x0F).toUInt16).toNat = 16 * acc.toNat + d.toNat := by
  have hand : d.toNat &&& 15 = d.toNat := by
    rw [Nat.and_two_pow_sub_one_eq_mod _ 4]
    omega
  simp only [UInt16.toNat_or, UInt16.toNat_shiftLeft, UInt8.toNat_toUInt16, UInt8.toNat_and]
  rw [show (0x0F : UInt8).toNat = 15 from rfl, hand, show (4 : UInt16).toNat % 16 = 4 from rfl, Nat.shiftLeft_eq,
    Nat.mod_eq_of_lt (by omega), ← Nat.shiftLeft_eq, ← Nat.shiftLeft_add_eq_or_of_lt (by omega), Nat.shiftLeft_eq]
  omega

theorem toNat_ofComponents {a b c d : UInt8} (ha : a.toNat < 16) (hb : b.toNat < 16) (hc : c.toNat < 16)
    (hd : d.toNat < 16) :
    (ofComponents a b c d).raw.toNat = 4096 * a.toNat + 256 * b.toNat + 16 * c.toNat + d.toNat := by
  have h1 := toNat_shift_or 0 (by decide) ha
  have h2 := toNat_shift_or _ (by rw [h1, UInt16.toNat_zero]; omega) hb
  have h3 := toNat_shift_or _ (by rw [h2, h1, UInt16.toNat_zero]; omega) hc
  have h4 := toNat_shift_or _ (by rw [h3, h2, h1, UInt16.toNat_zero]; omega) hd
  simp only [ofComponents, List.foldl_cons, List.foldl_nil]
  rw [h4, h3, h2, h1, UInt16.toNat_zero]
  omega

theorem ofComponents_component (p : PhysicalAddress) :
    ofComponents (p.component 12) (p.component 8) (p.component 4) (p.component 0) = p := by
  have ha : (p.component 12).toNat = p.raw.toNat / 4096 % 16 := p.toNat_component 12 (by decide)
  have hb : (p.component 8).toNat = p.raw.toNat / 256 % 16 := p.toNat_component 8 (by decide)
  have hc : (p.component 4).toNat = p.raw.toNat / 16 % 16 := p.toNat_component 4 (by decide)
  have hd : (p.component 0).toNat = p.raw.toNat / 1 % 16 := p.toNat_component 0 (by decide)
  have hraw := p.raw.toNat_lt
  obtain ⟨raw⟩ := p
  refine congrArg PhysicalAddress.mk (UInt16.toNat_inj.mp ?_)
  show (ofComponents _ _ _ _).raw.toNat = raw.toNat
  rw [toNat_ofComponents (by omega) (by omega) (by omega) (by omega), ha, hb, hc, hd]
  simp only at hraw ⊢
  omega

theorem component_lt {p : PhysicalAddress} {b : UInt8} (h : b ∈ p.components) : b.toNat < 16 := by
  simp only [components, List.mem_cons, List.not_mem_nil, or_false] at h
  rcases h with rfl | rfl | rfl | rfl
  all_goals
    rw [toNat_component _ _ (by decide)]
    exact Nat.mod_lt _ (by decide)

theorem readComponent?_decimalDigits {b : UInt8} (h : b.toNat < 16) : readComponent? (decimalDigits b.toNat) = some b := by
  rw [readComponent?, decimalDigits, readUnsigned?_toDigits (by decide) (by decide), if_pos (by omega)]
  simp

theorem readComponents_map {bs : List UInt8} (h : ∀ b ∈ bs, b.toNat < 16) {room : Nat} (hroom : bs.length ≤ room) :
    readComponents room (bs.map fun b => decimalDigits b.toNat) = .ok bs := by
  induction bs generalizing room with
  | nil => simp [readComponents]
  | cons b bs ih =>
    obtain ⟨room, rfl⟩ : ∃ more, room = more + 1 := ⟨room - 1, by simp at hroom; omega⟩
    rw [List.map_cons, readComponents, readComponent?_decimalDigits (h b List.mem_cons_self)]
    simp only
    rw [ih (fun b' hb => h b' (List.mem_cons_of_mem b hb)) (Nat.le_of_succ_le_succ hroom)]
    rfl

theorem fields_chars (p : PhysicalAddress) :
    fields '.' p.chars = p.components.map fun b => decimalDigits b.toNat := by
  refine fields_join (by simp [components]) fun w hw => ?_
  obtain ⟨b, -, rfl⟩ := List.mem_map.mp hw
  exact period_notMem_decimalDigits b.toNat

/-- The first component stands in front, and the others behind periods. -/
theorem exists_chars_eq (p : PhysicalAddress) : ∃ rest, p.chars = decimalDigits (p.component 12).toNat ++ '.' :: rest :=
  ⟨join ['.'] ([p.component 8, p.component 4, p.component 0].map fun b => decimalDigits b.toNat), by
    simp [chars, components, join]⟩

theorem parse_chars (p : PhysicalAddress) : parse p.chars = .ok p := by
  have hne : p.chars.isEmpty = false := by
    obtain ⟨rest, h⟩ := p.exists_chars_eq
    simp [h]
  rw [parse, hne, fields_chars, readComponents_map (fun b hb => component_lt hb) (Nat.le_refl 4)]
  exact congrArg Except.ok p.ofComponents_component

theorem isAddressChar_of_mem_chars {p : PhysicalAddress} {c : Char} (h : c ∈ p.chars) : isAddressChar c = true := by
  have hdigit : ∀ n, c ∈ decimalDigits n → isAddressChar c = true := fun n hn => by
    simp [isAddressChar, isAsciiDigit_of_mem_decimalDigits hn]
  simp only [chars, components, List.map_cons, List.map_nil, join, List.mem_append, List.mem_singleton] at h
  rcases h with ((h | rfl) | (h | rfl) | (h | rfl) | h)
  all_goals first | exact hdigit _ h | decide

end PhysicalAddress

/-! ### HDMI addresses -/

namespace HdmiAddress

theorem readPort_decimalDigits (p : UInt8) : readPort (decimalDigits p.toNat) =
    if portInRange p then .ok p else .error (.invalidPort (decimal p.toNat)) := by
  have hle : p.toNat ≤ 255 := Nat.le_of_lt_succ p.toNat_lt
  rw [readPort, decimalDigits, readUnsigned?_toDigits (by decide) (by decide), if_pos hle]
  simp [decimal, decimalDigits]

theorem isAddressChar_of_mem_chars {a : HdmiAddress} {c : Char} (h : c ∈ a.chars) : isAddressChar c = true := by
  have hdigit : ∀ n, c ∈ decimalDigits n → isAddressChar c = true := fun n hn => by
    simp [isAddressChar, isAsciiDigit_of_mem_decimalDigits hn]
  match a with
  | .physical p => exact PhysicalAddress.isAddressChar_of_mem_chars h
  | .tv none =>
    simp only [chars, List.mem_cons, List.not_mem_nil, or_false] at h
    rcases h with rfl | rfl <;> decide
  | .tv (some p) | .audioSystem p =>
    simp only [chars, List.mem_cons] at h
    rcases h with rfl | rfl | rfl | h
    · decide
    · decide
    · decide
    · exact hdigit _ h

theorem trimChars_chars (a : HdmiAddress) : trimChars a.chars = a.chars :=
  trimChars_of_notBlank fun _ hc => isBlank_of_isAddressChar (isAddressChar_of_mem_chars hc)

/-- An address is read back from its text, unless its port is one that no device can have. -/
theorem parse_text (a : HdmiAddress) : parse a.text = match a.port? with
    | none => .ok a
    | some p => if portInRange p then .ok a else .error (.invalidPort (decimal p.toNat)) := by
  rw [parse, text, String.toList_ofList, parseChars, trimChars_chars]
  match a with
  | .tv none => rfl
  | .tv (some p) =>
    simp only [chars, port?]
    rw [if_neg (by decide), show ∀ cs, cut? '.' ('t' :: 'v' :: '.' :: cs) = some (['t', 'v'], cs) from
      fun cs => cut?_append_cons (w := ['t', 'v']) (by decide) cs]
    show (readPort (decimalDigits p.toNat)).map _ = _
    rw [readPort_decimalDigits]
    split <;> rfl
  | .audioSystem p =>
    simp only [chars, port?]
    rw [if_neg (by decide), show ∀ cs, cut? '.' ('a' :: 'v' :: '.' :: cs) = some (['a', 'v'], cs) from
      fun cs => cut?_append_cons (w := ['a', 'v']) (by decide) cs]
    show (readPort (decimalDigits p.toNat)).map _ = _
    rw [readPort_decimalDigits]
    split <;> rfl
  | .physical p =>
    have hparse := p.parse_chars
    obtain ⟨rest, hchars⟩ := p.exists_chars_eq
    simp only [chars, port?]
    cases hd : decimalDigits (p.component 12).toNat with
    | nil => exact absurd hd Nat.toDigits_ne_nil
    | cons c ds =>
      have hc : isAsciiDigit c = true := isAsciiDigit_of_mem_decimalDigits (hd ▸ List.mem_cons_self)
      rw [hchars, hd] at hparse ⊢
      simp only [List.cons_append] at hparse ⊢
      rw [if_pos hc, hparse]
      rfl

end HdmiAddress

end KeyFeed.Bus
