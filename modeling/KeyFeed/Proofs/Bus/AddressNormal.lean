import KeyFeed.Proofs.Bus.AddressGrammar

/-! The text of an address is the normal form of all texts that are read as it. However an address was written, its own
    text is read as the same address again, so two texts mean the same exactly when they have the same normal form. An
    address that was put together by hand comes back too, unless its port is one that no device can have. -/

namespace KeyFeed.Bus
open Text

/-! ### Physical addresses -/

namespace PhysicalAddress

variable {a b : PhysicalAddress}

/-- The four nibbles as numbers, the one for the input of the television in front. -/
def nibbles (a : PhysicalAddress) : List Nat :=
  [a.raw.toNat / 4096, a.raw.toNat / 256 % 16, a.raw.toNat / 16 % 16, a.raw.toNat % 16]

theorem map_toNat_components (a : PhysicalAddress) : a.components.map UInt8.toNat = a.nibbles := by
  have h12 : (a.component 12).toNat = a.raw.toNat / 4096 % 16 := a.toNat_component 12 (by decide)
  have h8 : (a.component 8).toNat = a.raw.toNat / 256 % 16 := a.toNat_component 8 (by decide)
  have h4 : (a.component 4).toNat = a.raw.toNat / 16 % 16 := a.toNat_component 4 (by decide)
  have h0 : (a.component 0).toNat = a.raw.toNat / 1 % 16 := a.toNat_component 0 (by decide)
  have htop : a.raw.toNat / 4096 % 16 = a.raw.toNat / 4096 := Nat.mod_eq_of_lt (by have := a.raw.toNat_lt; omega)
  simp only [components, nibbles, List.map_cons, List.map_nil, h12, h8, h4, h0, htop, Nat.div_one]

/-- The text is the nibbles in decimal, with periods between them. -/
theorem text_eq_intercalate (a : PhysicalAddress) : a.text = String.intercalate "." (a.nibbles.map decimal) := by
  have hchars : a.chars = join ['.'] (a.nibbles.map decimalDigits) := by
    rw [← map_toNat_components, List.map_map]
    rfl
  rw [text, hchars]
  simp only [nibbles, List.map_cons, List.map_nil, join, String.ofList_append, String.intercalate_cons_cons,
    String.intercalate_singleton, decimal]

theorem text_inj (h : a.text = b.text) : a = b := by
  have hchars : a.chars = b.chars := String.ofList_inj.mp h
  have hparse : parse a.chars = .ok b := hchars ▸ b.parse_chars
  rw [a.parse_chars] at hparse
  exact Except.ok.inj hparse

end PhysicalAddress

/-! ### HDMI addresses -/

namespace HdmiAddress

variable {a b : HdmiAddress} {s t : String}

/-- Its port, if it names one, is one that a device can have. -/
def HasValidPort (a : HdmiAddress) : Prop := ∀ p, a.port? = some p → 1 ≤ p ∧ p ≤ 15

theorem parse_text_of_hasValidPort (h : a.HasValidPort) : parse a.text = .ok a := by
  rw [parse_text]
  cases hp : a.port? with
  | none => rfl
  | some p => exact if_pos (portInRange_iff.mpr (h p hp))

theorem parse_text_of_port {p : UInt8} (hp : a.port? = some p) (hno : ¬ (1 ≤ p ∧ p ≤ 15)) :
    parse a.text = .error (.invalidPort (decimal p.toNat)) := by
  rw [parse_text, hp]
  exact if_neg (mt portInRange_iff.mp hno)

theorem parse_text_eq_ok_iff : parse a.text = .ok a ↔ a.HasValidPort := by
  refine ⟨fun h p hp => ?_, parse_text_of_hasValidPort⟩
  by_contra hno
  rw [parse_text_of_port hp hno] at h
  cases h

theorem hasValidPort_of_parse (h : parse s = .ok a) : a.HasValidPort := fun _ hp => port_bounds_of_parse h hp

/-- The text of an address that was read is read as the same address. -/
theorem parse_text_of_parse (h : parse s = .ok a) : parse a.text = .ok a :=
  parse_text_of_hasValidPort (hasValidPort_of_parse h)

theorem text_inj_of_parse (ha : parse s = .ok a) (hb : parse t = .ok b) (h : a.text = b.text) : a = b := by
  have hread : parse a.text = .ok b := h ▸ parse_text_of_parse hb
  rw [parse_text_of_parse ha] at hread
  exact Except.ok.inj hread

/-- Whatever text an address was read from, its own text is read as the same address, and two texts that are read mean
    the same address just when those texts agree. An address that was put together by hand is read back from its text if
    its port is one that a device can have, and otherwise the port is refused as it is printed. A physical address is
    printed as its four nibbles, and they tell it from all others. -/
theorem eq_iff_text_eq_of_parse :
    (∀ s a, parse s = .ok a → parse a.text = .ok a ∧ a.HasValidPort) ∧
    (∀ s t a b, parse s = .ok a → parse t = .ok b → (a = b ↔ a.text = b.text)) ∧
    (∀ a, (parse a.text = .ok a ↔ a.HasValidPort) ∧
      ∀ p, a.port? = some p → ¬ (1 ≤ p ∧ p ≤ 15) →
        parse a.text = .error (.invalidPort (decimal p.toNat))) ∧
    ∀ p : PhysicalAddress, (physical p).text = String.intercalate "." (p.nibbles.map decimal) ∧
      ∀ q : PhysicalAddress, (physical p).text = (physical q).text → p.raw = q.raw := by
  refine ⟨fun s a h => ?_, fun s t a b ha hb => ?_, fun a => ?_, fun p => ?_⟩
  · exact ⟨parse_text_of_parse h, hasValidPort_of_parse h⟩
  · exact ⟨congrArg text, text_inj_of_parse ha hb⟩
  · exact ⟨parse_text_eq_ok_iff, fun p => parse_text_of_port⟩
  · exact ⟨p.text_eq_intercalate, fun q h => congrArg PhysicalAddress.raw (PhysicalAddress.text_inj h)⟩

/-- Two ways to write an input of the audio system, and an input of the television that was put together by hand. -/
theorem eq_iff_text_eq_of_parse_padded :
    parse "\u00a0aV.+015 " = .ok (.audioSystem 15) ∧ parse "av.15" = .ok (.audioSystem 15) ∧
      (audioSystem 15).text = "av.15" ∧ parse (audioSystem 15).text = .ok (.audioSystem 15) ∧
      parse (tv (some 16)).text = .error (.invalidPort "16") := by
  obtain ⟨hread, hsame, hhand, -⟩ := eq_iff_text_eq_of_parse
  have hpadded : parse "\u00a0aV.+015 " = .ok (.audioSystem 15) := by decide
  have hplain : parse "av.15" = .ok (.audioSystem 15) := by decide
  exact ⟨hpadded, hplain, by decide, (hread _ _ hpadded).1, (hhand (tv (some 16))).2 16 rfl (by decide)⟩

end HdmiAddress

end KeyFeed.Bus
