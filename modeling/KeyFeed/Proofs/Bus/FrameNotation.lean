import KeyFeed.Bus.Frame
import KeyFeed.Proofs.Text.Fields
import KeyFeed.Proofs.Text.HexBytes

/-! Frames read back from traces. The notation cuts into words at the colons: the two addresses, then the opcode and every
    operand as a byte of two digits. An address that names a role is one digit, so the reader of the notation takes exactly
    the texts of the frames that can be told from their text: those between two roles whose opcode goes by its name where
    it has one. The operands can be read back whatever stands in front of them. -/

namespace KeyFeed.Bus
open Text

/-! ### Addresses and opcodes -/

namespace LogicalAddress

/-- The role that one digit stands for. -/
def read? (c : Char) : Option LogicalAddress := (printedDigit? c).map fun d => ofByte (UInt8.ofNat d)

variable {a : LogicalAddress} {c : Char}

theorem toNat_toByte_lt (h : a ≠ .unknown) : a.toByte.toNat < 16 := by
  cases a with
  | unknown => exact absurd rfl h
  | _ => decide

/-- Every digit stands for a role, and a role is printed as the digit that stands for it. -/
theorem read?_eq_some_iff : read? c = some a ↔ a ≠ .unknown ∧ hexDigits a.toByte.toNat = [c] := by
  constructor
  · intro h
    obtain ⟨d, hd, rfl⟩ := Option.map_eq_some_iff.mp h
    obtain ⟨hlt, rfl⟩ := printedDigit?_eq_some_iff.mp hd
    have hall : ∀ d < 16, ofByte (UInt8.ofNat d) ≠ .unknown ∧
        hexDigits (ofByte (UInt8.ofNat d)).toByte.toNat = [d.digitChar] := by decide
    exact hall d hlt
  · rintro ⟨hne, hc⟩
    have hlt := toNat_toByte_lt hne
    rw [hexDigits_of_lt hlt] at hc
    have hread : printedDigit? c = some a.toByte.toNat :=
      printedDigit?_eq_some_iff.mpr ⟨hlt, (List.singleton_inj.mp hc).symm⟩
    rw [read?, hread, Option.map_some, UInt8.ofNat_toNat, ofByte_toByte]

end LogicalAddress

theorem Opcode.ofByte_toByte_of_named {op : Opcode} (h : ∃ b, op = .ofByte b) : .ofByte op.toByte = op := by
  obtain ⟨b, rfl⟩ := h
  rw [toByte_ofByte]

/-! ### Frames -/

namespace Frame

variable {f : Frame} {s : String}

/-- A frame between two roles, with an opcode as it comes from its byte. -/
structure IsRegular (f : Frame) : Prop where
  initiator : f.initiator ≠ .unknown
  destination : f.destination ≠ .unknown
  opcode : ∃ b, f.opcode = .ofByte b

/-- The frame that a text of the notation stands for. -/
def read? (s : String) : Option Frame :=
  match fields ':' s.toList with
  | [initiator, destination] :: opcode :: operands => do
    some ⟨← LogicalAddress.read? initiator, ← LogicalAddress.read? destination, .ofByte (← readByte? opcode),
      ← operands.mapM readByte?⟩
  | _ => none

/-- The operands alone: all that stands behind the second colon. -/
def operands? (s : String) : Option (List UInt8) := ((fields ':' s.toList).drop 2).mapM readByte?

def words (f : Frame) : List (List Char) :=
  (hexDigits f.initiator.toByte.toNat ++ hexDigits f.destination.toByte.toNat)
    :: byteChars f.opcode.toByte :: f.operands.map byteChars

theorem join_words (f : Frame) : join [':'] f.words = f.chars := by
  rw [words, join_cons, chars, List.flatMap_cons, List.flatMap_cons, List.flatMap_map]
  rfl

theorem colon_notMem_of_mem_words {w : List Char} (h : w ∈ f.words) : ':' ∉ w := by
  rcases List.mem_cons.mp h with rfl | h
  · exact List.not_mem_append (colon_notMem_hexDigits _) (colon_notMem_hexDigits _)
  · rw [← List.map_cons (f := byteChars)] at h
    obtain ⟨b, -, rfl⟩ := List.mem_map.mp h
    exact colon_notMem_byteChars b

theorem fields_text (f : Frame) : fields ':' f.text.toList = f.words := by
  rw [text, String.toList_ofList, ← join_words]
  exact fields_join (List.cons_ne_nil _ _) fun _ => colon_notMem_of_mem_words

/-- The reader takes the texts of regular frames and no others, and gives the frame that was written. -/
theorem read?_eq_some_iff : read? s = some f ↔ f.IsRegular ∧ f.text = s := by
  constructor
  · intro h
    unfold read? at h
    split at h
    · next initiator destination opcode operands hfields =>
      simp only [Option.bind_eq_bind, Option.bind_eq_some_iff] at h
      obtain ⟨a, ha, a', ha', b, hb, bs, hbs, h⟩ := h
      obtain rfl := Option.some.inj h
      obtain ⟨hne, ha⟩ := LogicalAddress.read?_eq_some_iff.mp ha
      obtain ⟨hne', ha'⟩ := LogicalAddress.read?_eq_some_iff.mp ha'
      obtain rfl := readByte?_eq_some_iff.mp hb
      obtain rfl := (mapM_eq_some_iff (fun _ _ => readByte?_eq_some_iff) operands bs).mp hbs
      refine ⟨⟨hne, hne', b, rfl⟩, ?_⟩
      have hwords : words ⟨a, a', .ofByte b, bs⟩ = fields ':' s.toList := by
        simp only [words, ha, ha', Opcode.toByte_ofByte, hfields, List.singleton_append]
      rw [text, ← join_words, hwords, join_fields, String.ofList_toList]
    · cases h
  · rintro ⟨hregular, rfl⟩
    have hinitiator := hexDigits_of_lt (LogicalAddress.toNat_toByte_lt hregular.initiator)
    have hdestination := hexDigits_of_lt (LogicalAddress.toNat_toByte_lt hregular.destination)
    have hi := LogicalAddress.read?_eq_some_iff.mpr ⟨hregular.initiator, hinitiator⟩
    have hd := LogicalAddress.read?_eq_some_iff.mpr ⟨hregular.destination, hdestination⟩
    have hop := readByte?_eq_some_iff.mpr (rfl : byteChars f.opcode.toByte = _)
    have hbs := (mapM_eq_some_iff (fun _ _ => readByte?_eq_some_iff) _ f.operands).mpr rfl
    rw [read?, fields_text, words, hinitiator, hdestination]
    simp only [List.singleton_append, hi, hd, hop, hbs, Option.bind_eq_bind, Option.bind_some,
      Opcode.ofByte_toByte_of_named hregular.opcode]

theorem operands?_text (f : Frame) : operands? f.text = some f.operands := by
  rw [operands?, fields_text, mapM_eq_some_iff fun _ _ => readByte?_eq_some_iff]
  rfl

/-- Two regular frames with the same text are the same frame. More than that, the text of a regular frame is read as this
    frame and no other text is, and the operands of any frame can be read back, as many as they are. -/
theorem text_inj_of_isRegular :
    (∀ f g : Frame, f.IsRegular → g.IsRegular → f.text = g.text → f = g) ∧
    (∀ s f, read? s = some f ↔ f.IsRegular ∧ f.text = s) ∧
    ∀ f : Frame, operands? f.text = some f.operands := by
  refine ⟨fun f g hf hg h => ?_, fun _ _ => read?_eq_some_iff, operands?_text⟩
  have hread : read? f.text = some f := read?_eq_some_iff.mpr ⟨hf, rfl⟩
  have hread' : read? f.text = some g := read?_eq_some_iff.mpr ⟨hg, h.symm⟩
  exact Option.some.inj (hread.symm.trans hread')

/-- A standby for everyone, put together by name and from its bytes. -/
theorem text_inj_of_isRegular_standby :
    let f : Frame := ⟨.tv, .broadcast, .standby, [0x00, 0xFF]⟩
    let g : Frame := ⟨.ofByte 0, .ofByte 15, .ofByte 0x36, [0x00, 0xFF]⟩
    f.IsRegular ∧ g.IsRegular ∧ f.text = "0f:36:00:ff" ∧ f = g ∧ read? "0f:36:00:ff" = some f ∧
      operands? f.text = some [0x00, 0xFF] := by
  intro f g
  obtain ⟨hinj, hread, hoperands⟩ := text_inj_of_isRegular
  have hf : f.IsRegular := ⟨by decide, by decide, 0x36, by decide⟩
  have hg : g.IsRegular := ⟨by decide, by decide, 0x36, rfl⟩
  have htext : f.text = "0f:36:00:ff" := by decide
  exact ⟨hf, hg, htext, hinj f g hf hg (by decide), (hread _ f).mpr ⟨hf, htext⟩, hoperands f⟩

/-- An address that is not known takes two digits, so between two such frames the text cannot tell the addresses apart. -/
example : text ⟨.unknown, .broadcast, .standby, []⟩ = text ⟨.broadcast, .unknown, .standby, []⟩ := by decide

/-- An opcode that came as a bare byte is printed as the opcode that has this byte. -/
example : text ⟨.tv, .broadcast, .other 0x36, []⟩ = text ⟨.tv, .broadcast, .standby, []⟩ := by decide

end Frame

end KeyFeed.Bus
