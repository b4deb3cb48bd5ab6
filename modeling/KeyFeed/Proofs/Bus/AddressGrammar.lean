import Mathlib.Data.List.Forall2
import KeyFeed.Proofs.Bus.AddressText
import KeyFeed.Proofs.Text.Numerals
import KeyFeed.Proofs.Text.Trimming

/-! Which texts are addresses, and what is wrong with the others. The components of a physical address are looked at
    from the left, and the first that is wrong or one too many is reported; an HDMI address is told by its first
    character to be physical or the name of a device. -/

namespace KeyFeed.Bus
open Text

/-! ### Letters -/

theorem toNat_toLower (c : Char) : c.toLower.toNat = if 65 ≤ c.toNat ∧ c.toNat ≤ 90 then c.toNat + 32 else c.toNat := by
  have hcapital : (c.val ≥ 'A'.val ∧ c.val ≤ 'Z'.val) ↔ 65 ≤ c.toNat ∧ c.toNat ≤ 90 := by
    simp only [ge_iff_le, UInt32.le_iff_toNat_le]
    rfl
  delta Char.toLower
  split
  · next h =>
    have hc := hcapital.mp h
    rw [if_pos hc]
    show (c.val + 32).toNat = c.toNat + 32
    rw [UInt32.toNat_add]
    exact Nat.mod_eq_of_lt (show c.toNat + 32 < 4294967296 by omega)
  · next h => rw [if_neg (mt hcapital.mpr h)]

theorem toNat_toUpper (c : Char) : c.toUpper.toNat = if 97 ≤ c.toNat ∧ c.toNat ≤ 122 then c.toNat - 32 else c.toNat := by
  have hsmall : ('a'.val ≤ c.val ∧ c.val ≤ 'z'.val) ↔ 97 ≤ c.toNat ∧ c.toNat ≤ 122 := by
    simp only [UInt32.le_iff_toNat_le]
    rfl
  delta Char.toUpper
  split
  · next h =>
    have hc := hsmall.mp h
    rw [if_pos hc]
    show (c.val + 4294967264).toNat = c.toNat - 32
    rw [UInt32.toNat_add]
    show (c.toNat + 4294967264) % 4294967296 = c.toNat - 32
    omega
  · next h => rw [if_neg (mt hsmall.mpr h)]

theorem toLower_eq_iff {l c : Char} (hl : l.isLower = true) : c.toLower = l ↔ c = l ∨ c = l.toUpper := by
  have hbounds : 97 ≤ l.toNat ∧ l.toNat ≤ 122 := by
    have hdecided : (decide (l.val ≥ 97) && decide (l.val ≤ 122)) = true := hl
    simpa [UInt32.le_iff_toNat_le] using hdecided
  simp only [← Char.toNat_inj, toNat_toLower, toNat_toUpper]
  split <;> omega

/-- A name as it may be written, in letters of either case. -/
def IsNamed (name written : List Char) : Prop := List.Forall₂ (fun l c => c = l ∨ c = l.toUpper) name written

theorem map_toLower_eq_iff {name written : List Char} (hname : ∀ l ∈ name, l.isLower = true) :
    written.map Char.toLower = name ↔ IsNamed name written := by
  induction name generalizing written with
  | nil => simp [IsNamed]
  | cons l name ih =>
    cases written with
    | nil => simp [IsNamed]
    | cons c written =>
      rw [List.map_cons, List.cons.injEq, toLower_eq_iff (hname l List.mem_cons_self),
        ih fun k hk => hname k (List.mem_cons_of_mem l hk)]
      simp only [IsNamed, List.forall₂_cons]

/-- A number that fits a byte, as a byte. -/
theorem map_readUnsigned?_eq_some_iff {limit : Nat} (hlimit : limit < 256) {cs : List Char} {b : UInt8} :
    (readUnsigned? 10 limit cs).map UInt8.ofNat = some b ↔ IsUnsigned 10 limit cs b.toNat := by
  rw [← readUnsigned?_eq_some_iff (by decide), Option.map_eq_some_iff]
  constructor
  · rintro ⟨n, hn, rfl⟩
    have hle : n ≤ limit := ((readUnsigned?_eq_some_iff (by decide)).mp hn).1
    rw [hn, UInt8.toNat_ofNat_of_lt' (Nat.lt_of_le_of_lt hle hlimit)]
  · exact fun h => ⟨b.toNat, h, UInt8.ofNat_toNat⟩

/-! ### Physical addresses -/

namespace PhysicalAddress

/-- A component of an address: a decimal number that fits a nibble. -/
def IsComponent (w : List Char) (b : UInt8) : Prop := IsUnsigned 10 15 w b.toNat

/-- What is wrong at an index of the components, where there is room for so many. -/
inductive Fault (room : Nat) (ws : List (List Char)) : Nat → AddressError → Prop where
  | component {i w} : i < room → ws[i]? = some w → (∀ b, ¬ IsComponent w b) →
      Fault room ws i (.invalidComponent (String.ofList w))
  | tooMany : room < ws.length → Fault room ws room .tooManyComponents

/-- What a text is as a physical address, or the first thing that is wrong with it. -/
inductive Reading : List Char → Except AddressError PhysicalAddress → Prop where
  | empty : Reading [] (.error .empty)
  | fault {t ws i e} : t ≠ [] → IsSplit '.' t ws → Fault 4 ws i e → (∀ j < i, ∀ e', ¬ Fault 4 ws j e') →
      Reading t (.error e)
  | components {t ws bs a} : t ≠ [] → IsSplit '.' t ws → (∀ i e, ¬ Fault 4 ws i e) → List.Forall₂ IsComponent ws bs →
      a.components = bs ++ List.replicate (4 - bs.length) 0 → Reading t (.ok a)

theorem readComponent?_eq_some_iff {w : List Char} {b : UInt8} : readComponent? w = some b ↔ IsComponent w b :=
  map_readUnsigned?_eq_some_iff (by decide)

theorem isComponent_unique : Relator.RightUnique IsComponent := fun _ _ _ h h' =>
  UInt8.toNat_inj.mp (h.unique (by decide) h')

theorem IsComponent.lt {w : List Char} {b : UInt8} (h : IsComponent w b) : b.toNat < 16 := Nat.lt_succ_of_le h.1

/-! ### The first fault -/

section
variable {room i : Nat} {w : List Char} {ws : List (List Char)} {e : AddressError}

theorem Fault.unique {e' : AddressError} (h : Fault room ws i e) (h' : Fault room ws i e') : e = e' := by
  cases h with
  | component hi hw =>
    cases h' with
    | component _ hw' => rw [Option.some.inj (hw.symm.trans hw')]
    | tooMany => exact absurd hi (Nat.lt_irrefl _)
  | tooMany =>
    cases h' with
    | component hi => exact absurd hi (Nat.lt_irrefl _)
    | tooMany => rfl

theorem fault_cons_succ : Fault (room + 1) (w :: ws) (i + 1) e ↔ Fault room ws i e := by
  constructor
  · intro h
    cases h with
    | component hi hw hnone => exact .component (Nat.lt_of_succ_lt_succ hi) hw hnone
    | tooMany hroom => exact .tooMany (Nat.lt_of_succ_lt_succ hroom)
  · intro h
    cases h with
    | component hi hw hnone => exact .component (Nat.succ_lt_succ hi) hw hnone
    | tooMany hroom => exact .tooMany (Nat.succ_lt_succ hroom)

theorem not_fault_cons_zero {b : UInt8} (hb : IsComponent w b) : ¬ Fault (room + 1) (w :: ws) 0 e := by
  rintro (@⟨_, _, _, hw, hnone⟩ | _)
  obtain rfl := Option.some.inj hw
  exact hnone b hb

/-- Reading stops at the first fault; without one, every component has its number. -/
theorem readComponents_cases (room : Nat) (ws : List (List Char)) :
    (∃ bs, readComponents room ws = .ok bs ∧ List.Forall₂ IsComponent ws bs ∧ ∀ i e, ¬ Fault room ws i e) ∨
    ∃ i e, readComponents room ws = .error e ∧ Fault room ws i e ∧ ∀ j < i, ∀ e', ¬ Fault room ws j e' := by
  induction ws generalizing room with
  | nil =>
    refine Or.inl ⟨[], by simp [readComponents], .nil, ?_⟩
    rintro i e (@⟨_, _, _, hw, -⟩ | hroom)
    · cases hw
    · cases hroom
  | cons w ws ih =>
    cases room with
    | zero => exact Or.inr ⟨0, _, by simp [readComponents], .tooMany (by simp), fun j hj => absurd hj (Nat.not_lt_zero j)⟩
    | succ room =>
      cases hread : readComponent? w with
      | none =>
        have hnone : ∀ b, ¬ IsComponent w b := fun b hb => by
          rw [← readComponent?_eq_some_iff, hread] at hb
          cases hb
        exact Or.inr ⟨0, _, by simp only [readComponents, hread], .component (Nat.succ_pos room) rfl hnone,
          fun j hj => absurd hj (Nat.not_lt_zero j)⟩
      | some b =>
        have hb : IsComponent w b := readComponent?_eq_some_iff.mp hread
        rcases ih room with ⟨bs, hbs, hall, hno⟩ | ⟨i, e, he, hfault, hfirst⟩
        · refine Or.inl ⟨b :: bs, by simp only [readComponents, hread, hbs]; rfl, .cons hb hall, fun i e h => ?_⟩
          cases i with
          | zero => exact not_fault_cons_zero hb h
          | succ i => exact hno i e (fault_cons_succ.mp h)
        · refine Or.inr ⟨i + 1, e, by simp only [readComponents, hread, he]; rfl, fault_cons_succ.mpr hfault,
            fun j hj e' h => ?_⟩
          cases j with
          | zero => exact not_fault_cons_zero hb h
          | succ j => exact hfirst j (Nat.lt_of_succ_lt_succ hj) e' (fault_cons_succ.mp h)

theorem length_le_of_not_fault (h : ∀ i e, ¬ Fault room ws i e) : ws.length ≤ room :=
  Nat.le_of_not_lt fun hlt => h room _ (.tooMany hlt)

end

/-! ### Nibbles -/

theorem components_ofComponents {a b c d : UInt8} (ha : a.toNat < 16) (hb : b.toNat < 16) (hc : c.toNat < 16)
    (hd : d.toNat < 16) : (ofComponents a b c d).components = [a, b, c, d] := by
  have hraw := toNat_ofComponents ha hb hc hd
  have hcomponent (shift : UInt16) (hs : shift.toNat < 16) (n : UInt8)
      (h : (ofComponents a b c d).raw.toNat / 2 ^ shift.toNat % 16 = n.toNat) :
      (ofComponents a b c d).component shift = n :=
    UInt8.toNat_inj.mp ((toNat_component _ shift hs).trans h)
  rw [components, hcomponent 12 (by decide) a, hcomponent 8 (by decide) b, hcomponent 4 (by decide) c,
    hcomponent 0 (by decide) d]
  all_goals
    simp only [hraw, UInt16.reduceToNat, Nat.reducePow]
    omega

theorem components_inj {a b : PhysicalAddress} (h : a.components = b.components) : a = b := by
  simp only [components, List.cons.injEq, and_true] at h
  rw [← a.ofComponents_component, h.1, h.2.1, h.2.2.1, h.2.2.2, b.ofComponents_component]

/-- Components that are missing at the end are zero. -/
theorem components_ofComponents_getD {bs : List UInt8} (hall : ∀ b ∈ bs, b.toNat < 16) (hlength : bs.length ≤ 4) :
    (ofComponents (bs.getD 0 0) (bs.getD 1 0) (bs.getD 2 0) (bs.getD 3 0)).components =
      bs ++ List.replicate (4 - bs.length) 0 := by
  have hlt : ∀ i, (bs.getD i 0).toNat < 16 := fun i => by
    rw [List.getD_eq_getElem?_getD]
    cases hi : bs[i]? with
    | none => decide
    | some b => exact hall b (List.mem_of_getElem? hi)
  rw [components_ofComponents (hlt 0) (hlt 1) (hlt 2) (hlt 3)]
  match bs, hlength with
  | [], _ | [_], _ | [_, _], _ | [_, _, _], _ | [_, _, _, _], _ => rfl

theorem lt_of_isComponents {ws : List (List Char)} {bs : List UInt8} (h : List.Forall₂ IsComponent ws bs) :
    ∀ b ∈ bs, b.toNat < 16 := by
  induction h with
  | nil => simp
  | cons hb _ ih => exact List.forall_mem_cons.mpr ⟨hb.lt, ih⟩

theorem parse_of_isSplit {t : List Char} {ws : List (List Char)} (ht : t ≠ []) (hsplit : IsSplit '.' t ws) :
    parse t = (readComponents 4 ws).map fun bs => ofComponents (bs.getD 0 0) (bs.getD 1 0) (bs.getD 2 0) (bs.getD 3 0) := by
  rw [parse, if_neg (by simpa using ht), fields_eq_iff.mpr hsplit]

theorem reading_parse (t : List Char) : Reading t (parse t) := by
  by_cases ht : t = []
  · rw [ht]
    exact .empty
  · have hsplit : IsSplit '.' t (fields '.' t) := fields_eq_iff.mp rfl
    rw [parse_of_isSplit ht hsplit]
    rcases readComponents_cases 4 (fields '.' t) with ⟨bs, hbs, hall, hno⟩ | ⟨i, e, he, hfault, hfirst⟩
    · have hlength : bs.length ≤ 4 := hall.length_eq ▸ length_le_of_not_fault hno
      rw [hbs]
      exact .components ht hsplit hno hall (components_ofComponents_getD (lt_of_isComponents hall) hlength)
    · rw [he]
      exact .fault ht hsplit hfault hfirst

theorem parse_of_reading {t : List Char} {r : Except AddressError PhysicalAddress} (h : Reading t r) : parse t = r := by
  cases h with
  | empty => rfl
  | @fault _ ws i e ht hsplit hfault hfirst =>
    rw [parse_of_isSplit ht hsplit]
    rcases readComponents_cases 4 ws with ⟨-, -, -, hno⟩ | ⟨j, e', he, hfault', hfirst'⟩
    · exact absurd hfault (hno i e)
    · -- Both indices are the first that is wrong.
      rcases Nat.lt_trichotomy i j with hlt | rfl | hlt
      · exact absurd hfault (hfirst' i hlt e)
      · rw [he, hfault.unique hfault']
        rfl
      · exact absurd hfault' (hfirst j hlt e')
  | @components _ ws bs a ht hsplit hno hall hcomponents =>
    rw [parse_of_isSplit ht hsplit]
    rcases readComponents_cases 4 ws with ⟨bs', hbs, hall', -⟩ | ⟨i, e, -, hfault, -⟩
    · obtain rfl := List.right_unique_forall₂' isComponent_unique hall hall'
      have hlength : bs.length ≤ 4 := hall.length_eq ▸ length_le_of_not_fault hno
      rw [hbs]
      refine congrArg Except.ok (components_inj ?_)
      rw [components_ofComponents_getD (lt_of_isComponents hall) hlength, hcomponents]
    · exact absurd hfault (hno i e)

end PhysicalAddress

/-! ### HDMI addresses -/

namespace HdmiAddress

/-- What a text is as a port. -/
inductive PortReading (text : List Char) : Except AddressError UInt8 → Prop where
  | port {p : UInt8} : IsUnsigned 10 255 text p.toNat → 1 ≤ p → p ≤ 15 → PortReading text (.ok p)
  | invalid : (∀ p : UInt8, IsUnsigned 10 255 text p.toNat → ¬ (1 ≤ p ∧ p ≤ 15)) →
      PortReading text (.error (.invalidPort (String.ofList text)))

/-- What a device is, with or without the text of a port. -/
inductive DeviceReading (device : List Char) : Option (List Char) → Except AddressError HdmiAddress → Prop where
  | tv : IsNamed ['t', 'v'] device → DeviceReading device none (.ok (.tv none))
  | tvPort {text r} : IsNamed ['t', 'v'] device → PortReading text r →
      DeviceReading device (some text) (r.map fun p => .tv (some p))
  | av : IsNamed ['a', 'v'] device → DeviceReading device none (.error .missingPort)
  | avPort {text r} : IsNamed ['a', 'v'] device → PortReading text r →
      DeviceReading device (some text) (r.map .audioSystem)
  | unknown {text} : ¬ IsNamed ['t', 'v'] device → ¬ IsNamed ['a', 'v'] device →
      DeviceReading device text (.error (.unknownDevice (String.ofList device)))

/-- What a text without white space around it is as an HDMI address. -/
inductive Reading : List Char → Except AddressError HdmiAddress → Prop where
  | empty : Reading [] (.error .empty)
  | physical {c cs r} : c.isDigit = true → PhysicalAddress.Reading (c :: cs) r → Reading (c :: cs) (r.map .physical)
  | device {c cs r} : c.isDigit = false → '.' ∉ c :: cs → DeviceReading (c :: cs) none r → Reading (c :: cs) r
  | port {c cs device text r} : c.isDigit = false → '.' ∉ device → c :: cs = device ++ '.' :: text →
      DeviceReading device (some text) r → Reading (c :: cs) r

theorem portInRange_iff {p : UInt8} : portInRange p = true ↔ 1 ≤ p ∧ p ≤ 15 := by
  simp [portInRange]

theorem portReading_readPort (text : List Char) : PortReading text (readPort text) := by
  unfold readPort
  split
  · next p hp =>
    have hp := (map_readUnsigned?_eq_some_iff (by decide)).mp hp
    split
    · next hrange =>
      obtain ⟨h1, h15⟩ := portInRange_iff.mp hrange
      exact .port hp h1 h15
    · next hrange =>
      refine .invalid fun q hq hrange' => hrange (portInRange_iff.mpr ?_)
      rwa [UInt8.toNat_inj.mp (hp.unique (by decide) hq)]
  · next hnone =>
    refine .invalid fun q hq _ => ?_
    rw [(map_readUnsigned?_eq_some_iff (by decide)).mpr hq] at hnone
    cases hnone

theorem readPort_of_reading {text : List Char} {r : Except AddressError UInt8} (h : PortReading text r) :
    readPort text = r := by
  cases h with
  | port hp h1 h15 =>
    rw [readPort, (map_readUnsigned?_eq_some_iff (by decide)).mpr hp]
    exact if_pos (portInRange_iff.mpr ⟨h1, h15⟩)
  | invalid hno =>
    unfold readPort
    split
    · next p hp =>
      exact if_neg fun hrange =>
        hno p ((map_readUnsigned?_eq_some_iff (by decide)).mp hp) (portInRange_iff.mp hrange)
    · rfl

theorem map_toLower_eq_tv_iff {device : List Char} :
    device.map Char.toLower = ['t', 'v'] ↔ IsNamed ['t', 'v'] device :=
  map_toLower_eq_iff (List.all_eq_true.mp (by decide))

theorem map_toLower_eq_av_iff {device : List Char} :
    device.map Char.toLower = ['a', 'v'] ↔ IsNamed ['a', 'v'] device :=
  map_toLower_eq_iff (List.all_eq_true.mp (by decide))

section
variable {device : List Char}

theorem ofDevice_tv (h : IsNamed ['t', 'v'] device) (port : Option (List Char)) : ofDevice device port =
    port.elim (.ok (.tv none)) fun text => (readPort text).map fun p => .tv (some p) := by
  have h := map_toLower_eq_tv_iff.mpr h
  cases port <;> simp only [ofDevice, h] <;> rfl

theorem ofDevice_av (h : IsNamed ['a', 'v'] device) (port : Option (List Char)) : ofDevice device port =
    port.elim (.error .missingPort) fun text => (readPort text).map .audioSystem := by
  have h := map_toLower_eq_av_iff.mpr h
  cases port <;> simp only [ofDevice, h] <;> rfl

theorem ofDevice_unknown (htv : ¬ IsNamed ['t', 'v'] device) (hav : ¬ IsNamed ['a', 'v'] device)
    (port : Option (List Char)) : ofDevice device port = .error (.unknownDevice (String.ofList device)) := by
  unfold ofDevice
  split
  · next h => exact absurd (map_toLower_eq_tv_iff.mp h) htv
  · next h => exact absurd (map_toLower_eq_tv_iff.mp h) htv
  · next h => exact absurd (map_toLower_eq_av_iff.mp h) hav
  · next h => exact absurd (map_toLower_eq_av_iff.mp h) hav
  · rfl

theorem deviceReading_ofDevice (device : List Char) (port : Option (List Char)) :
    DeviceReading device port (ofDevice device port) := by
  by_cases htv : IsNamed ['t', 'v'] device
  · rw [ofDevice_tv htv]
    cases port with
    | none => exact .tv htv
    | some text => exact .tvPort htv (portReading_readPort text)
  · by_cases hav : IsNamed ['a', 'v'] device
    · rw [ofDevice_av hav]
      cases port with
      | none => exact .av hav
      | some text => exact .avPort hav (portReading_readPort text)
    · rw [ofDevice_unknown htv hav]
      exact .unknown htv hav

theorem ofDevice_of_reading {port : Option (List Char)} {r : Except AddressError HdmiAddress}
    (h : DeviceReading device port r) : ofDevice device port = r := by
  cases h with
  | tv h => exact ofDevice_tv h none
  | tvPort h hport => rw [ofDevice_tv h, Option.elim_some, readPort_of_reading hport]
  | av h => exact ofDevice_av h none
  | avPort h hport => rw [ofDevice_av h, Option.elim_some, readPort_of_reading hport]
  | unknown htv hav => exact ofDevice_unknown htv hav port

end

theorem reading_parse (s : String) : Reading (trimChars s.toList) (parse s) := by
  rw [parse, parseChars]
  cases trimChars s.toList with
  | nil => exact .empty
  | cons c cs =>
    simp only
    split
    · next hdigit => exact .physical hdigit (PhysicalAddress.reading_parse (c :: cs))
    · next hdigit =>
      have hdigit : c.isDigit = false := Bool.eq_false_iff.mpr hdigit
      split
      · next device text hcut =>
        obtain ⟨hdevice, heq⟩ := eq_append_of_cut? hcut
        exact .port hdigit hdevice heq (deviceReading_ofDevice device (some text))
      · next hcut => exact .device hdigit (cut?_eq_none_iff.mp hcut) (deviceReading_ofDevice (c :: cs) none)

theorem parse_of_reading {s : String} {r : Except AddressError HdmiAddress} (h : Reading (trimChars s.toList) r) :
    parse s = r := by
  rw [parse, parseChars]
  generalize trimChars s.toList = t at h ⊢
  cases h with
  | empty => rfl
  | @physical c cs r hdigit hphysical =>
    have hdigit : isAsciiDigit c = true := hdigit
    simp only [hdigit, if_true, PhysicalAddress.parse_of_reading hphysical]
  | @device c cs r hdigit hperiod hdevice =>
    have hdigit : isAsciiDigit c = false := hdigit
    simp only [hdigit, cut?_eq_none_iff.mpr hperiod]
    exact ofDevice_of_reading hdevice
  | @port c cs device text r hdigit hperiod heq hdevice =>
    have hdigit : isAsciiDigit c = false := hdigit
    simp only [hdigit, heq, cut?_append_cons hperiod]
    exact ofDevice_of_reading hdevice

/-- A port that was read is one that a device can have. -/
theorem DeviceReading.port_bounds {device : List Char} {text : Option (List Char)} {r : Except AddressError HdmiAddress}
    (h : DeviceReading device text r) {a : HdmiAddress} (ha : r = .ok a) {p : UInt8} (hp : a.port? = some p) :
    1 ≤ p ∧ p ≤ 15 := by
  cases h with
  | tv =>
    cases ha
    cases hp
  | tvPort _ hport | avPort _ hport =>
    cases hport with
    | port _ h1 h15 =>
      cases ha
      cases hp
      exact ⟨h1, h15⟩
    | invalid => cases ha
  | av | unknown => cases ha

theorem port_bounds_of_parse {s : String} {a : HdmiAddress} (h : parse s = .ok a) {p : UInt8} (hp : a.port? = some p) :
    1 ≤ p ∧ p ≤ 15 := by
  have hreading := reading_parse s
  generalize trimChars s.toList = t at hreading
  generalize hr : parse s = r at hreading
  rw [h] at hr
  cases hreading with
  | empty => cases hr
  | @physical _ _ r =>
    -- A physical address has no port.
    cases r with
    | ok =>
      cases hr
      cases hp
    | error => cases hr
  | device _ _ hdevice => exact hdevice.port_bounds hr.symm hp
  | port _ _ _ hdevice => exact hdevice.port_bounds hr.symm hp

end HdmiAddress

/-- What a text is as an HDMI address is told by the text without the white space around it; a physical address is read
    as it stands. -/
theorem parse_iff_reading_trimmed (s : String) :
    (∀ r, HdmiAddress.parse s = r ↔ ∃ t, IsTrimmed s.toList t ∧ HdmiAddress.Reading t r) ∧
    ∀ r, PhysicalAddress.parse s.toList = r ↔ PhysicalAddress.Reading s.toList r := by
  refine ⟨fun r => ⟨?_, ?_⟩, fun r => ⟨?_, PhysicalAddress.parse_of_reading⟩⟩
  · rintro rfl
    exact ⟨_, isTrimmed_trimChars s.toList, HdmiAddress.reading_parse s⟩
  · rintro ⟨t, htrimmed, hreading⟩
    rw [← htrimmed.trimChars_eq] at hreading
    exact HdmiAddress.parse_of_reading hreading
  · rintro rfl
    exact PhysicalAddress.reading_parse s.toList

example : HdmiAddress.parse "\u00a0aV.+015 " = .ok (.audioSystem 15) := by decide

example : HdmiAddress.parse "1..16.0.0.0" = .error (.invalidComponent "") := by decide

end KeyFeed.Bus
