import KeyFeed.Proofs.Session.Recording
import KeyFeed.Session.Record
import Mathlib.Data.List.DropRight
import Mathlib.Data.List.Induction

/-! What an emitter says of its calls, after any history of them. A call returns how many lines it sent out, and a call that
    is refused does nothing at all. The latest names are those of the last call that sent out a line, unless the press and
    release of a suppressed code came after it: it sends out nothing and still clears them, where the mere press of such a
    code leaves them alone. -/

namespace KeyFeed.Session
open Feed Key

/-- A call to an emitter. -/
inductive Stroke where
  | press (code : UInt8)
  | pressAndRelease (code : Code)
  deriving DecidableEq, Repr

namespace Stroke

def code : Stroke → UInt8
  | press code => code
  | pressAndRelease code => code.toByte

/-- The names of the key that is struck. Where there are none, no line is sent out. -/
def names (k : Stroke) : List String := ((Code.ofByte? k.code).map Code.names).getD []

def isWhole : Stroke → Bool
  | press _ => false
  | pressAndRelease _ => true

theorem names_pressAndRelease (c : Code) : (pressAndRelease c).names = c.names := by
  rw [names, code, Code.ofByte?_toByte]
  rfl

theorem names_of_outOfRange {k : Stroke} (h : ¬ k.code ≤ maxCode) : k.names = [] := by
  cases hc : Code.ofByte? k.code with
  | none => rw [names, hc]; rfl
  | some c =>
    exact absurd (Code.toByte_of_ofByte? hc ▸ toByte_le_maxCode c) h

theorem code_le_of_isWhole {k : Stroke} (h : k.isWhole = true) : k.code ≤ maxCode := by
  cases k with
  | press => cases h
  | pressAndRelease c => exact toByte_le_maxCode c

/-- The names of the last call that sent out a line. -/
def lastWritten (ks : List Stroke) : List String := ((ks.filter fun k => !k.names.isEmpty).getLast?.map names).getD []

/-- The calls after the last one that sent out a line. -/
def sinceWritten (ks : List Stroke) : List Stroke := ks.rtakeWhile fun k => k.names.isEmpty

theorem lastWritten_concat (ks : List Stroke) (k : Stroke) :
    lastWritten (ks ++ [k]) = if k.names = [] then lastWritten ks else k.names := by
  by_cases hk : k.names = [] <;> simp [lastWritten, hk]

theorem sinceWritten_concat (ks : List Stroke) (k : Stroke) :
    sinceWritten (ks ++ [k]) = if k.names = [] then sinceWritten ks ++ [k] else [] := by
  rw [sinceWritten, List.rtakeWhile_concat]
  simp [sinceWritten]

end Stroke

/-- An emitter in its surroundings, and the lines that it has sent out. -/
structure Keyboard (σ : Type) where
  emitter : Emitter
  world : σ
  lines : List String
  deriving DecidableEq, Repr

namespace Keyboard

variable {σ : Type}

def begin (tag : String) (w : σ) : Keyboard σ := ⟨.fresh tag, w, []⟩

/-- Sends out the lines of an emission one by one. -/
def send (out : Outlet σ) (emission : Emission) (b : Keyboard σ) : Keyboard σ :=
  let (w, lines) := Station.broadcastLines (out.recording fun line lines => lines ++ [line]) emission.lines
    (b.world, b.lines)
  ⟨emission.emitter, w, lines⟩

/-- Makes a call; what it returns, and the keyboard after it. -/
def strike (out : Outlet σ) (k : Stroke) (b : Keyboard σ) : Except OutOfRange Nat × Keyboard σ :=
  match k with
  | .press code => match b.emitter.press code with
    | .ok emission => (.ok emission.count, b.send out emission)
    | .error e => (.error e, b)
  | .pressAndRelease code =>
    let emission := b.emitter.pressAndRelease code
    (.ok emission.count, b.send out emission)

/-- Makes the calls one after another. -/
def play (out : Outlet σ) (ks : List Stroke) (b : Keyboard σ) : Keyboard σ := ks.foldl (fun b k => (b.strike out k).2) b

theorem play_concat (out : Outlet σ) (ks : List Stroke) (k : Stroke) (b : Keyboard σ) :
    b.play out (ks ++ [k]) = ((b.play out ks).strike out k).2 := by
  simp [play]

/-! ### One call -/

variable (out : Outlet σ) (b : Keyboard σ)

theorem lines_send (emission : Emission) : (b.send out emission).lines = b.lines ++ emission.lines.map Line.text := by
  simp only [send, Outlet.recording_eq_noting, Station.broadcastLines_noting]
  exact foldl_concat_text emission.lines b.lines

/-- What a call can come to. -/
inductive Outcome (k : Stroke) : Except OutOfRange Nat × Keyboard σ → Prop where
  | written (b' : Keyboard σ) (new : List String) (hlines : b'.lines = b.lines ++ new) (hnew : new ≠ [])
    (hnames : k.names ≠ []) (hlast : b'.emitter.last = k.names) : Outcome k (.ok new.length, b')
  /-- No line is sent out, and nothing changes. -/
  | silent (hk : k.isWhole = false) (hcode : k.code ≤ maxCode) (hnames : k.names = []) : Outcome k (.ok 0, b)
  /-- No line is sent out, and there are no latest names any more. -/
  | cleared (hk : k.isWhole = true) (hnames : k.names = []) :
    Outcome k (.ok 0, { b with emitter := { b.emitter with last := [] } })
  | refused (hk : k.isWhole = false) (hcode : ¬ k.code ≤ maxCode) : Outcome k (.error ⟨k.code⟩, b)

theorem outcome_send {k : Stroke} (emission : Emission) (hcount : emission.count = emission.lines.length)
    (hnew : emission.lines ≠ []) (hnames : k.names ≠ []) (hlast : emission.emitter.last = k.names) :
    b.Outcome k (.ok emission.count, b.send out emission) := by
  have hlength : emission.count = (emission.lines.map Line.text).length := by rw [hcount, List.length_map]
  rw [hlength]
  exact .written _ _ (lines_send out b emission) (by simpa using hnew) hnames hlast

theorem outcome_strike (k : Stroke) : b.Outcome k (b.strike out k) := by
  cases k with
  | press code =>
    simp only [strike, Emitter.press, lookup_eq]
    by_cases hle : code ≤ maxCode
    · rw [if_pos hle]
      cases hnames : ((Code.ofByte? code).map Code.names).getD [] with
      | nil => exact .silent rfl hle hnames
      | cons name names =>
        have hk : (Stroke.press code).names = name :: names := hnames
        exact outcome_send out b _ (by simp [Emitter.lines]) (by simp [Emitter.lines]) (by simp [hk]) hk.symm
    · rw [if_neg hle]
      exact .refused rfl hle
  | pressAndRelease c =>
    have hk : (Stroke.pressAndRelease c).names = c.names := Stroke.names_pressAndRelease c
    cases hnames : c.names with
    | nil =>
      have hcleared : b.emitter.pressAndRelease c = ⟨[], 0, { b.emitter with last := [] }⟩ := by
        simp [Emitter.pressAndRelease, Emitter.lines, hnames]
      simp only [strike, hcleared]
      exact .cleared rfl (hk.trans hnames)
    | cons name names =>
      refine outcome_send out b (b.emitter.pressAndRelease c) ?_ ?_ ?_ ?_
      · simp [Emitter.pressAndRelease, Emitter.lines, Nat.mul_two]
      · simp [Emitter.pressAndRelease, Emitter.lines, hnames]
      · simp [hk, hnames]
      · simp [hk, Emitter.pressAndRelease]

/-! ### Histories of calls -/

open Stroke in
theorem last_play (tag : String) (w : σ) (ks : List Stroke) : ((begin tag w).play out ks).emitter.last =
    if (sinceWritten ks).any isWhole then [] else lastWritten ks := by
  induction ks using List.reverseRecOn with
  | nil => rfl
  | append_singleton ks k ih =>
    rw [play_concat, lastWritten_concat, sinceWritten_concat]
    have hstrike := ((begin tag w).play out ks).outcome_strike out k
    generalize ((begin tag w).play out ks).strike out k = after at hstrike
    cases hstrike with
    | written b' new hlines hnew hnames hlast => simp [hlast, hnames]
    | silent hk hcode hnames => simp [ih, hk, hnames]
    | cleared hk hnames => simp [hk, hnames]
    | refused hk hcode => simp [ih, hk, names_of_outOfRange hcode]

open Stroke in
/-- Whatever was asked of an emitter before, and whoever receives its lines: a call returns how many lines it sends out, and
    it sends out some just when its key has names. Only a press of a code beyond the table is refused; then nothing is
    sent out and nothing changes. The latest names are those of the last call that sent out a line, and there are none if
    none did; but they are gone as well if since that call a suppressed code was pressed and released in one. -/
theorem strike_after_history (out : Outlet σ) (tag : String) (w : σ) (before : List Stroke) (k : Stroke) :
    let b := (begin tag w).play out before
    let (result, b') := b.strike out k
    (∃ new, b'.lines = b.lines ++ new ∧ (new = [] ↔ k.names = []) ∧
      match result with
      | .ok n => n = new.length
      | .error e => e = ⟨k.code⟩ ∧ new = [] ∧ b' = b) ∧
    (result = .error ⟨k.code⟩ ↔ 0x96 < k.code) ∧
    b'.emitter.last =
      if (sinceWritten (before ++ [k])).any isWhole then [] else lastWritten (before ++ [k]) := by
  intro b
  have hlast := last_play out tag w (before ++ [k])
  rw [play_concat] at hlast
  have hstrike := b.outcome_strike out k
  generalize b.strike out k = after at hlast hstrike ⊢
  have hrefused : 0x96 < k.code ↔ ¬ k.code ≤ maxCode := UInt8.not_le.symm
  cases hstrike with
  | written b' new hlines hnew hnames =>
    have hcode : k.code ≤ maxCode := Classical.not_not.mp fun hle => hnames (Stroke.names_of_outOfRange hle)
    exact ⟨⟨new, hlines, by simp [hnew, hnames], rfl⟩, by simp [hrefused, hcode], hlast⟩
  | silent hk hcode hnames => exact ⟨⟨[], by simp, by simp [hnames], rfl⟩, by simp [hrefused, hcode], hlast⟩
  | cleared hk hnames =>
    have hcode := Stroke.code_le_of_isWhole hk
    exact ⟨⟨[], by simp, by simp [hnames], rfl⟩, by simp [hrefused, hcode], hlast⟩
  | refused hk hcode =>
    have hnames := Stroke.names_of_outOfRange hcode
    exact ⟨⟨[], by simp, by simp [hnames], rfl, rfl, rfl⟩, by simp [hrefused, hcode], hlast⟩

/-- A selection is written; then a suppressed key is pressed and released in one. -/
theorem last_ne_lastWritten :
    let ks : List Stroke := [.press 0x00, .pressAndRelease .f5]
    let b := (begin "tag" Record.empty).play (Record.outlet fun _ => none) ks
    b.lines = ["0 0 KEY_OK tag\n"] ∧ Stroke.lastWritten ks = ["KEY_OK"] ∧ b.emitter.last = [] := by
  decide

end Keyboard

end KeyFeed.Session
