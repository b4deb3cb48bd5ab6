import KeyFeed.Text.Blank

/-! The name that the television shows for this device. The bus carries at most fourteen bytes of it. A longer name is
    cut where a character ends: the search for that place goes back from the last byte that fits. -/

namespace KeyFeed.Adapter
open Text

/-- The name of a device that has no better one. -/
def fallbackOsdName : String := "RaspberryPI"

def maxOsdNameBytes : Nat := 14

/-- The first byte at or before byte `n` where a character begins or the text ends; `none` once the search has left the
    text at its front. -/
def boundaryUpTo? (s : String) : Nat → Option Nat
  | 0 => if String.Pos.Raw.isValid s ⟨0⟩ then some 0 else none
  | n + 1 => if String.Pos.Raw.isValid s ⟨n + 1⟩ then some (n + 1) else boundaryUpTo? s n

/-- The first `n` bytes of a text; `none` if they end inside a character. -/
def firstBytes? (s : String) (n : Nat) : Option String :=
  if h : String.Pos.Raw.isValid s ⟨n⟩ then
    some (s.extract s.startPos ⟨⟨n⟩, String.Pos.Raw.isValid_eq_true_iff.mp h⟩)
  else none

/-- As much of a text as fits into `room` bytes. -/
def cut? (room : Nat) (s : String) : Option String :=
  (boundaryUpTo? s (min s.utf8ByteSize room)).bind (firstBytes? s)

/-- The name without the white space around it, cut to what the bus carries. -/
def clampOsdName? (s : String) : Option String :=
  let name := trim s
  if name.isEmpty then some fallbackOsdName else cut? maxOsdNameBytes name

/-! ### Where the search ends -/

/-- The search stops at the last boundary that it can find. -/
theorem exists_boundaryUpTo? (s : String) (n : Nat) : ∃ m ≤ n, boundaryUpTo? s n = some m ∧
    String.Pos.Raw.isValid s ⟨m⟩ = true ∧ ∀ k ≤ n, String.Pos.Raw.isValid s ⟨k⟩ = true → k ≤ m := by
  induction n with
  | zero => exact ⟨0, Nat.le_refl 0, by simp [boundaryUpTo?], by simp, fun k hk _ => hk⟩
  | succ n ih =>
    cases hn : String.Pos.Raw.isValid s ⟨n + 1⟩ with
    | true => exact ⟨n + 1, Nat.le_refl _, by simp [boundaryUpTo?, hn], hn, fun k hk _ => hk⟩
    | false =>
      obtain ⟨m, hm, hfound, hvalid, hlast⟩ := ih
      refine ⟨m, Nat.le_succ_of_le hm, by simp [boundaryUpTo?, hn, hfound], hvalid, fun k hk hkv => ?_⟩
      rcases Nat.lt_or_eq_of_le hk with hlt | rfl
      · exact hlast k (Nat.le_of_lt_succ hlt) hkv
      · rw [hn] at hkv
        cases hkv

theorem isSome_cut? (room : Nat) (s : String) : (cut? room s).isSome = true := by
  obtain ⟨m, -, hfound, hvalid, -⟩ := exists_boundaryUpTo? s (min s.utf8ByteSize room)
  simp [cut?, hfound, firstBytes?, hvalid]

theorem isSome_clampOsdName? (s : String) : (clampOsdName? s).isSome = true := by
  simp only [clampOsdName?]
  split
  · rfl
  · exact isSome_cut? _ _

/-- The name as the bus carries it. -/
def clampOsdName (s : String) : String := (clampOsdName? s).get (isSome_clampOsdName? s)

/-- The name for a device that was given none: that of the machine, when it has one. -/
def defaultOsdName (hostname : Option String) : String :=
  match hostname with
  | some name => clampOsdName name
  | none => fallbackOsdName

end KeyFeed.Adapter
