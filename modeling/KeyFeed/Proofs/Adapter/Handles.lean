import KeyFeed.Proofs.Adapter.Deeds

/-! Adapters that are reached through handles. A copy of a handle reaches the same adapter, so the deeds of an adapter are
    those of all its handles, and they alone decide what it shows and how it takes the next operation, whatever is done to
    other adapters in the meantime. -/

namespace KeyFeed.Adapter
open Bus Deed

variable {κ : Type}

/-- Adapters, and for every handle the number of the adapter that it reaches. -/
structure Bench (κ : Type) where
  adapters : List (Loopback κ)
  handles : List Nat
  deriving DecidableEq, Repr

/-- What can be done with handles; those that are made have the numbers in their order. -/
inductive Move (κ : Type) where
  | build
  | copy (handle : Nat)
  | use (handle : Nat) (op : Operation κ)
  deriving DecidableEq, Repr

namespace Bench

def empty : Bench κ := ⟨[], []⟩

/-- A new adapter comes with a handle; the copy of a handle reaches the same adapter. -/
def move : Move κ → Bench κ → Bench κ
  | .build, b => ⟨b.adapters ++ [.fresh], b.handles ++ [b.adapters.length]⟩
  | .copy h, b => { b with handles := b.handles ++ b.handles[h]?.toList }
  | .use h op, b => match b.handles[h]? with
    | some i => { b with adapters := b.adapters.modify i fun a => (a.perform op).adapter }
    | none => b

def play (moves : List (Move κ)) (b : Bench κ) : Bench κ := moves.foldl (fun b m => b.move m) b

/-- The deed on adapter number `i` that a move comes to, through whichever handle. -/
def deedOn? (i : Nat) : Move κ → Bench κ → Option (Deed κ)
  | .use h op, b => if b.handles[h]? = some i then b.adapters[i]?.bind (·.deed? op) else none
  | .build, _ | .copy _, _ => none

def deedsOn (i : Nat) : List (Move κ) → Bench κ → List (Deed κ)
  | [], _ => []
  | m :: moves, b => (b.deedOn? i m).toList ++ deedsOn i moves (b.move m)

variable {b : Bench κ} {past : Nat → List (Deed κ)} {h i : Nat}

/-- Every adapter shows what its own deeds left behind, and no handle reaches further than the last adapter. -/
structure Sound (b : Bench κ) (past : Nat → List (Deed κ)) : Prop where
  reached : ∀ i ∈ b.handles, i < b.adapters.length
  recalls : ∀ (i : Nat) (a : Loopback κ), b.adapters[i]? = some a → a.Recalls (past i)
  unused : ∀ i, b.adapters.length ≤ i → past i = []

theorem Sound.build (hs : b.Sound past) : (b.move .build).Sound past where
  reached i hi := by
    rw [move, List.length_append, List.length_singleton]
    rcases List.mem_append.mp hi with hi | hi
    · exact Nat.lt_succ_of_lt (hs.reached i hi)
    · exact List.mem_singleton.mp hi ▸ Nat.lt_succ_self _
  recalls i a ha := by
    rw [Bench.move, List.getElem?_append] at ha
    split at ha
    · exact hs.recalls i a ha
    · next hle =>
      -- No handle reached the new adapter before, so it has no deeds yet.
      obtain rfl : a = .fresh := List.mem_singleton.mp (List.mem_of_getElem? ha)
      rw [hs.unused i (Nat.le_of_not_lt hle)]
      exact Loopback.recalls_fresh
  unused i hi := hs.unused i (Nat.le_of_succ_le (by simpa [move] using hi))

theorem Sound.copy (hs : b.Sound past) (h : Nat) : (b.move (.copy h)).Sound past where
  reached i hi := by
    rcases List.mem_append.mp hi with hi | hi
    · exact hs.reached i hi
    · exact hs.reached i (List.mem_of_getElem? (Option.mem_toList.mp hi))
  recalls := hs.recalls
  unused := hs.unused

theorem Sound.use (hs : b.Sound past) (h : Nat) (op : Operation κ) :
    (b.move (.use h op)).Sound fun i => past i ++ (b.deedOn? i (.use h op)).toList := by
  cases hh : b.handles[h]? with
  | none => simpa [move, deedOn?, hh] using hs
  | some j =>
    have hj : j < b.adapters.length := hs.reached j (List.mem_of_getElem? hh)
    have hmove : b.move (.use h op) = { b with adapters := b.adapters.modify j fun a => (a.perform op).adapter } := by
      rw [move, hh]
    rw [hmove]
    refine ⟨?_, fun i a ha => ?_, fun i hi => ?_⟩
    · simpa using hs.reached
    · rw [List.getElem?_modify] at ha
      obtain ⟨a, hold, rfl⟩ := Option.map_eq_some_iff.mp ha
      have hrecalls := hs.recalls i a hold
      by_cases hij : j = i
      · subst hij
        simpa [deedOn?, hh, hold] using hrecalls.perform op
      · simpa [deedOn?, hh, hij] using hrecalls
    · have hle : b.adapters.length ≤ i := by simpa using hi
      have hij : j ≠ i := by omega
      simp [deedOn?, hh, hij, hs.unused i hle]

theorem Sound.move (hs : b.Sound past) (m : Move κ) :
    (b.move m).Sound fun i => past i ++ (b.deedOn? i m).toList := by
  cases m with
  | build => simpa [deedOn?] using hs.build
  | copy h => simpa [deedOn?] using hs.copy h
  | use h op => exact hs.use h op

theorem Sound.play (hs : b.Sound past) (moves : List (Move κ)) :
    (b.play moves).Sound fun i => past i ++ b.deedsOn i moves := by
  induction moves generalizing b past with
  | nil => simpa [deedsOn, Bench.play] using hs
  | cons m moves ih => simpa [deedsOn, Bench.play] using ih (hs.move m)

end Bench

end KeyFeed.Adapter
