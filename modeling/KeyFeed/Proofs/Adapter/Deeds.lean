import KeyFeed.Adapter.Loopback

/-! What an adapter shows of its past. An operation is refused, in which case nothing happens at all, or it is a deed, or it
    leaves everything as it is. The deeds alone make up the state: what is counted and what was last asked for outlives a
    close, and whoever opened the adapter last is told what is injected until it is closed. -/

namespace KeyFeed.Adapter
open Bus

variable {κ : Type}

/-! ### Operations -/

/-- What can be asked of an adapter. -/
inductive Operation (κ : Type) where
  | setFailOpen (fail : Bool)
  | openFor (settings : OpenSettings) (listener : κ)
  | close (makeInactive : Bool)
  | makeActive
  | setTarget (target : HdmiAddress)
  | inject (n : Notification)
  deriving DecidableEq, Repr

inductive Reply where
  | done
  | failed (error : AdapterError)
  | delivered (heard : Bool)
  deriving DecidableEq, Repr

def Reply.ofResult {α : Type} : Except AdapterError α → Reply
  | .ok _ => .done
  | .error e => .failed e

/-- What comes of an operation: the reply, who is told what, and the adapter after it. -/
structure Outcome (κ : Type) where
  reply : Reply
  calls : List (κ × Notification)
  adapter : Loopback κ
  deriving DecidableEq, Repr

/-- An operation that changed the adapter. -/
inductive Deed (κ : Type) where
  | failSet (fail : Bool)
  | opened (settings : OpenSettings) (listener : κ)
  | closed (makeInactive : Bool)
  | claimed
  | targeted (target : HdmiAddress)
  deriving DecidableEq, Repr

namespace Loopback

def perform : Operation κ → Loopback κ → Outcome κ
  | .setFailOpen fail, a => ⟨.done, [], a.setFailOpen fail⟩
  | .openFor settings listener, a =>
    let (result, a) := a.openFor settings listener
    ⟨.ofResult result, (result.toOption.getD []).map (listener, ·), a⟩
  | .close makeInactive, a => ⟨.done, [], a.close makeInactive⟩
  | .makeActive, a =>
    let (result, a) := a.makeActive
    ⟨.ofResult result, [], a⟩
  | .setTarget target, a =>
    let (result, a) := a.setTarget target
    ⟨.ofResult result, [], a⟩
  | .inject n, a =>
    let (heard, calls) := a.inject n
    ⟨.delivered heard, calls, a⟩

/-- An opening counts if it succeeds, and the other operations count if they find the adapter open. -/
def deed? (a : Loopback κ) : Operation κ → Option (Deed κ)
  | .setFailOpen fail => some (.failSet fail)
  | .openFor settings listener =>
    if (a.perform (.openFor settings listener)).reply = .done then some (.opened settings listener) else none
  | .close makeInactive => if a.isOpen then some (.closed makeInactive) else none
  | .makeActive => if a.isOpen then some .claimed else none
  | .setTarget target => if a.isOpen then some (.targeted target) else none
  | .inject _ => none

def after (a : Loopback κ) : Deed κ → Loopback κ
  | .failSet fail => { a with failOpen := fail }
  | .opened settings listener =>
    { a with listener := some listener, settings := some settings, opens := a.opens + 1 }
  | .closed makeInactive =>
    { a with listener := none, closes := a.closes + 1, lastInactive := some makeInactive }
  | .claimed => { a with claims := a.claims + 1 }
  | .targeted target => { a with target := some target }

/-! ### What an operation comes to -/

variable (a : Loopback κ)

/-- What is reported to whoever opens the adapter. -/
def claimReport (settings : OpenSettings) : Notification :=
  .configuration ⟨claimedLogical, claimedPhysical, settings.osdName⟩

def openRefusal (settings : OpenSettings) : AdapterError :=
  .openFailed (settings.device.getD "auto") "simulated failure"

theorem perform_openFor (settings : OpenSettings) (listener : κ) : a.perform (.openFor settings listener) =
    if a.failOpen then ⟨.failed (openRefusal settings), [], a⟩
    else ⟨.done, [(listener, claimReport settings)], a.after (.opened settings listener)⟩ := by
  simp only [perform, openFor]
  split <;> rfl

/-- A request that needs an open adapter. -/
def whileOpen (d : Deed κ) : Outcome κ := if a.isOpen then ⟨.done, [], a.after d⟩ else ⟨.failed .notOpen, [], a⟩

theorem perform_makeActive : a.perform .makeActive = a.whileOpen .claimed := by
  simp only [perform, makeActive, whileOpen]
  split <;> rfl

theorem perform_setTarget (target : HdmiAddress) : a.perform (.setTarget target) = a.whileOpen (.targeted target) := by
  simp only [perform, setTarget, whileOpen]
  split <;> rfl

theorem perform_close (makeInactive : Bool) : a.perform (.close makeInactive) =
    ⟨.done, [], if a.isOpen then a.after (.closed makeInactive) else a⟩ := rfl

/-- Nothing but a deed changes the adapter. -/
theorem adapter_perform (op : Operation κ) : (a.perform op).adapter = (a.deed? op).elim a a.after := by
  cases op with
  | setFailOpen | inject => rfl
  | openFor settings listener =>
    rw [deed?, perform_openFor]
    cases a.failOpen <;> rfl
  | close makeInactive =>
    rw [deed?, perform_close]
    cases a.isOpen <;> rfl
  | makeActive =>
    rw [deed?, perform_makeActive, whileOpen]
    cases a.isOpen <;> rfl
  | setTarget target =>
    rw [deed?, perform_setTarget, whileOpen]
    cases a.isOpen <;> rfl

end Loopback

/-! ### What the deeds leave behind -/

namespace Deed

/-- Openings and closes are the turns of an adapter's life. -/
def isTurn : Deed κ → Bool
  | opened _ _ | closed _ => true
  | failSet _ | claimed | targeted _ => false

def isClaim : Deed κ → Bool
  | claimed => true
  | failSet _ | opened _ _ | closed _ | targeted _ => false

def listener? : Deed κ → Option κ
  | opened _ listener => some listener
  | failSet _ | closed _ | claimed | targeted _ => none

def settings? : Deed κ → Option OpenSettings
  | opened settings _ => some settings
  | failSet _ | closed _ | claimed | targeted _ => none

def inactive? : Deed κ → Option Bool
  | closed makeInactive => some makeInactive
  | failSet _ | opened _ _ | claimed | targeted _ => none

def target? : Deed κ → Option HdmiAddress
  | targeted target => some target
  | failSet _ | opened _ _ | closed _ | claimed => none

def fail? : Deed κ → Option Bool
  | failSet fail => some fail
  | opened _ _ | closed _ | claimed | targeted _ => none

variable (ds : List (Deed κ)) (d : Deed κ)

/-- The settings of every opening. -/
def openings : List OpenSettings := ds.filterMap settings?

/-- How every close left the device. -/
def closings : List Bool := ds.filterMap inactive?

/-- Who hears what is injected: the listener of the latest turn, if that was an opening. -/
def holder? : Option κ := (ds.filter isTurn).getLast?.bind listener?

/-- Whether openings are to fail, as it was set last. -/
def failsOpen : Bool := (ds.filterMap fail?).getLast?.getD false

theorem holder?_concat : holder? (ds ++ [d]) = if d.isTurn then d.listener? else holder? ds := by
  cases h : d.isTurn <;> simp [holder?, h]

theorem getLast?_filterMap_concat {β : Type} (f : Deed κ → Option β) :
    ((ds ++ [d]).filterMap f).getLast? = (f d).or (ds.filterMap f).getLast? := by
  cases h : f d <;> simp [h]

theorem ofNat_countP_concat (p : Deed κ → Bool) : UInt32.ofNat ((ds ++ [d]).countP p) =
    if p d then .ofNat (ds.countP p) + 1 else .ofNat (ds.countP p) := by
  cases h : p d <;> simp [h]

theorem ofNat_length_filterMap_concat {β : Type} (f : Deed κ → Option β) :
    UInt32.ofNat ((ds ++ [d]).filterMap f).length =
      if (f d).isSome then .ofNat (ds.filterMap f).length + 1 else .ofNat (ds.filterMap f).length := by
  simp only [List.length_filterMap_eq_countP]
  exact ofNat_countP_concat ds d fun d => (f d).isSome

end Deed

open Deed

/-- What an adapter shows is what its deeds left behind. The counts are numbers of 32 bits. -/
structure Loopback.Recalls (a : Loopback κ) (ds : List (Deed κ)) : Prop where
  listener : a.listener = holder? ds
  settings : a.settings = (openings ds).getLast?
  opens : a.opens = .ofNat (openings ds).length
  closes : a.closes = .ofNat (closings ds).length
  lastInactive : a.lastInactive = (closings ds).getLast?
  claims : a.claims = .ofNat (ds.countP isClaim)
  target : a.target = (ds.filterMap target?).getLast?
  failOpen : a.failOpen = failsOpen ds

namespace Loopback

variable {a : Loopback κ} {ds : List (Deed κ)}

theorem recalls_fresh : (fresh : Loopback κ).Recalls [] := ⟨rfl, rfl, rfl, rfl, rfl, rfl, rfl, rfl⟩

theorem Recalls.after (h : a.Recalls ds) (d : Deed κ) : (a.after d).Recalls (ds ++ [d]) where
  listener := by
    rw [holder?_concat, ← h.listener]
    cases d <;> rfl
  settings := by
    rw [openings, getLast?_filterMap_concat, ← openings, ← h.settings]
    cases d <;> rfl
  opens := by
    rw [openings, ofNat_length_filterMap_concat, ← openings, ← h.opens]
    cases d <;> rfl
  closes := by
    rw [closings, ofNat_length_filterMap_concat, ← closings, ← h.closes]
    cases d <;> rfl
  lastInactive := by
    rw [closings, getLast?_filterMap_concat, ← closings, ← h.lastInactive]
    cases d <;> rfl
  claims := by
    rw [ofNat_countP_concat, ← h.claims]
    cases d <;> rfl
  target := by
    rw [getLast?_filterMap_concat, ← h.target]
    cases d <;> rfl
  failOpen := by
    rw [failsOpen, getLast?_filterMap_concat]
    cases d with
    | failSet fail => rfl
    | opened | closed | claimed | targeted => exact h.failOpen

theorem Recalls.perform (h : a.Recalls ds) (op : Operation κ) :
    (a.perform op).adapter.Recalls (ds ++ (a.deed? op).toList) := by
  rw [adapter_perform]
  cases a.deed? op with
  | none => simpa using h
  | some d => exact h.after d

end Loopback

end KeyFeed.Adapter
