import KeyFeed.Host.Machine
import KeyFeed.Proofs.Feed.Membership

/-! What the world keeps of the sends to it. A `Lifetime` lists its sends, and whatever a world shows that grows with each
    send has grown by what those sends add up to. A world that takes note of each send therefore holds the same list. On a
    machine the other side of a connection can read what the sends over it took: the lines that were broadcast since its
    subscriber was accepted, one after another, and behind them less than all of a line. -/

namespace KeyFeed.Feed
open Host Text

variable {κ σ α : Type}

/-! ### Sends that show -/

/-- A send together with the one to whom it went. -/
structure Shipment (κ : Type) where
  target : Subscriber κ
  line : String
  sent : Sent
  deriving DecidableEq, Repr

def Shipment.delivery (s : Shipment κ) : Delivery := ⟨s.target.id, s.line, s.sent⟩

/-- What a world shows grows with each send by what `note` says of it. -/
def Notes (send : κ → String → σ → Sent × σ) (shown : σ → List α) (note : κ → String → Sent → List α) : Prop :=
  ∀ peer line w, shown (send peer line w).2 = shown w ++ note peer line (send peer line w).1

variable {send : κ → String → σ → Sent × σ} {shown : σ → List α} {note : κ → String → Sent → List α}

theorem Notes.sendEach (h : Notes send shown note) (line : String) (subs : List (Subscriber κ)) (w : σ) :
    let (sends, w') := Server.sendEach (fun peer => send peer line) subs w
    shown w' = shown w ++ sends.flatMap fun (sub, sent) => note sub.peer line sent := by
  induction subs generalizing w with
  | nil => exact (List.append_nil _).symm
  | cons sub subs ih =>
    have hrest := ih (send sub.peer line w).2
    simp only [Server.sendEach, List.flatMap_cons] at hrest ⊢
    rw [hrest, h, List.append_assoc]

/-- The same send in a world that takes note of it. -/
def noting (send : κ → String → σ → Sent × σ) (peer : κ) (line : String) (w : σ × List (κ × String × Sent)) :
    Sent × σ × List (κ × String × Sent) :=
  let (sent, w') := send peer line w.1
  (sent, w', w.2 ++ [(peer, line, sent)])

theorem notes_noting (send : κ → String → σ → Sent × σ) :
    Notes (noting send) Prod.snd fun peer line sent => [(peer, line, sent)] := fun _ _ _ => rfl

/-- Taking note makes no difference to the sends. -/
theorem sendEach_noting (send : κ → String → σ → Sent × σ) (line : String) (subs : List (Subscriber κ))
    (w : σ × List (κ × String × Sent)) :
    let noted := Server.sendEach (fun peer => noting send peer line) subs w
    let plain := Server.sendEach (fun peer => send peer line) subs w.1
    noted.1 = plain.1 ∧ noted.2.1 = plain.2 := by
  induction subs generalizing w with
  | nil => exact ⟨rfl, rfl⟩
  | cons sub subs ih =>
    obtain ⟨hsends, hworld⟩ := ih (noting send sub.peer line w).2
    exact ⟨congrArg ((sub, (send sub.peer line w.1).1) :: ·) hsends, hworld⟩

namespace Lifetime

variable {before : List α} {js : List (Subscriber κ)} {t : Lifetime κ σ} {made : List (Shipment κ)}

/-- All sends so far went to those who joined, and they are what the world has come to show. -/
structure Accounts (shown : σ → List α) (note : κ → String → Sent → List α) (before : List α) (js : List (Subscriber κ))
    (t : Lifetime κ σ) (made : List (Shipment κ)) : Prop where
  sends : t.sends = made.map Shipment.delivery
  targets : ∀ s ∈ made, s.target ∈ js
  shown : shown t.world = before ++ made.flatMap fun s => note s.target.peer s.line s.sent

theorem Accounts.perform (h : t.Accounts shown note before js made) (hnotes : Notes send shown note)
    (hlive : t.server.subscribers ⊆ js) (op : Operation κ) :
    ∃ made', (t.perform send op).Accounts shown note before (js ++ joining op t.server) made' := by
  have htargets : ∀ s ∈ made, s.target ∈ js ++ joining op t.server := fun s hs =>
    List.mem_append_left _ (h.targets s hs)
  cases op with
  | accept | close => exact ⟨made, h.sends, htargets, h.shown⟩
  | broadcast line =>
    have hsubs := map_fst_sendEach (fun peer => send peer line) t.server.subscribers t.world
    have hshown := hnotes.sendEach line t.server.subscribers t.world
    generalize hpass : Server.sendEach (fun peer => send peer line) t.server.subscribers t.world = pass at hsubs hshown
    refine ⟨made ++ pass.1.map fun (sub, sent) => ⟨sub, line, sent⟩, ?_, fun s hs => ?_, ?_⟩
    · simp only [Lifetime.perform, hpass, h.sends, List.map_append, List.map_map]
      rfl
    · rcases List.mem_append.mp hs with hs | hs
      · exact htargets s hs
      · obtain ⟨p, hp, rfl⟩ := List.mem_map.mp hs
        exact List.mem_append_left _ (hlive (hsubs ▸ List.mem_map_of_mem hp))
    · simp only [Lifetime.perform, Server.broadcast, hpass]
      rw [hshown, h.shown, List.append_assoc, List.flatMap_append, List.flatMap_map]

theorem Accounts.run (h : t.Accounts shown note before js made) (hnotes : Notes send shown note)
    (henrolled : t.Enrolled js) (ops : List (Operation κ)) :
    ∃ made', (t.run send ops).Accounts shown note before (js ++ joined send ops t) made' := by
  induction ops generalizing t js made with
  | nil => exact ⟨made, h.sends, fun s hs => List.mem_append_left _ (h.targets s hs), h.shown⟩
  | cons op ops ih =>
    obtain ⟨made', h'⟩ := h.perform hnotes henrolled.live.subset op
    rw [run_cons, joined, ← List.append_assoc]
    exact ih h' (henrolled.perform op)

/-- The sends that a lifetime lists are those that its world has seen. -/
theorem exists_accounts (hnotes : Notes send shown note) (w : σ) (ops : List (Operation κ)) :
    ∃ made, ((begin w).run send ops).Accounts shown note (shown w) (joined send ops (begin w)) made :=
  have hbegin : (begin w : Lifetime κ σ).Accounts shown note (shown w) [] [] :=
    ⟨rfl, fun _ hs => absurd hs List.not_mem_nil, (List.append_nil _).symm⟩
  hbegin.run hnotes (enrolled_begin w) ops

/-- A lifetime without what its world has taken note of. -/
def forget {τ : Type} (t : Lifetime κ (σ × τ)) : Lifetime κ σ := ⟨t.server, t.world.1, t.sends⟩

theorem forget_perform_noting (send : κ → String → σ → Sent × σ) (op : Operation κ)
    (t : Lifetime κ (σ × List (κ × String × Sent))) :
    (t.perform (noting send) op).forget = t.forget.perform send op := by
  cases op with
  | accept | close => rfl
  | broadcast line =>
    obtain ⟨hsends, hworld⟩ := sendEach_noting send line t.server.subscribers t.world
    simp only [Lifetime.perform, Server.broadcast, forget, hsends, hworld]

theorem forget_run_noting (send : κ → String → σ → Sent × σ) (ops : List (Operation κ))
    (t : Lifetime κ (σ × List (κ × String × Sent))) : (t.run (noting send) ops).forget = t.forget.run send ops := by
  induction ops generalizing t with
  | nil => rfl
  | cons op ops ih => rw [run_cons, run_cons, ih, forget_perform_noting]

theorem joined_noting (send : κ → String → σ → Sent × σ) (ops : List (Operation κ))
    (t : Lifetime κ (σ × List (κ × String × Sent))) : joined (noting send) ops t = joined send ops t.forget := by
  induction ops generalizing t with
  | nil => rfl
  | cons op ops ih =>
    rw [joined, joined, ih, forget_perform_noting]
    rfl

/-- Whatever is accepted, broadcast and closed: a world that takes note of each send holds the same sends as the list of
    the lifetime, in the same order, each under the peer that joined with the number of the subscriber. -/
theorem sends_eq_noted (send : κ → String → σ → Sent × σ) (w : σ) (ops : List (Operation κ)) :
    let t := (begin w).run send ops
    let noted := (begin (w, [])).run (noting send) ops
    noted.forget = t ∧
      ∃ made : List (Shipment κ), t.sends = made.map Shipment.delivery ∧
        noted.world.2 = made.map (fun s => (s.target.peer, s.line, s.sent)) ∧
        ∀ s ∈ made, s.target ∈ joined send ops (begin w) := by
  intro t noted
  have hforget : noted.forget = t := forget_run_noting send ops (begin (w, []))
  obtain ⟨made, hmade⟩ := exists_accounts (notes_noting send) (w, []) ops
  refine ⟨hforget, made, ?_, ?_, joined_noting send ops (begin (w, [])) ▸ hmade.targets⟩
  · rw [← hforget]
    exact hmade.sends
  · rw [hmade.shown, List.nil_append, ← List.map_eq_flatMap]

end Lifetime

end KeyFeed.Feed

/-! ### Connections of a machine -/

namespace KeyFeed.Host
open Text Feed

/-- The part of a line that a send took. -/
def taken (line : String) : Sent → List UInt8
  | .took n => (toBytes line).take n
  | .failed _ => []

namespace Connection

theorem take_le (fuel held bytes : Nat) : (take fuel held bytes).1 ≤ bytes := by
  induction fuel generalizing held bytes with
  | zero => exact Nat.zero_le _
  | succ fuel ih =>
    unfold take
    split
    · exact Nat.zero_le _
    · have hrest := ih (held + pieceCost (min bytes pieceBytes)) (bytes - min bytes pieceBytes)
      have hpiece : min bytes pieceBytes ≤ bytes := Nat.min_le_left _ _
      simp only
      omega

theorem send_took_le {line : String} {c : Connection} {n : Nat} (h : (c.send line).1 = .took n) :
    n ≤ line.utf8ByteSize := by
  simp only [send] at h
  split at h
  · cases h
  split at h
  · exact Sent.took.inj h ▸ Nat.zero_le _
  split at h
  · cases h
  · exact Sent.took.inj h ▸ take_le _ _ _

/-- What a connection takes of a line can be read behind what was there before. -/
theorem unread_send (line : String) (c : Connection) :
    (c.send line).2.unread = c.unread ++ taken line (c.send line).1 := by
  simp only [send]
  split
  · exact (List.append_nil _).symm
  split
  · exact (List.append_nil _).symm
  split
  · exact (List.append_nil _).symm
  · rfl

end Connection

namespace Machine

variable {m : Machine} {id peer : Nat}

/-- What can be read over a connection. -/
def unread (id : Nat) (m : Machine) : List UInt8 := ((m.connections[id]?).map Connection.unread).getD []

/-- A machine takes no more of a line than there is. -/
theorem sendLine_took_le {line : String} {n : Nat} (h : (m.sendLine id line).1 = .took n) : n ≤ line.utf8ByteSize := by
  unfold sendLine at h
  split at h
  · cases h
  · exact Connection.send_took_le h

theorem unread_changeConnection (change : Connection → Connection) (c : Connection) (hc : m.connections[peer]? = some c) :
    (m.changeConnection peer change).unread id = if peer = id then (change c).unread else m.unread id := by
  simp only [unread, changeConnection, List.getElem?_modify]
  split
  · next h => rw [← h, hc]; rfl
  · simp

theorem unread_sever : (m.sever peer).unread id = m.unread id := by
  simp only [unread, sever, changeConnection, List.getElem?_modify]
  cases m.connections[id]? with
  | none => rfl
  | some c =>
    simp only [Option.map_eq_map, Option.map_some, Option.getD_some]
    split <;> rfl

/-- What can be read over a connection grows by what the sends over it take. -/
theorem notes_sendLine (id : Nat) :
    Notes sendLine (unread id) fun peer line sent => if peer = id then taken line sent else [] := by
  intro peer line m
  unfold sendLine
  cases hc : m.connections[peer]? with
  | none => simp [taken]
  | some c =>
    have hgrown : (m.changeConnection peer fun _ => (c.send line).2).unread id =
        m.unread id ++ if peer = id then taken line (c.send line).1 else [] := by
      rw [unread_changeConnection _ c hc]
      split
      · next h => rw [Connection.unread_send, unread, ← h, hc]; rfl
      · exact (List.append_nil _).symm
    simp only
    split
    · exact hgrown
    · rw [unread_sever, hgrown]

end Machine

end KeyFeed.Host

namespace KeyFeed.Feed.Lifetime
open Host Text Delivery

variable {i p : Nat} {js : List (Subscriber Nat)} {made : List (Shipment Nat)}

/-- Where no one else has the connection of a subscriber, what was sent over it is what was sent to the subscriber. -/
theorem flatMap_taken (htargets : ∀ s ∈ made, s.target ∈ js) (own : ∀ sub ∈ js, sub.peer = p ↔ sub.id = i) :
    (made.flatMap fun s => if s.target.peer = p then taken s.line s.sent else []) =
      ((made.map Shipment.delivery).filter fun d => d.subscriber == i).flatMap bytes := by
  induction made with
  | nil => rfl
  | cons s made ih =>
    have hrest := ih fun s' hs' => htargets s' (List.mem_cons_of_mem s hs')
    have hown : s.target.peer = p ↔ s.delivery.subscriber = i := own s.target (htargets s List.mem_cons_self)
    rw [List.flatMap_cons, hrest, List.map_cons, List.filter_cons]
    by_cases hi : s.delivery.subscriber = i
    · rw [if_pos (hown.mpr hi), if_pos (beq_iff_eq.mpr hi), List.flatMap_cons]
      rfl
    · rw [if_neg (mt hown.mp hi), if_neg (mt beq_iff_eq.mp hi)]
      rfl

/-- A machine on which no one reads: over the connection of a subscriber that was accepted, and of no other, come the lines
    that are broadcast after that, whole and in their order, and behind them less than all of a line. -/
theorem unread_of_accepted (m : Machine) (before after : List (Operation Nat)) (arrivals : List (Arrival Nat))
    (later : ((begin m).run Machine.sendLine before).server.lastId < i)
    (accepted : i ≤ ((begin m).run Machine.sendLine (before ++ [.accept arrivals])).server.lastId)
    (own : ∀ sub ∈ joined Machine.sendLine (before ++ .accept arrivals :: after) (begin m), sub.peer = p ↔ sub.id = i) :
    let t := (begin m).run Machine.sendLine (before ++ .accept arrivals :: after)
    let lines := linesUntilClose after
    let n := (t.sendsTo i).countP isWhole
    ∃ part, t.world.unread p = m.unread p ++ ((lines.take n).flatMap toBytes ++ part) ∧
      (part = [] ∨ ∃ line, lines[n]? = some line ∧ part <+: toBytes line ∧ part ≠ toBytes line) := by
  intro t lines n
  obtain ⟨made, hmade⟩ := exists_accounts (Machine.notes_sendLine p) m (before ++ .accept arrivals :: after)
  have hdelivered : Delivered lines (t.sendsTo i) :=
    delivered_of_accepted Machine.sendLine m before after arrivals later accepted
  have htook : ∀ d ∈ t.sends, ∀ n, d.sent = .took n → n ≤ d.line.utf8ByteSize :=
    took_le_of_mem_sends (fun _ _ _ _ => Machine.sendLine_took_le) _ (begin m) fun _ h => by cases h
  obtain ⟨part, hbytes, hpart⟩ := hdelivered.bytes_eq fun d hd => htook d (List.mem_filter.mp hd).1
  refine ⟨part, ?_, hpart⟩
  rw [hmade.shown, flatMap_taken hmade.targets own, ← hmade.sends, ← hbytes]
  rfl

end KeyFeed.Feed.Lifetime
