import KeyFeed.Proofs.Feed.Delivery

/-! Who is subscribed. An accept pass takes up the connections that come before the attempt that ends it and gives them
    the numbers that follow the last one given, so over the life of a server the numbers are handed out in their order
    and each of them once. Everyone who is subscribed has joined in some pass, in the same order; a broadcast drops
    exactly those whose send was not whole; and once a server is closed nothing changes any more. -/

namespace KeyFeed.Feed
open Host

variable {κ σ : Type}

/-! ### A pass -/

/-- The connections that a pass takes up: those that can be used and come before the attempt that ends the pass. -/
def takenUp : List (Arrival κ) → List κ
  | [] => []
  | .connection peer :: rest => peer :: takenUp rest
  | .unusable _ :: rest => takenUp rest
  | .interrupted :: rest => takenUp rest
  | .nothing :: _ => []
  | .failed _ :: _ => []

/-- Subscribers with consecutive numbers. -/
def enumerated (first : Nat) : List κ → List (Subscriber κ)
  | [] => []
  | peer :: peers => ⟨first, peer⟩ :: enumerated (first + 1) peers

/-- The number that a notice gives to a new subscriber. -/
def announced? : Notice → Option Nat
  | .subscriberConnected id _ => some id
  | _ => none

theorem map_id_enumerated (first : Nat) (peers : List κ) :
    (enumerated first peers).map Subscriber.id = List.range' first peers.length := by
  induction peers generalizing first with
  | nil => rfl
  | cons peer peers ih => simp [enumerated, ih, List.range'_succ]

theorem map_peer_enumerated (first : Nat) (peers : List κ) : (enumerated first peers).map Subscriber.peer = peers := by
  induction peers generalizing first with
  | nil => rfl
  | cons peer peers ih => simp [enumerated, ih]

namespace Server

theorem subscribers_acceptArrivals (s : Server κ) (arrivals : List (Arrival κ)) :
    (s.acceptArrivals arrivals).server.subscribers = s.subscribers ++ enumerated (s.lastId + 1) (takenUp arrivals) := by
  induction arrivals generalizing s with
  | nil => simp [acceptArrivals, takenUp, enumerated]
  | cons a rest ih =>
    cases a with
    | connection peer => simp [acceptArrivals, takenUp, enumerated, ih, subscribe]
    | unusable | interrupted => exact ih s
    | nothing | failed => simp [acceptArrivals, takenUp, enumerated]

theorem lastId_acceptArrivals (s : Server κ) (arrivals : List (Arrival κ)) :
    (s.acceptArrivals arrivals).server.lastId = s.lastId + (takenUp arrivals).length := by
  induction arrivals generalizing s with
  | nil => rfl
  | cons a rest ih =>
    cases a with
    | connection peer =>
      simp only [acceptArrivals, takenUp, ih, subscribe, List.length_cons]
      omega
    | unusable | interrupted => exact ih s
    | nothing | failed => rfl

/-- A pass reports as many connections as it takes up, and announces each by its number. -/
theorem reports_acceptArrivals (s : Server κ) (arrivals : List (Arrival κ)) :
    (s.acceptArrivals arrivals).accepted = (takenUp arrivals).length ∧
      (s.acceptArrivals arrivals).notices.filterMap announced? =
        List.range' (s.lastId + 1) (takenUp arrivals).length := by
  induction arrivals generalizing s with
  | nil => exact ⟨rfl, rfl⟩
  | cons a rest ih =>
    cases a with
    | connection peer =>
      obtain ⟨haccepted, hnotices⟩ := ih (s.subscribe peer)
      refine ⟨by simp only [acceptArrivals, takenUp, haccepted, List.length_cons], ?_⟩
      simp only [acceptArrivals, takenUp, List.filterMap_cons, announced?, hnotices, List.length_cons, List.range'_succ]
      rfl
    | unusable | interrupted => exact ih s
    | nothing | failed => exact ⟨rfl, rfl⟩

/-- An attempt that fails ends the pass, and what was taken up before it stays. -/
theorem acceptArrivals_append_failed (s : Server κ) (arrivals rest : List (Arrival κ)) (e : OsError) :
    (s.acceptArrivals (arrivals ++ .failed e :: rest)).server = (s.acceptArrivals arrivals).server ∧
      (s.acceptArrivals (arrivals ++ .failed e :: rest)).accepted = (s.acceptArrivals arrivals).accepted := by
  induction arrivals generalizing s with
  | nil => exact ⟨rfl, rfl⟩
  | cons a arrivals ih =>
    cases a with
    | connection peer =>
      obtain ⟨hserver, haccepted⟩ := ih (s.subscribe peer)
      exact ⟨hserver, congrArg (· + 1) haccepted⟩
    | unusable | interrupted => exact ih s
    | nothing | failed => exact ⟨rfl, rfl⟩

/-- What a pass takes up of what arrives, which is nothing if the server does not listen. -/
def welcomes (s : Server κ) (arrivals : List (Arrival κ)) : List κ := if s.listening then takenUp arrivals else []

theorem accept_append_failed (s : Server κ) (arrivals rest : List (Arrival κ)) (e : OsError) :
    (s.accept (arrivals ++ .failed e :: rest)).server = (s.accept arrivals).server ∧
      (s.accept (arrivals ++ .failed e :: rest)).accepted = (s.accept arrivals).accepted := by
  simp only [accept]
  split
  · exact s.acceptArrivals_append_failed arrivals rest e
  · exact ⟨rfl, rfl⟩

theorem accept_server (s : Server κ) (arrivals : List (Arrival κ)) :
    (s.accept arrivals).server.subscribers = s.subscribers ++ enumerated (s.lastId + 1) (s.welcomes arrivals) ∧
      (s.accept arrivals).server.lastId = s.lastId + (s.welcomes arrivals).length := by
  rw [accept, welcomes]
  split
  · exact ⟨s.subscribers_acceptArrivals arrivals, s.lastId_acceptArrivals arrivals⟩
  · exact ⟨(List.append_nil _).symm, rfl⟩

theorem accept_reports (s : Server κ) (arrivals : List (Arrival κ)) :
    (s.accept arrivals).accepted = (s.welcomes arrivals).length ∧
      (s.accept arrivals).notices.filterMap announced? = List.range' (s.lastId + 1) (s.welcomes arrivals).length := by
  rw [accept, welcomes]
  split
  · exact s.reports_acceptArrivals arrivals
  · exact ⟨rfl, rfl⟩

/-- Where the numbers differ, those are kept whose own send was whole. -/
theorem kept_eq_filter (bytes : Nat) (sends : List (Subscriber κ × Sent))
    (hids : ((sends.map Prod.fst).map Subscriber.id).Nodup) : kept bytes sends =
      (sends.map Prod.fst).filter fun sub =>
        sends.any fun (other, sent) => other.id == sub.id && (sent.fault? bytes).isNone := by
  induction sends with
  | nil => rfl
  | cons p sends ih =>
    obtain ⟨sub, sent⟩ := p
    obtain ⟨hnew, hids⟩ := List.nodup_cons.mp hids
    have hother : ∀ q ∈ sends, q.1.id ≠ sub.id := fun q hq heq =>
      hnew (List.mem_map.mpr ⟨q.1, List.mem_map_of_mem hq, heq⟩)
    have hhead : (sends.any fun (other, sent) => other.id == sub.id && (sent.fault? bytes).isNone) = false := by
      refine List.any_eq_false.mpr fun q hq => ?_
      simp [hother q hq]
    have htail : ((sends.map Prod.fst).filter fun x => ((sub, sent) :: sends).any fun (other, sent) =>
        other.id == x.id && (sent.fault? bytes).isNone) = kept bytes sends := by
      rw [ih hids]
      refine List.filter_congr fun x hx => ?_
      obtain ⟨q, hq, rfl⟩ := List.mem_map.mp hx
      simp [(hother q hq).symm]
    rw [List.map_cons, List.filter_cons, htail, List.any_cons, hhead]
    cases hsent : (sent.fault? bytes).isNone <;> simp [kept, hsent]

end Server

/-! ### A lifetime -/

namespace Lifetime

variable {send : κ → String → σ → Sent × σ} {t : Lifetime κ σ} {js : List (Subscriber κ)}

/-- Those who join in an operation. -/
def joining : Operation κ → Server κ → List (Subscriber κ)
  | .accept arrivals, s => (s.accept arrivals).server.subscribers.drop s.subscribers.length
  | .broadcast _, _ => []
  | .close, _ => []

/-- Those who join in one of the operations. -/
def joined (send : κ → String → σ → Sent × σ) : List (Operation κ) → Lifetime κ σ → List (Subscriber κ)
  | [], _ => []
  | op :: ops, t => joining op t.server ++ joined send ops (t.perform send op)

theorem joining_accept (arrivals : List (Arrival κ)) (s : Server κ) :
    joining (.accept arrivals) s = enumerated (s.lastId + 1) (s.welcomes arrivals) := by
  rw [joining, (s.accept_server arrivals).1, List.drop_left]

/-- The numbers of all who joined are those that were given, in their order, and whoever is subscribed has joined. -/
structure Enrolled (t : Lifetime κ σ) (js : List (Subscriber κ)) : Prop where
  ids : js.map Subscriber.id = List.range' 1 t.server.lastId
  live : t.server.subscribers.Sublist js

theorem kept_sublist (bytes : Nat) (sends : List (Subscriber κ × Sent)) :
    (Server.kept bytes sends).Sublist (sends.map Prod.fst) := List.filter_sublist.map Prod.fst

theorem subscribers_broadcast_sublist (send : κ → String → σ → Sent × σ) (line : String) (t : Lifetime κ σ) :
    (t.perform send (.broadcast line)).server.subscribers.Sublist t.server.subscribers := by
  have hsubs := map_fst_sendEach (fun peer => send peer line) t.server.subscribers t.world
  rw [← hsubs]
  exact kept_sublist line.utf8ByteSize _

theorem Enrolled.perform (h : t.Enrolled js) (op : Operation κ) :
    (t.perform send op).Enrolled (js ++ joining op t.server) := by
  cases op with
  | accept arrivals =>
    obtain ⟨hsubscribers, hlast⟩ := t.server.accept_server arrivals
    refine ⟨?_, ?_⟩
    · rw [joining_accept, List.map_append, h.ids, map_id_enumerated, Nat.add_comm t.server.lastId 1,
        List.range'_append_1]
      exact congrArg (List.range' 1) hlast.symm
    · show (t.server.accept arrivals).server.subscribers.Sublist _
      rw [hsubscribers, joining_accept]
      exact h.live.append_right _
  | broadcast line =>
    rw [joining, List.append_nil]
    exact ⟨h.ids, (subscribers_broadcast_sublist send line t).trans h.live⟩
  | close =>
    rw [joining, List.append_nil]
    exact ⟨h.ids, List.nil_sublist js⟩

theorem Enrolled.run (h : t.Enrolled js) (ops : List (Operation κ)) :
    (t.run send ops).Enrolled (js ++ joined send ops t) := by
  induction ops generalizing t js with
  | nil => simpa [joined] using h
  | cons op ops ih =>
    rw [run_cons, joined, ← List.append_assoc]
    exact ih (h.perform op)

/-- The server no longer listens, and no one is subscribed. -/
def IsClosed (t : Lifetime κ σ) : Prop := t.server.listening = false ∧ t.server.subscribers = []

/-- Nothing that is done to a closed server changes anything, and no one is sent a line. -/
theorem IsClosed.perform (h : t.IsClosed) (op : Operation κ) : t.perform send op = t := by
  obtain ⟨⟨listening, subscribers, lastId⟩, w, sends⟩ := t
  obtain ⟨rfl, rfl⟩ : listening = false ∧ subscribers = [] := h
  cases op with
  | accept | close => rfl
  | broadcast line => simp [Lifetime.perform, Server.broadcast, Server.sendEach, Server.kept]

theorem IsClosed.run (h : t.IsClosed) (ops : List (Operation κ)) : t.run send ops = t := by
  induction ops with
  | nil => rfl
  | cons op ops ih => rw [run_cons, h.perform, ih]

theorem isClosed_of_mem {ops : List (Operation κ)} (h : .close ∈ ops) : (t.run send ops).IsClosed := by
  obtain ⟨before, after, rfl⟩ := List.append_of_mem h
  have hclosed : ((t.run send before).perform send .close).IsClosed := ⟨rfl, rfl⟩
  rw [run_append, run_cons, hclosed.run]
  exact hclosed

theorem enrolled_begin (w : σ) : (begin w : Lifetime κ σ).Enrolled [] := ⟨rfl, List.nil_sublist []⟩

/-- A broadcast sends the line to everyone once, and drops exactly those whose send was not whole. -/
theorem subscribers_broadcast (send : κ → String → σ → Sent × σ) (line : String) (t : Lifetime κ σ)
    (hids : (t.server.subscribers.map Subscriber.id).Nodup) :
    let after := t.perform send (.broadcast line)
    let new := after.sends.drop t.sends.length
    new.map Delivery.subscriber = t.server.subscribers.map Subscriber.id ∧
      after.server.subscribers = t.server.subscribers.filter fun sub =>
        new.any fun d => d.subscriber == sub.id && d.isWhole := by
  intro after new
  have hsubs := map_fst_sendEach (fun peer => send peer line) t.server.subscribers t.world
  generalize hsends : (Server.sendEach (fun peer => send peer line) t.server.subscribers t.world).1 = sends at hsubs
  have hnew : new = sends.map fun (sub, sent) => ⟨sub.id, line, sent⟩ := by
    simp only [new, after, perform, hsends, List.drop_left]
  have hkept : after.server.subscribers = Server.kept line.utf8ByteSize sends := by
    simp only [after, perform, Server.broadcast, hsends]
  rw [← hsubs] at hids ⊢
  refine ⟨by simp [hnew], ?_⟩
  rw [hkept, hnew, Server.kept_eq_filter _ _ hids]
  simp only [List.any_map]
  rfl

/-- Whatever is accepted, broadcast and closed, and whatever becomes of each send: the numbers of all who ever joined
    are distinct and come in increasing order, and those who are subscribed are some of them, in the same order. A
    broadcast sends its line to each of these once, keeps exactly those whose send was whole, and returns how many those
    are. An accept pass puts at the end as many as it reports, which are the connections that come before the attempt
    that ends it, with numbers that no one had before; an error at the end takes nothing of that back. Once the server
    is closed no one is subscribed, and nothing that is done to it changes anything or reaches anyone. -/
theorem subscribers_sublist_joined (send : κ → String → σ → Sent × σ) (w : σ) (ops : List (Operation κ)) :
    let t := (begin w).run send ops
    let everyone := joined send ops (begin w)
    let live := t.server.subscribers
    ((everyone.map Subscriber.id).Pairwise (· < ·) ∧ live.Sublist everyone ∧
      (live.map Subscriber.id).Pairwise (· < ·)) ∧
    (∀ line, let after := t.perform send (.broadcast line)
      let new := after.sends.drop t.sends.length
      new.map Delivery.subscriber = live.map Subscriber.id ∧
        after.server.subscribers = live.filter (fun sub => new.any fun d => d.subscriber == sub.id && d.isWhole) ∧
        (t.server.broadcast send line t.world).1 = after.server.subscribers.length ∧
        (t.server.broadcast send line t.world).1 = new.countP Delivery.isWhole) ∧
    (∀ arrivals, let pass := t.server.accept arrivals
      (∃ new, pass.server.subscribers = live ++ new ∧ new.length = pass.accepted ∧
        new.map Subscriber.peer = (if t.server.listening then takenUp arrivals else []) ∧
        new.map Subscriber.id = pass.notices.filterMap announced? ∧
        ∀ sub ∈ new, ∀ former ∈ everyone, former.id < sub.id) ∧
      ∀ e rest, let broken := t.server.accept (arrivals ++ .failed e :: rest)
        broken.server = pass.server ∧ broken.accepted = pass.accepted) ∧
    (.close ∈ ops → live = [] ∧ (∀ op, t.perform send op = t) ∧
      (∀ arrivals, (t.server.accept arrivals).accepted = 0) ∧
      ∀ line, (t.server.broadcast send line t.world).1 = 0) := by
  intro t everyone live
  have henrolled : t.Enrolled everyone := (enrolled_begin w).run ops
  have hall : (everyone.map Subscriber.id).Pairwise (· < ·) := henrolled.ids ▸ List.pairwise_lt_range'
  have hlive : (live.map Subscriber.id).Pairwise (· < ·) := hall.sublist (henrolled.live.map Subscriber.id)
  refine ⟨⟨hall, henrolled.live, hlive⟩, fun line => ?_, fun arrivals => ⟨?_, fun e rest => ?_⟩, fun hclose => ?_⟩
  · obtain ⟨hsent, hkept⟩ := subscribers_broadcast send line t (hlive.imp Nat.ne_of_lt)
    exact ⟨hsent, hkept, rfl, broadcast_count line t⟩
  · obtain ⟨haccepted, hnotices⟩ := t.server.accept_reports arrivals
    refine ⟨enumerated (t.server.lastId + 1) (t.server.welcomes arrivals), (t.server.accept_server arrivals).1, ?_,
      map_peer_enumerated _ _, (map_id_enumerated _ _).trans hnotices.symm, fun sub hsub former hformer => ?_⟩
    · rw [haccepted, ← List.length_map Subscriber.peer, map_peer_enumerated]
    · have hnew : sub.id ∈ List.range' (t.server.lastId + 1) _ := map_id_enumerated _ _ ▸ List.mem_map_of_mem hsub
      have hold : former.id ∈ List.range' 1 t.server.lastId := henrolled.ids ▸ List.mem_map_of_mem hformer
      rw [List.mem_range'_1] at hnew hold
      omega
  · exact t.server.accept_append_failed arrivals rest e
  · have hclosed : t.IsClosed := isClosed_of_mem hclose
    refine ⟨hclosed.2, hclosed.perform, fun arrivals => ?_, fun line => ?_⟩
    · rw [(t.server.accept_reports arrivals).1, Server.welcomes, hclosed.1]
      rfl
    · show (t.perform send (.broadcast line)).server.subscribers.length = 0
      rw [hclosed.perform, hclosed.2, List.length_nil]

/-- One of two subscribers is gone when a line is sent. The next pass gives a new number and ends in an error, and what
    comes after the server is closed reaches no one. -/
theorem subscribers_sublist_joined_closed :
    let send (peer : Nat) (line : String) (gone : Nat) : Sent × Nat :=
      (if peer = gone then .failed .brokenPipe else .took line.utf8ByteSize, gone)
    let before : List (Operation Nat) := [
      .accept [.connection 8, .interrupted, .unusable .invalidArgument, .connection 7, .nothing], .broadcast "ab\n",
      .accept [.connection 9, .failed .invalidArgument, .connection 6]]
    let ops := before ++ [.close, .accept [.connection 5], .broadcast "cd\n"]
    ((begin 8).run send before).server.subscribers = [⟨2, 7⟩, ⟨3, 9⟩] ∧
      joined send ops (begin 8) = [⟨1, 8⟩, ⟨2, 7⟩, ⟨3, 9⟩] ∧ Operation.close ∈ ops ∧
      ((begin 8).run send ops).server.subscribers = [] := by
  intro send before ops
  have hclose : Operation.close ∈ ops := by simp [ops]
  exact ⟨by decide, by decide, hclose, ((subscribers_sublist_joined send 8 ops).2.2.2 hclose).1⟩

end Lifetime

end KeyFeed.Feed
