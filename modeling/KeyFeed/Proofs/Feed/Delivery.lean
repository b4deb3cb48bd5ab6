import KeyFeed.Feed.Subscribers
import KeyFeed.Text.Utf8

/-! What each subscriber receives. A `Lifetime` follows a server through any sequence of accept passes, broadcasts and
    closings and keeps a list of all sends. A subscriber is sent the lines that are broadcast after its acceptance, one
    after another, until a send is not whole or the server closes, and nothing after that, whatever becomes of the
    sends to others. -/

namespace KeyFeed.Feed
open Host Text

/-- One send of a line to a subscriber. -/
structure Delivery where
  subscriber : Nat
  line : String
  sent : Sent
  deriving DecidableEq, Repr

namespace Delivery

/-- Whether all of the line was taken. -/
def isWhole (d : Delivery) : Bool := (d.sent.fault? d.line.utf8ByteSize).isNone

/-- The bytes that were taken. -/
def bytes (d : Delivery) : List UInt8 :=
  match d.sent with
  | .took n => (toBytes d.line).take n
  | .failed _ => []

theorem length_toBytes (s : String) : (toBytes s).length = s.utf8ByteSize := rfl

theorem bytes_of_isWhole {d : Delivery} (h : d.isWhole = true) : d.bytes = toBytes d.line := by
  obtain ⟨subscriber, line, sent⟩ := d
  cases sent with
  | took n =>
    have hn : n = line.utf8ByteSize := by simpa [isWhole, Sent.fault?] using h
    subst hn
    exact List.take_of_length_le (Nat.le_of_eq (length_toBytes line))
  | failed e => cases h

/-- Of a line that was not taken whole, less was taken, if no more is ever taken than there is. -/
theorem bytes_of_not_isWhole {d : Delivery} (h : d.isWhole = false)
    (hn : ∀ n, d.sent = .took n → n ≤ d.line.utf8ByteSize) :
    d.bytes = [] ∨ d.bytes <+: toBytes d.line ∧ d.bytes ≠ toBytes d.line := by
  obtain ⟨subscriber, line, sent⟩ := d
  cases sent with
  | took n =>
    have hle : n ≤ line.utf8ByteSize := hn n rfl
    have hne : n ≠ line.utf8ByteSize := by
      rintro rfl
      simp [isWhole, Sent.fault?] at h
    refine Or.inr ⟨List.take_prefix _ _, fun heq => hne ?_⟩
    have hlength := congrArg List.length heq
    simp only [bytes, List.length_take, length_toBytes] at hlength
    omega
  | failed e => exact Or.inl rfl

end Delivery

open Delivery

/-- The sends to a subscriber while lines are broadcast: it is sent one line after another, up to the first send that
    is not whole. -/
inductive Delivered : List String → List Delivery → Prop where
  | done : Delivered [] []
  | whole {lines : List String} {d : Delivery} {sends : List Delivery} (h : d.isWhole = true)
    (rest : Delivered lines sends) : Delivered (d.line :: lines) (d :: sends)
  | broken {lines : List String} {d : Delivery} (h : d.isWhole = false) : Delivered (d.line :: lines) [d]

namespace Delivered

variable {lines : List String} {sends sends' : List Delivery}

theorem order (h : Delivered lines sends) : sends.map Delivery.line <+: lines := by
  induction h with
  | done => exact List.prefix_rfl
  | whole h rest ih => exact List.cons_prefix_cons.mpr ⟨rfl, ih⟩
  | broken h => exact List.cons_prefix_cons.mpr ⟨rfl, List.nil_prefix⟩

/-- Only the last send can be one that is not whole. -/
theorem whole_of_mem_dropLast (h : Delivered lines sends) : ∀ d ∈ sends.dropLast, d.isWhole = true := by
  induction h with
  | done => simp
  | @whole lines d sends h rest ih =>
    cases sends with
    | nil => simp
    | cons d' sends =>
      intro e he
      rcases List.mem_cons.mp he with rfl | he
      · exact h
      · exact ih e he
  | broken h => simp

/-- Lines are left out only behind a send that was not whole. -/
theorem broken_of_length_lt (h : Delivered lines sends) (hlt : sends.length < lines.length) :
    ∃ d ∈ sends.getLast?, d.isWhole = false := by
  induction h with
  | done => cases hlt
  | @whole lines d sends h rest ih =>
    obtain ⟨e, he, hb⟩ := ih (Nat.lt_of_succ_lt_succ hlt)
    refine ⟨e, ?_, hb⟩
    cases sends with
    | nil => cases he
    | cons d' sends => exact he
  | @broken lines d h => exact ⟨d, rfl, h⟩

/-- The subscriber gets whole lines and, behind them, at most a part of the line of the send that was not whole. -/
theorem bytes_eq (h : Delivered lines sends)
    (hn : ∀ d ∈ sends, ∀ n, d.sent = .took n → n ≤ d.line.utf8ByteSize) :
    ∃ part, sends.flatMap bytes = (lines.take (sends.countP isWhole)).flatMap toBytes ++ part ∧
      (part = [] ∨ ∃ line, lines[sends.countP isWhole]? = some line ∧ part <+: toBytes line ∧ part ≠ toBytes line) := by
  induction h with
  | done => exact ⟨[], rfl, Or.inl rfl⟩
  | @whole lines d sends h rest ih =>
    obtain ⟨part, heq, hpart⟩ := ih fun e he => hn e (List.mem_cons_of_mem d he)
    refine ⟨part, ?_, ?_⟩
    · simp [h, heq, bytes_of_isWhole h]
    · simpa [h] using hpart
  | @broken lines d h =>
    refine ⟨d.bytes, by simp [h], ?_⟩
    rcases bytes_of_not_isWhole h (hn d List.mem_cons_self) with hnone | hpart
    · exact Or.inl hnone
    · exact Or.inr ⟨d.line, by simp [h], hpart⟩

/-- Sends to the same subscriber of which the same becomes, as far as there are both. -/
structure Alike (sends sends' : List Delivery) : Prop where
  subscriber : ∀ d ∈ sends, ∀ d' ∈ sends', d.subscriber = d'.subscriber
  sent : ∀ (k : Nat) d d', sends[k]? = some d → sends'[k]? = some d' → d.sent = d'.sent

theorem Alike.tail {d d' : Delivery} (h : Alike (d :: sends) (d' :: sends')) : Alike sends sends' where
  subscriber e he e' he' := h.subscriber e (List.mem_cons_of_mem d he) e' (List.mem_cons_of_mem d' he')
  sent k := h.sent (k + 1)

theorem Alike.head_eq {d d' : Delivery} (h : Alike (d :: sends) (d' :: sends')) (hl : d.line = d'.line) : d = d' := by
  have hi : d.subscriber = d'.subscriber := h.subscriber d List.mem_cons_self d' List.mem_cons_self
  have ho : d.sent = d'.sent := h.sent 0 d d' rfl rfl
  obtain ⟨subscriber, line, sent⟩ := d
  cases hi
  cases ho
  cases hl
  rfl

/-- What a subscriber is sent follows from what becomes of the sends to it. -/
theorem unique (h : Delivered lines sends) (h' : Delivered lines sends') (ha : Alike sends sends') : sends = sends' := by
  induction h generalizing sends' with
  | done =>
    cases h'
    rfl
  | @whole lines d sends hd rest ih =>
    generalize hl : d.line :: lines = all at h'
    cases h' with
    | done => cases hl
    | @whole lines' d' sends' hd' rest' =>
      obtain ⟨hline, rfl⟩ := List.cons.inj hl
      rw [ha.head_eq hline, ih rest' ha.tail]
    | @broken lines' d' hd' =>
      obtain ⟨hline, rfl⟩ := List.cons.inj hl
      rw [ha.head_eq hline, hd'] at hd
      cases hd
  | @broken lines d hd =>
    generalize hl : d.line :: lines = all at h'
    cases h' with
    | done => cases hl
    | @whole lines' d' sends' hd' rest' =>
      obtain ⟨hline, rfl⟩ := List.cons.inj hl
      rw [ha.head_eq hline, hd'] at hd
      cases hd
    | @broken lines' d' hd' =>
      obtain ⟨hline, rfl⟩ := List.cons.inj hl
      rw [ha.head_eq hline]

end Delivered

/-! ### Lifetimes -/

/-- What can happen to a server. -/
inductive Operation (κ : Type) where
  | accept (arrivals : List (Arrival κ))
  | broadcast (line : String)
  | close
  deriving DecidableEq, Repr

/-- The lines that are broadcast until the server closes. -/
def linesUntilClose {κ : Type} : List (Operation κ) → List String
  | [] => []
  | .accept _ :: ops => linesUntilClose ops
  | .broadcast line :: ops => line :: linesUntilClose ops
  | .close :: _ => []

/-- A server in its world, and all its sends so far. -/
structure Lifetime (κ σ : Type) where
  server : Server κ
  world : σ
  sends : List Delivery

namespace Lifetime

variable {κ σ : Type}

def begin (w : σ) : Lifetime κ σ := ⟨.opened, w, []⟩

def perform (send : κ → String → σ → Sent × σ) : Operation κ → Lifetime κ σ → Lifetime κ σ
  | .accept arrivals, t => { t with server := (t.server.accept arrivals).server }
  | .broadcast line, t =>
    let (_, server, _, w) := t.server.broadcast send line t.world
    let sends := (Server.sendEach (fun peer => send peer line) t.server.subscribers t.world).1
    ⟨server, w, t.sends ++ sends.map fun (sub, sent) => ⟨sub.id, line, sent⟩⟩
  | .close, t => { t with server := t.server.close }

/-- Performs the operations one after another. -/
def run (send : κ → String → σ → Sent × σ) (ops : List (Operation κ)) (t : Lifetime κ σ) : Lifetime κ σ :=
  ops.foldl (fun t op => t.perform send op) t

@[simp] theorem run_nil (send : κ → String → σ → Sent × σ) (t : Lifetime κ σ) : t.run send [] = t := rfl

@[simp] theorem run_cons (send : κ → String → σ → Sent × σ) (op : Operation κ) (ops : List (Operation κ))
    (t : Lifetime κ σ) : t.run send (op :: ops) = (t.perform send op).run send ops := rfl

theorem run_append (send : κ → String → σ → Sent × σ) (ops ops' : List (Operation κ)) (t : Lifetime κ σ) :
    t.run send (ops ++ ops') = (t.run send ops).run send ops' := List.foldl_append

/-- The sends to one subscriber. -/
def sendsTo (i : Nat) (t : Lifetime κ σ) : List Delivery := t.sends.filter fun d => d.subscriber == i

/-! ### One operation -/

/-- The subscriptions under one number. -/
def under (i : Nat) (s : Server κ) : List (Subscriber κ) := s.subscribers.filter fun sub => sub.id == i

variable {send : κ → String → σ → Sent × σ} {i : Nat}

theorem map_fst_sendEach (send : κ → σ → Sent × σ) (subs : List (Subscriber κ)) (w : σ) :
    (Server.sendEach send subs w).1.map Prod.fst = subs := by
  induction subs generalizing w with
  | nil => rfl
  | cons sub subs ih => exact congrArg (sub :: ·) (ih _)

theorem exists_send_of_mem {send : κ → σ → Sent × σ} {subs : List (Subscriber κ)} {w : σ} {p : Subscriber κ × Sent}
    (h : p ∈ (Server.sendEach send subs w).1) : ∃ w', (send p.1.peer w').1 = p.2 := by
  induction subs generalizing w with
  | nil => cases h
  | cons sub subs ih =>
    rcases List.mem_cons.mp h with rfl | h
    · exact ⟨w, rfl⟩
    · exact ih h

theorem kept_singleton (bytes : Nat) (sub : Subscriber κ) (sent : Sent) :
    Server.kept bytes [(sub, sent)] = if (sent.fault? bytes).isNone then [sub] else [] := by
  simp only [Server.kept, List.filter_cons, List.filter_nil]
  split <;> rfl

/-- Everyone who is subscribed is sent the line once, and remains subscribed if that send is whole. -/
theorem perform_broadcast (send : κ → String → σ → Sent × σ) (i : Nat) (line : String) (t : Lifetime κ σ) :
    ∃ own : List (Subscriber κ × Sent), own.map Prod.fst = under i t.server ∧
      (t.perform send (.broadcast line)).sendsTo i =
        t.sendsTo i ++ own.map (fun (sub, sent) => ⟨sub.id, line, sent⟩) ∧
      under i (t.perform send (.broadcast line)).server = Server.kept line.utf8ByteSize own := by
  have hsubs := map_fst_sendEach (fun peer => send peer line) t.server.subscribers t.world
  generalize hsends : (Server.sendEach (fun peer => send peer line) t.server.subscribers t.world).1 = sends at hsubs
  refine ⟨sends.filter fun (sub, _) => sub.id == i, ?_, ?_, ?_⟩
  · rw [under, ← hsubs, List.filter_map]
    rfl
  · simp only [perform, sendsTo, hsends, List.filter_append, List.filter_map]
    rfl
  · simp only [perform, under, Server.broadcast, hsends, Server.kept, List.filter_map, List.filter_filter]
    exact congrArg (List.map Prod.fst) (List.filter_congr fun _ _ => Bool.and_comm _ _)

theorem under_subscribe (i : Nat) (s : Server κ) (peer : κ) :
    under i (s.subscribe peer) = under i s ++ if s.lastId + 1 = i then [⟨s.lastId + 1, peer⟩] else [] := by
  simp [under, Server.subscribe, List.filter_cons]

theorem lastId_le_acceptArrivals (s : Server κ) (arrivals : List (Arrival κ)) :
    s.lastId ≤ (s.acceptArrivals arrivals).server.lastId := by
  induction arrivals generalizing s with
  | nil => exact Nat.le_refl _
  | cons a rest ih =>
    cases a with
    | connection peer => exact Nat.le_of_succ_le (ih (s.subscribe peer))
    | unusable | interrupted => exact ih s
    | nothing | failed => exact Nat.le_refl _

/-- A pass leaves alone what is under numbers that it does not give. -/
theorem under_acceptArrivals (s : Server κ) (arrivals : List (Arrival κ))
    (hi : i ≤ s.lastId ∨ (s.acceptArrivals arrivals).server.lastId < i) :
    under i (s.acceptArrivals arrivals).server = under i s := by
  induction arrivals generalizing s with
  | nil => rfl
  | cons a rest ih =>
    cases a with
    | connection peer =>
      have hlast := lastId_le_acceptArrivals (s.subscribe peer) rest
      rw [Server.acceptArrivals] at hi ⊢
      have hne : s.lastId + 1 ≠ i := by
        rcases hi with hi | hi
        · exact Nat.ne_of_gt (Nat.lt_succ_of_le hi)
        · exact Nat.ne_of_lt (Nat.lt_of_le_of_lt hlast hi)
      rw [ih (s.subscribe peer) (hi.imp_left Nat.le_succ_of_le), under_subscribe, if_neg hne, List.append_nil]
    | unusable | interrupted => exact ih s hi
    | nothing | failed => rfl

/-- A pass gives each of its numbers to one subscription. -/
theorem under_acceptArrivals_new (s : Server κ) (arrivals : List (Arrival κ)) (hi : s.lastId < i)
    (hlast : i ≤ (s.acceptArrivals arrivals).server.lastId) :
    ∃ sub : Subscriber κ, sub.id = i ∧ under i (s.acceptArrivals arrivals).server = under i s ++ [sub] := by
  induction arrivals generalizing s with
  | nil => exact absurd hlast (Nat.not_le.mpr hi)
  | cons a rest ih =>
    cases a with
    | connection peer =>
      rw [Server.acceptArrivals]
      by_cases he : s.lastId + 1 = i
      · refine ⟨⟨s.lastId + 1, peer⟩, he, ?_⟩
        rw [under_acceptArrivals _ rest (Or.inl (Nat.le_of_eq he.symm)), under_subscribe, if_pos he]
      · obtain ⟨sub, hid, hunder⟩ := ih (s.subscribe peer) (Nat.lt_of_le_of_ne hi he) hlast
        refine ⟨sub, hid, ?_⟩
        rw [hunder, under_subscribe, if_neg he, List.append_nil]
    | unusable | interrupted => exact ih s hi hlast
    | nothing | failed => exact absurd hlast (Nat.not_le.mpr hi)

/-- An accept pass takes up what arrives, or nothing happens in it. -/
theorem accept_cases (s : Server κ) (arrivals : List (Arrival κ)) :
    (s.accept arrivals).server = (s.acceptArrivals arrivals).server ∨ (s.accept arrivals).server = s := by
  unfold Server.accept
  split
  · exact Or.inl rfl
  · exact Or.inr rfl

theorem under_accept (s : Server κ) (arrivals : List (Arrival κ))
    (hi : i ≤ s.lastId ∨ (s.accept arrivals).server.lastId < i) :
    under i (s.accept arrivals).server = under i s := by
  rcases accept_cases s arrivals with h | h
  · rw [h] at hi ⊢
    exact under_acceptArrivals s arrivals hi
  · rw [h]

theorem under_accept_new (s : Server κ) (arrivals : List (Arrival κ)) (hi : s.lastId < i)
    (hlast : i ≤ (s.accept arrivals).server.lastId) :
    ∃ sub : Subscriber κ, sub.id = i ∧ under i (s.accept arrivals).server = under i s ++ [sub] := by
  rcases accept_cases s arrivals with h | h
  · rw [h] at hlast ⊢
    exact under_acceptArrivals_new s arrivals hi hlast
  · rw [h] at hlast
    exact absurd hlast (Nat.not_le.mpr hi)

/-- The numbers that a pass gives depend on nothing but the number given before and whether the server listens. -/
theorem acceptArrivals_congr (s s' : Server κ) (arrivals : List (Arrival κ)) (hlistening : s.listening = s'.listening)
    (hlast : s.lastId = s'.lastId) :
    (s.acceptArrivals arrivals).server.listening = (s'.acceptArrivals arrivals).server.listening ∧
      (s.acceptArrivals arrivals).server.lastId = (s'.acceptArrivals arrivals).server.lastId := by
  induction arrivals generalizing s s' with
  | nil => exact ⟨hlistening, hlast⟩
  | cons a rest ih =>
    cases a with
    | connection peer => exact ih (s.subscribe peer) (s'.subscribe peer) hlistening (congrArg (· + 1) hlast)
    | unusable | interrupted => exact ih s s' hlistening hlast
    | nothing | failed => exact ⟨hlistening, hlast⟩

theorem accept_congr (s s' : Server κ) (arrivals : List (Arrival κ)) (hlistening : s.listening = s'.listening)
    (hlast : s.lastId = s'.lastId) :
    (s.accept arrivals).server.listening = (s'.accept arrivals).server.listening ∧
      (s.accept arrivals).server.lastId = (s'.accept arrivals).server.lastId := by
  simp only [Server.accept, ← hlistening]
  split
  · exact acceptArrivals_congr s s' arrivals hlistening hlast
  · exact ⟨hlistening, hlast⟩

theorem lastId_le_perform (send : κ → String → σ → Sent × σ) (op : Operation κ) (t : Lifetime κ σ) :
    t.server.lastId ≤ (t.perform send op).server.lastId := by
  cases op with
  | accept arrivals =>
    rcases accept_cases t.server arrivals with h | h
    · simpa only [perform, h] using lastId_le_acceptArrivals t.server arrivals
    · simp only [perform, h, Nat.le_refl]
  | broadcast | close => exact Nat.le_refl _

/-! ### All operations -/

/-- Numbers that were not given yet are under no one, and nothing was sent to them. -/
def Numbered (t : Lifetime κ σ) : Prop := ∀ i, t.server.lastId < i → under i t.server = [] ∧ t.sendsTo i = []

theorem numbered_begin (w : σ) : (begin w : Lifetime κ σ).Numbered := fun _ _ => ⟨rfl, rfl⟩

theorem Numbered.perform {t : Lifetime κ σ} (h : t.Numbered) (op : Operation κ) : (t.perform send op).Numbered := by
  intro i hi
  obtain ⟨hunder, hsends⟩ := h i (Nat.lt_of_le_of_lt (lastId_le_perform send op t) hi)
  cases op with
  | accept arrivals =>
    exact ⟨(under_accept t.server arrivals (Or.inr hi)).trans hunder, hsends⟩
  | broadcast line =>
    obtain ⟨own, hown, hsendsTo, hkept⟩ := perform_broadcast send i line t
    obtain rfl : own = [] := List.map_eq_nil_iff.mp (hown.trans hunder)
    exact ⟨hkept, by rw [hsendsTo, hsends]; rfl⟩
  | close => exact ⟨rfl, hsends⟩

theorem Numbered.run {t : Lifetime κ σ} (h : t.Numbered) (ops : List (Operation κ)) : (t.run send ops).Numbered := by
  induction ops generalizing t with
  | nil => exact h
  | cons op ops ih => exact ih (h.perform op)

/-- A subscriber that is gone stays away, and nothing is sent to it. -/
theorem sendsTo_run_of_gone (ops : List (Operation κ)) (t : Lifetime κ σ) (hi : i ≤ t.server.lastId)
    (hgone : under i t.server = []) : (t.run send ops).sendsTo i = t.sendsTo i := by
  induction ops generalizing t with
  | nil => rfl
  | cons op ops ih =>
    have hi' := Nat.le_trans hi (lastId_le_perform send op t)
    rw [run_cons]
    cases op with
    | accept arrivals => exact ih _ hi' ((under_accept t.server arrivals (Or.inl hi)).trans hgone)
    | broadcast line =>
      obtain ⟨own, hown, hsends, hkept⟩ := perform_broadcast send i line t
      obtain rfl : own = [] := List.map_eq_nil_iff.mp (hown.trans hgone)
      rw [ih _ hi' hkept, hsends]
      exact List.append_nil _
    | close => exact ih _ hi' rfl

/-- A subscriber is sent the lines that are broadcast. -/
theorem sendsTo_run (ops : List (Operation κ)) (t : Lifetime κ σ) (hi : i ≤ t.server.lastId) {sub : Subscriber κ}
    (hid : sub.id = i) (hsub : under i t.server = [sub]) :
    ∃ sends, (t.run send ops).sendsTo i = t.sendsTo i ++ sends ∧ Delivered (linesUntilClose ops) sends := by
  induction ops generalizing t with
  | nil => exact ⟨[], (List.append_nil _).symm, .done⟩
  | cons op ops ih =>
    have hi' := Nat.le_trans hi (lastId_le_perform send op t)
    rw [run_cons]
    cases op with
    | accept arrivals => exact ih _ hi' ((under_accept t.server arrivals (Or.inl hi)).trans hsub)
    | broadcast line =>
      obtain ⟨own, hown, hsends, hkept⟩ := perform_broadcast send i line t
      obtain ⟨⟨sub', sent⟩, rfl, rfl⟩ := List.map_eq_singleton_iff.mp (hown.trans hsub)
      cases hd : (⟨sub'.id, line, sent⟩ : Delivery).isWhole with
      | true =>
        have hstays : under i (t.perform send (.broadcast line)).server = [sub'] := by
          rw [hkept, kept_singleton]
          exact if_pos hd
        obtain ⟨sends, hrun, hdelivered⟩ := ih _ hi' hstays
        refine ⟨⟨sub'.id, line, sent⟩ :: sends, ?_, .whole hd hdelivered⟩
        rw [hrun, hsends, List.append_assoc]
        rfl
      | false =>
        have hgone : under i (t.perform send (.broadcast line)).server = [] := by
          rw [hkept, kept_singleton]
          exact if_neg (Bool.eq_false_iff.mp hd)
        refine ⟨[⟨sub'.id, line, sent⟩], ?_, .broken hd⟩
        rw [sendsTo_run_of_gone ops _ hi' hgone, hsends]
        rfl
    | close => exact ⟨[], by rw [sendsTo_run_of_gone ops _ hi' rfl, List.append_nil]; rfl, .done⟩

/-- A subscriber that was accepted in a pass is sent the lines that are broadcast after it. -/
theorem delivered_of_accepted (send : κ → String → σ → Sent × σ) (w : σ) (before after : List (Operation κ))
    (arrivals : List (Arrival κ)) (hlater : ((begin w).run send before).server.lastId < i)
    (hjoined : i ≤ ((begin w).run send (before ++ [.accept arrivals])).server.lastId) :
    Delivered (linesUntilClose after) (((begin w).run send (before ++ .accept arrivals :: after)).sendsTo i) := by
  rw [run_append] at hjoined ⊢
  obtain ⟨hunder, hnone⟩ := (numbered_begin w).run before i hlater
  obtain ⟨sub, hid, hsub⟩ := under_accept_new _ arrivals hlater hjoined
  rw [hunder, List.nil_append] at hsub
  obtain ⟨sends, hsends, hdelivered⟩ := sendsTo_run after (((begin w).run send before).perform send (.accept arrivals))
    hjoined hid hsub
  rw [run_cons, hsends]
  exact hnone ▸ hdelivered

/-- The number that a broadcast returns is that of the whole sends in it. -/
theorem broadcast_count (line : String) (t : Lifetime κ σ) :
    (t.server.broadcast send line t.world).1 =
      ((t.perform send (.broadcast line)).sends.drop t.sends.length).countP isWhole := by
  simp only [perform, Server.broadcast, Server.kept, List.drop_left, List.countP_eq_length_filter, List.filter_map,
    List.length_map]
  rfl

/-- No send takes more than there is, if the system never does. -/
theorem took_le_of_mem_sends (kernel : ∀ peer line w n, (send peer line w).1 = .took n → n ≤ line.utf8ByteSize)
    (ops : List (Operation κ)) (t : Lifetime κ σ) (h : ∀ d ∈ t.sends, ∀ n, d.sent = .took n → n ≤ d.line.utf8ByteSize) :
    ∀ d ∈ (t.run send ops).sends, ∀ n, d.sent = .took n → n ≤ d.line.utf8ByteSize := by
  induction ops generalizing t with
  | nil => exact h
  | cons op ops ih =>
    refine ih _ ?_
    cases op with
    | accept | close => exact h
    | broadcast line =>
      intro d hd n hn
      rcases List.mem_append.mp hd with hd | hd
      · exact h d hd n hn
      · obtain ⟨p, hp, rfl⟩ := List.mem_map.mp hd
        obtain ⟨w, hw⟩ := exists_send_of_mem hp
        exact kernel _ line w n (hw.trans hn)

/-- Which numbers are given does not depend on the sends. -/
theorem lastId_run_congr {τ : Type} {send' : κ → String → τ → Sent × τ} (ops : List (Operation κ))
    {t : Lifetime κ σ} {t' : Lifetime κ τ} (hlistening : t.server.listening = t'.server.listening)
    (hlast : t.server.lastId = t'.server.lastId) :
    (t.run send ops).server.lastId = (t'.run send' ops).server.lastId := by
  induction ops generalizing t t' with
  | nil => exact hlast
  | cons op ops ih =>
    cases op with
    | accept arrivals =>
      obtain ⟨hl, hn⟩ := accept_congr t.server t'.server arrivals hlistening hlast
      exact ih hl hn
    | broadcast => exact ih hlistening hlast
    | close => exact ih rfl hlast

/-- Whatever is accepted, broadcast and closed, and whatever becomes of each send: a subscriber is sent the lines that
    are broadcast after its acceptance, in their order and each of them once, until a send to it is not whole or the
    server closes, and nothing after that. It gets those lines whole and, of the line of a send that was not whole, less
    than all. What becomes of the sends to others makes no difference, and every broadcast returns how many took the
    whole line. -/
theorem sendsTo_accepted (send : κ → String → σ → Sent × σ)
    (kernel : ∀ peer line w n, (send peer line w).1 = .took n → n ≤ line.utf8ByteSize) (w : σ)
    (before after : List (Operation κ)) (arrivals : List (Arrival κ))
    (later : ((begin w).run send before).server.lastId < i)
    (joined : i ≤ ((begin w).run send (before ++ [.accept arrivals])).server.lastId) :
    let ops := before ++ .accept arrivals :: after
    let lines := linesUntilClose after
    let sends := ((begin w).run send ops).sendsTo i
    (sends.map Delivery.line <+: lines ∧ (∀ d ∈ sends.dropLast, d.isWhole = true) ∧
      (sends.length < lines.length → ∃ d ∈ sends.getLast?, d.isWhole = false)) ∧
    (∃ part, sends.flatMap bytes = (lines.take (sends.countP isWhole)).flatMap toBytes ++ part ∧
      (part = [] ∨ ∃ line, lines[sends.countP isWhole]? = some line ∧ part <+: toBytes line ∧ part ≠ toBytes line)) ∧
    (∀ (τ : Type) (send' : κ → String → τ → Sent × τ) (w' : τ),
      let sends' := ((begin w').run send' ops).sendsTo i
      (∀ (k : Nat) d d', sends[k]? = some d → sends'[k]? = some d' → d.sent = d'.sent) → sends = sends') ∧
    ∀ (done : List (Operation κ)) (line : String),
      let t := (begin w).run send done
      (t.server.broadcast send line t.world).1 =
        ((t.perform send (.broadcast line)).sends.drop t.sends.length).countP isWhole := by
  intro ops lines sends
  have hdelivered : Delivered lines sends := delivered_of_accepted send w before after arrivals later joined
  have htook : ∀ d ∈ sends, ∀ n, d.sent = .took n → n ≤ d.line.utf8ByteSize := fun d hd =>
    took_le_of_mem_sends kernel ops (begin w) (fun _ h => by cases h) d (List.mem_filter.mp hd).1
  refine ⟨⟨hdelivered.order, hdelivered.whole_of_mem_dropLast, hdelivered.broken_of_length_lt⟩,
    hdelivered.bytes_eq htook, ?_, fun done line => broadcast_count line _⟩
  intro τ send' w' sends' hsent
  have hsame : ∀ ops : List (Operation κ),
      ((begin w).run send ops).server.lastId = ((begin w').run send' ops).server.lastId := fun ops =>
    lastId_run_congr ops rfl rfl
  have hdelivered' : Delivered lines sends' :=
    delivered_of_accepted send' w' before after arrivals (hsame _ ▸ later) (hsame _ ▸ joined)
  refine hdelivered.unique hdelivered' ⟨fun d hd d' hd' => ?_, hsent⟩
  have hi : d.subscriber = i := by simpa using (List.mem_filter.mp hd).2
  have hi' : d'.subscriber = i := by simpa using (List.mem_filter.mp hd').2
  rw [hi, hi']

/-- One subscriber has room for a line and a part of the next, and another one has room for all. -/
theorem sendsTo_accepted_short :
    let send (peer : Nat) (line : String) (room : Nat → Nat) : Sent × (Nat → Nat) :=
      let n := min (room peer) line.utf8ByteSize
      (.took n, fun q => if q = peer then room q - n else room q)
    let room (peer : Nat) : Nat := if peer = 7 then 4 else 100
    let arrivals : List (Arrival Nat) := [.connection 8, .interrupted, .connection 7, .nothing]
    let after : List (Operation Nat) := [.broadcast "ab\n", .broadcast "cd\n", .broadcast "ef\n", .close, .broadcast "gh\n"]
    let sends := ((begin room).run send ([.broadcast "no\n"] ++ .accept arrivals :: after)).sendsTo 2
    sends.map Delivery.line = ["ab\n", "cd\n"] ∧ sends.map Delivery.sent = [.took 3, .took 1] ∧
      sends.map Delivery.line <+: linesUntilClose after := by
  intro send room arrivals after sends
  refine ⟨by decide, by decide, ?_⟩
  exact (sendsTo_accepted send (fun peer line w n h => Sent.took.inj h ▸ Nat.min_le_right _ _) room [.broadcast "no\n"]
    after arrivals (by decide) (by decide)).1.1

end Lifetime

end KeyFeed.Feed
