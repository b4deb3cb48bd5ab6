import KeyFeed.Proofs.Supervisor.Shutdown

/-! Keys on their way from the bus to the feed. Whoever asks for a key has looked at its code or has taken an assigned
    one, so a key that waits or is executed is always in the table of names. What would be done about a dropped key
    therefore makes no difference to a supervisor (`play_onDropped`): there is none. -/

namespace KeyFeed
open Bus Adapter Key Session Supervisor

/-- The table of names reaches to the key, if the command is one. -/
def Command.InTable : Command → Prop
  | .keyPress code => code ≤ maxCode
  | _ => True

/-- What the bus or a signal can ask for. A listener may have heard anything before and may have read the flag at any
    time, so callbacks of an earlier opening of the adapter are among them. -/
inductive Command.Asked : Command → Prop where
  | heard {l : Listener} {wantsActive : Bool} {n : Notification} {c : Command}
    (h : (l.hear wantsActive n).command = some c) : Asked c
  | signalled (number : Int) : Asked (Signal.commandOf number)

namespace Command

theorem inTable_key (code : Code) : (key code).InTable := toByte_le_maxCode code

theorem inTable_of_frame {wantsActive : Bool} {f : Frame} {c : Command}
    (h : Listener.commandOfFrame wantsActive f = some c) : c.InTable := by
  unfold Listener.commandOfFrame at h
  split at h
  · cases h
    trivial
  · split at h <;> cases h
    trivial
  · split at h <;> cases h
    exact inTable_key .stop
  · split at h <;> cases h
    · exact inTable_key .pause
    · exact inTable_key .play
  · cases h

theorem inTable_of_hear {l : Listener} {wantsActive : Bool} {n : Notification} {c : Command}
    (h : (l.hear wantsActive n).command = some c) : c.InTable := by
  cases n with
  | message | configuration => cases h
  | frame f => exact inTable_of_frame h
  | menu =>
    cases h
    exact inTable_key .contentsMenu
  | key e =>
    simp only [Listener.hear, Listener.commandOfKey] at h
    split at h
    · rename_i hle
      cases h
      exact hle.1
    · cases h
  | alert a =>
    simp only [Listener.hear] at h
    split at h <;> cases h
    trivial
  | source address activated =>
    simp only [Listener.hear] at h
    split at h
    · cases activated <;> cases h <;> trivial
    · cases h

theorem inTable_commandOf (number : Int) : (Signal.commandOf number).InTable := by
  unfold Signal.commandOf
  split <;> trivial

theorem Asked.inTable {c : Command} (h : c.Asked) : c.InTable := by
  cases h with
  | heard h => exact inTable_of_hear h
  | signalled number => exact inTable_commandOf number

end Command

theorem Session.Emitter.exists_press {code : UInt8} (h : code ≤ maxCode) (e : Emitter) :
    ∃ emission, e.press code = .ok emission := by
  rw [press, lookup_eq, if_pos h]
  exact ⟨_, rfl⟩

theorem Queue.inTable_of_push {q : Queue} {c d : Command} (hc : c.InTable) (hd : d ∈ (q.push c).2.commands) :
    d ∈ q.commands ∨ d.InTable := by
  rw [push] at hd
  split at hd
  · rcases List.mem_append.mp hd with hd | hd
    · exact Or.inl hd
    · exact Or.inr (List.mem_singleton.mp hd ▸ hc)
  · exact Or.inl hd

/-! ### What waits and what is executed -/

namespace Supervisor

variable {σ : Type}

namespace State

/-- Every key that is executed or waits has its entry in the table of names. -/
def InTable (s : State) : Prop := ∀ c ∈ s.pending, c.InTable

variable {s : State} (rig : Rig σ)

/-- A key that comes into the queue from outside has to be in the table. -/
theorem InTable.of_queue (h : s.InTable) {s' : State} (hstage : s'.stage = s.stage)
    (hq : ∀ c ∈ s'.station.queue.commands, c ∈ s.station.queue.commands ∨ c.InTable) : s'.InTable := by
  intro c hc
  rw [pending, current_eq hstage] at hc
  rcases List.mem_append.mp hc with hc | hc
  · exact h c (List.mem_append_left _ hc)
  · exact (hq c hc).elim (fun hc => h c (List.mem_append_right _ hc)) id

theorem InTable.hear (h : s.InTable) (n : Notification) (w : σ) : (s.hear rig n w).1.InTable := by
  refine h.of_queue rfl fun c hc => ?_
  simp only [State.hear, Station.deliver] at hc
  cases ho : (s.listener.hear s.station.wantsActive n).command with
  | none =>
    rw [ho] at hc
    exact Or.inl hc
  | some d =>
    rw [ho] at hc
    exact Queue.inTable_of_push (Command.inTable_of_hear ho) hc

theorem InTable.hearAll (h : s.InTable) (ns : List Notification) (w : σ) : (hearAll rig ns s w).1.InTable := by
  induction ns generalizing s w with
  | nil => exact h
  | cons n ns ih => exact ih (h.hear rig n w) _

theorem InTable.serve (h : s.InTable) {phase : Phase} (hs : s.stage = .serving phase) (w : σ) :
    (s.serve rig phase w).1.InTable := by
  obtain ⟨options, station, listener, signals, sessions, stage⟩ := s
  obtain rfl : stage = .serving phase := hs
  have hstep := (⟨phase, station, w⟩ : Run σ).advance_step rig.toOutlet
  simp only [State.serve]
  generalize (⟨phase, station, w⟩ : Run σ).advance rig.toOutlet = r at hstep
  cases hstep with
  | take hq => simpa [InTable, pending, current, Phase.current, hq] using h
  | miss | wake | leave | rest => exact h
  | execute =>
    intro c hc
    simp only [pending, current, Station.execute_queue] at hc
    exact h c (List.mem_append_right _ hc)
  | finish => exact fun c hc => h c (List.mem_append_right _ hc)
  | stop =>
    intro c hc
    cases hc

theorem InTable.advance (h : s.InTable) (w : σ) : (s.advance rig w).1.InTable := by
  obtain ⟨options, station, listener, signals, sessions, stage⟩ := s
  cases stage with
  | serving phase => exact h.serve rig rfl w
  | openingAdapter =>
    simp only [State.advance, openAdapter]
    rcases rig.openAdapter options.adapter w with ⟨_ | reports, w'⟩
    · exact h
    · intro c hc
      have hfresh : InTable ⟨options, station, .fresh, signals, sessions, .openingAdapter⟩ := h
      exact hfresh.hearAll rig reports w' c (List.mem_append_right _ hc)
  | openingFeed =>
    simp only [State.advance]
    rcases rig.openFeed options.socketPath w with ⟨_ | _, w'⟩ <;> exact h
  | startingQueue =>
    intro c hc
    cases hc
  | closingAdapter e => cases e <;> exact h
  | settingTarget | retreating | disarmingSignals | announcing | claimingSource | rearmingSignals | closingFeed
  | finished => exact h

end State

theorem Course.inTable_move (rig : Rig σ) {c : Course σ} {m : Move σ} (h : c.state.InTable)
    (asked : ∀ d, m = .push d → d.Asked) : (c.move rig m).state.InTable := by
  cases m with
  | advance =>
    rw [show c.move rig .advance = _ from advance_eq rig c]
    exact h.advance rig c.world
  | hear n => exact h.hear rig n c.world
  | push d => exact h.of_queue rfl fun c hc => Queue.inTable_of_push (asked d rfl).inTable hc
  | raise signal => exact h.of_queue rfl fun c hc => Queue.inTable_of_push (Command.inTable_commandOf _) hc
  | stopQueue => exact h.of_queue rfl fun c hc => by cases hc
  | change => exact h

theorem Course.inTable_play (rig : Rig σ) {moves : List (Move σ)} (asked : ∀ d, Move.push d ∈ moves → d.Asked)
    {c : Course σ} (h : c.state.InTable) : (c.play rig moves).state.InTable := by
  induction moves generalizing c with
  | nil => exact h
  | cons m moves ih =>
    rw [play_cons]
    refine ih (fun d hd => asked d (List.mem_cons_of_mem m hd)) (inTable_move rig h fun d hd => ?_)
    exact asked d (hd ▸ List.mem_cons_self)

end Supervisor

/-! ### What would be done about a dropped key -/

/-- The same surroundings, except that they do something else when a key is dropped. -/
def Session.Outlet.onDropped {σ : Type} (out : Outlet σ) (f : OutOfRange → σ → σ) : Outlet σ where
  broadcast := out.broadcast
  runAction := out.runAction
  notify
    | .keyDropped e => f e
    | n => out.notify n

def Supervisor.Rig.onDropped {σ : Type} (rig : Rig σ) (f : OutOfRange → σ → σ) : Rig σ :=
  { rig with toOutlet := rig.toOutlet.onDropped f }

namespace Session

variable {σ : Type} (out : Outlet σ) (f : OutOfRange → σ → σ) (st : Station) (w : σ)

/-- No listener drops a key: it says nothing about one that it ignores. -/
theorem Listener.notify_onDropped {l : Listener} {wantsActive : Bool} {n : Notification} {m : Notice}
    (h : m ∈ (l.hear wantsActive n).notices) : (out.onDropped f).notify m = out.notify m := by
  cases m with
  | keyDropped e =>
    cases n with
    | frame => simp [hear] at h
    | alert a =>
      simp only [hear] at h
      split at h <;> simp at h
    | source address activated =>
      simp only [hear] at h
      split at h <;> simp at h
    | message | key | configuration | menu => simp [hear] at h
  | _ => rfl

theorem Station.deliver_onDropped (l : Listener) (n : Notification) :
    st.deliver (out.onDropped f) l n w = st.deliver out l n w := by
  have hnotices : (l.hear st.wantsActive n).notices.foldl (fun w n => (out.onDropped f).notify n w) w =
      (l.hear st.wantsActive n).notices.foldl (fun w n => out.notify n w) w :=
    List.foldl_ext _ _ w fun w m hm => congrFun (Listener.notify_onDropped out f hm) w
  simp only [deliver, hnotices]

theorem Station.execute_onDropped {c : Command} (h : c.InTable) :
    st.execute (out.onDropped f) w c = st.execute out w c := by
  cases c with
  | keyPress code =>
    obtain ⟨emission, hp⟩ := Emitter.exists_press h st.emitter
    simp only [execute, hp]
    rfl
  | standby | activate | inactive | restart | exit => rfl

theorem Run.advance_onDropped {phase : Phase} (h : ∀ c ∈ phase.current, c.InTable) :
    (⟨phase, st, w⟩ : Run σ).advance (out.onDropped f) = (⟨phase, st, w⟩ : Run σ).advance out := by
  cases phase with
  | executing c =>
    simp only [advance, Station.execute_onDropped out f st w (h c List.mem_cons_self)]
  | polling | waiting | ending | ended => rfl

end Session

namespace Supervisor

variable {σ : Type} (rig : Rig σ) (f : OutOfRange → σ → σ)

namespace State

theorem hear_onDropped (n : Notification) (s : State) (w : σ) : s.hear (rig.onDropped f) n w = s.hear rig n w := by
  have hdeliver := s.station.deliver_onDropped rig.toOutlet f w s.listener n
  rw [hear, show (rig.onDropped f).toOutlet = rig.toOutlet.onDropped f from rfl, hdeliver]
  rfl

theorem hearAll_onDropped (ns : List Notification) (s : State) (w : σ) :
    hearAll (rig.onDropped f) ns s w = hearAll rig ns s w := by
  induction ns generalizing s w with
  | nil => rfl
  | cons n ns ih =>
    simp only [hearAll, hear_onDropped]
    exact ih _ _

theorem advance_onDropped {s : State} (h : s.InTable) (w : σ) : s.advance (rig.onDropped f) w = s.advance rig w := by
  obtain ⟨options, station, listener, signals, sessions, stage⟩ := s
  cases stage with
  | openingAdapter =>
    have hopen : (rig.onDropped f).openAdapter = rig.openAdapter := rfl
    simp only [advance, openAdapter, hopen, hearAll_onDropped]
    rfl
  | serving phase =>
    have hrun := Run.advance_onDropped rig.toOutlet f station w fun c hc => h c (List.mem_append_left _ hc)
    simp only [advance, serve, show (rig.onDropped f).toOutlet = rig.toOutlet.onDropped f from rfl, hrun]
  | settingTarget | openingFeed | retreating | startingQueue | disarmingSignals | announcing | claimingSource
  | rearmingSignals | closingFeed | closingAdapter | finished => rfl

end State

namespace Course

theorem move_onDropped {c : Course σ} (h : c.state.InTable) (m : Move σ) :
    c.move (rig.onDropped f) m = c.move rig m := by
  cases m with
  | advance =>
    show c.advance (rig.onDropped f) = c.advance rig
    rw [advance_eq, advance_eq, State.advance_onDropped rig f h]
    rfl
  | hear n => simp only [move, State.hear_onDropped]
  | push | raise | stopQueue | change => rfl

theorem play_onDropped {moves : List (Move σ)} (asked : ∀ d, Move.push d ∈ moves → d.Asked) {c : Course σ}
    (h : c.state.InTable) : c.play (rig.onDropped f) moves = c.play rig moves := by
  induction moves generalizing c with
  | nil => rw [play_nil, play_nil]
  | cons m moves ih =>
    have hm := inTable_move rig h fun d hd => asked d (hd ▸ List.mem_cons_self)
    rw [play_cons, play_cons, move_onDropped rig f h]
    exact ih (fun d hd => asked d (List.mem_cons_of_mem m hd)) hm

/-- Others may do what they like, if they offer only what the bus or a signal asks for. Then in every state that a
    supervisor comes to every queued key is in the table; one that is executed is not refused; the course would be the
    same whatever were done about a dropped key; and the names of an assigned code are those of its entry. -/
theorem key_never_dropped (rig : Rig σ) (options : Options) (installed : Option SignalBridge) (w : σ)
    (moves : List (Move σ)) (asked : ∀ d, Move.push d ∈ moves → d.Asked) :
    let start := begin { State.fresh options with signals := installed } w
    let c := start.play rig moves
    (∀ code, .keyPress code ∈ c.state.station.queue.commands → code ≤ 0x96) ∧
    (∀ code, c.state.stage = .serving (.executing (.keyPress code)) →
      ∃ emission, c.state.station.emitter.press code = .ok emission) ∧
    (∀ f, start.play (rig.onDropped f) moves = c) ∧
    ∀ code : Code, ∃ names, lookup code.toByte = .ok names ∧ lookupCode code = names := by
  intro start c
  have hstart : start.state.InTable := fun d hd => by cases hd
  have hc : c.state.InTable := inTable_play rig asked hstart
  refine ⟨fun code hcode => ?_, fun code hstage => ?_, fun f => play_onDropped rig f asked hstart, fun code => ?_⟩
  · exact hc _ (List.mem_append_right _ hcode)
  · have hcurrent : c.state.current = [.keyPress code] := by rw [State.current, hstage]; rfl
    have hcode : (Command.keyPress code).InTable := hc _ (List.mem_append_left _ (by simp [hcurrent]))
    exact Emitter.exists_press hcode _
  · exact ⟨code.names, lookup_toByte code, lookupCode_eq code⟩

/-- The greatest key is held down and counts, the next byte is ignored; a callback of an earlier opening asks for a
    pause, and a signal for a new session. -/
theorem key_never_dropped_while_held :
    let options : Options := ⟨"/run/feed", ⟨none, "box"⟩, true, none, .unset, "tag"⟩
    let moves : List (Move (Loopback Unit)) := List.replicate 8 Move.advance ++
      [.hear (.key ⟨0x96, 500⟩), .hear (.key ⟨0x97, 0⟩), .push (.key .pause), .raise .hangUp]
    let c := (begin { State.fresh options with signals := some .installed } .fresh).play .loopback moves
    (∀ d, Move.push d ∈ moves → d.Asked) ∧
    c.state.station.queue.commands = [.keyPress 0x96, .keyPress 0x46, .restart] ∧
    ∀ code, .keyPress code ∈ c.state.station.queue.commands → code ≤ 0x96 := by
  intro options moves
  have hasked : ∀ d, Move.push d ∈ moves → d.Asked := by
    intro d hd
    obtain rfl : d = .key .pause := by simpa [moves] using hd
    have hplay : (Listener.fresh.hear true (.frame ⟨.tv, .broadcast, .play, [0x25]⟩)).command = some (.key .pause) := rfl
    exact .heard hplay
  have h := key_never_dropped .loopback options (some .installed) .fresh moves hasked
  dsimp only at h ⊢
  exact ⟨hasked, by decide, h.1⟩

end Course

end Supervisor

end KeyFeed
