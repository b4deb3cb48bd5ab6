import KeyFeed.Proofs.Session.Relay

/-! A device that was deselected and is asked for the active source. The flag that says whether the device wants to be it
    changes only when a command is executed, so between the notification and the execution of the command that it asks
    for a request still meets the old flag. A request that does not meet it so comes to nothing, whatever others do. -/

namespace KeyFeed.Session
open Command Bus

variable {σ : Type}

/-! ### The flag -/

/-- The flag after the execution of commands. -/
def flagAfter (flag : Bool) (cs : List Command) : Bool :=
  cs.foldl (fun flag c => match c with
    | .activate => true
    | .inactive => false
    | _ => flag) flag

variable {flag : Bool} {c : Command} {cs : List Command}

theorem flagAfter_append (flag : Bool) (cs ds : List Command) :
    flagAfter flag (cs ++ ds) = flagAfter (flagAfter flag cs) ds := List.foldl_append

theorem flagAfter_of_ne (ha : c ≠ .activate) (hi : c ≠ .inactive) (flag : Bool) : flagAfter flag [c] = flag := by
  cases c with
  | activate => exact absurd rfl ha
  | inactive => exact absurd rfl hi
  | standby | restart | keyPress | exit => rfl

theorem flagAfter_of_ending {e : SessionEnd} (h : c.ending? = some e) (flag : Bool) : flagAfter flag [c] = flag :=
  flagAfter_of_ne (fun hc => by subst hc; cases h) (fun hc => by subst hc; cases h) flag

/-- Only a command that turns the flag off can have turned it off. -/
theorem eq_false_of_flagAfter (hi : .inactive ∉ cs) (h : flagAfter flag cs = false) : flag = false := by
  induction cs generalizing flag with
  | nil => exact h
  | cons c cs ih =>
    obtain ⟨hne, hcs⟩ : .inactive ≠ c ∧ .inactive ∉ cs := by simpa using hi
    have hflag : flagAfter flag [c] = false := ih hcs h
    cases c with
    | inactive => exact absurd rfl hne
    | activate => cases hflag
    | standby | restart | keyPress | exit => exact hflag

theorem Station.execute_wantsActive (out : Outlet σ) (st : Station) (w : σ) (c : Command) :
    (st.execute out w c).1.wantsActive = flagAfter st.wantsActive [c] := by
  cases c with
  | standby =>
    simp only [execute]
    split <;> rfl
  | keyPress code =>
    simp only [execute]
    split <;> rfl
  | activate | inactive | restart | exit => rfl

/-! ### Notifications -/

/-- A request for the active source to come forward. -/
def asksForSource : Notification → Bool
  | .frame f => f.opcode == .requestActiveSource
  | _ => false

namespace Listener

variable {l : Listener} {n : Notification}

theorem hear_source_own (h : l.own ≠ .unknown) (flag : Bool) :
    (l.hear flag (.source l.own false)).command = some .inactive := by
  simp [hear, isOwn, h]

/-- Apart from a change of the source that is about this device, only a request can ask to activate, and only while the
    flag is on. -/
theorem flagAfter_hear (hsource : ∀ address activated, n = .source address activated → l.isOwn address = false)
    (hrequest : asksForSource n = true → flag = false) (start : Bool) :
    flagAfter start (l.hear flag n).command.toList = start := by
  cases n with
  | message | configuration => rfl
  | key e =>
    simp only [hear, commandOfKey]
    split <;> rfl
  | frame f =>
    obtain ⟨initiator, destination, opcode, operands⟩ := f
    cases opcode with
    | requestActiveSource =>
      obtain rfl := hrequest rfl
      rfl
    | deckControl | play =>
      simp only [hear, commandOfFrame]
      split <;> rfl
    | _ => rfl
  | alert a =>
    simp only [hear]
    split <;> rfl
  | menu => rfl
  | source address activated => simp [hear, hsource address activated rfl, flagAfter]

/-- A request asks for nothing while the flag is off, and it is not noted. -/
theorem hear_request (h : asksForSource n = true) : l.hear false n = ⟨l, none, []⟩ := by
  cases n with
  | frame f =>
    obtain ⟨initiator, destination, opcode, operands⟩ := f
    obtain rfl : opcode = .requestActiveSource := by simpa [asksForSource] using h
    rfl
  | message | key | configuration | alert | menu | source => cases h

end Listener

/-! ### A session among others -/

namespace Relay

/-- A turn of the adapter or of the session, or what someone else does to the queue. -/
inductive Move where
  | turn (t : Turn)
  | push (c : Command)
  /-- Someone outside stops the queue. -/
  | stopQueue
  deriving DecidableEq, Repr

def move (out : Outlet σ) : Move → Relay σ → Relay σ
  | .turn t, r => r.turn out t
  | .push c, r => { r with run := r.run.push c }
  | .stopQueue, r => { r with run := r.run.stopQueue }

/-- Makes the moves one after another. -/
def playAll (out : Outlet σ) (moves : List Move) (r : Relay σ) : Relay σ := moves.foldl (fun r m => r.move out m) r

@[simp] theorem playAll_nil (out : Outlet σ) (r : Relay σ) : r.playAll out [] = r := rfl

@[simp] theorem playAll_cons (out : Outlet σ) (m : Move) (moves : List Move) (r : Relay σ) :
    r.playAll out (m :: moves) = (r.move out m).playAll out moves := rfl

/-- What was asked for and is not executed yet, in the order in which it will be. -/
def outstanding (r : Relay σ) : List Command := r.run.phase.current ++ r.run.station.queue.commands ++ r.asked.toList

/-- The flag is still on, and the command that turns it off is outstanding. -/
def Stale (r : Relay σ) : Prop := .inactive ∈ r.outstanding ∧ r.run.station.wantsActive = true

/-- Others push nothing that changes the flag, no source is reported that is about this device, and no request is heard
    while the flag is stale. -/
def Quiet (r : Relay σ) : Move → Prop
  | .push c => c ≠ .activate ∧ c ≠ .inactive
  | .turn .adapter => r.asked = none → ∀ n ∈ r.unheard.head?,
    (∀ address activated, n = .source address activated → r.listener.isOwn address = false) ∧
      (asksForSource n = true → ¬r.Stale)
  | .turn .session | .stopQueue => True

/-- Every one of the moves is quiet where it is made. -/
def QuietAll (out : Outlet σ) : List Move → Relay σ → Prop
  | [], _ => True
  | m :: moves, r => r.Quiet m ∧ QuietAll out moves (r.move out m)

/-- As long as the queue runs: once everything outstanding is executed, the flag is off. -/
def Deselected (r : Relay σ) : Prop :=
  r.run.station.queue.running = true → flagAfter r.run.station.wantsActive r.outstanding = false

variable {r : Relay σ} {out : Outlet σ} {n : Notification} {ns : List Notification}

theorem turn_hear (out : Outlet σ) (ha : r.asked = none) (hu : r.unheard = n :: ns) :
    (r.turn out .adapter).run.phase = r.run.phase ∧ (r.turn out .adapter).run.station = r.run.station ∧
    (r.turn out .adapter).asked = (r.listener.hear r.run.station.wantsActive n).command := by
  simp [turn, hear, ha, hu]

/-- A flag that is on although it will be off is stale. -/
theorem Deselected.wantsActive_eq_false (h : r.Deselected) (hr : r.run.station.queue.running = true) (hs : ¬r.Stale) :
    r.run.station.wantsActive = false := by
  cases hw : r.run.station.wantsActive with
  | false => rfl
  | true =>
    have hi : .inactive ∉ r.outstanding := fun hi => hs ⟨hi, hw⟩
    rw [← hw]
    exact eq_false_of_flagAfter hi (h hr)

theorem Deselected.session (h : r.Deselected) : (r.turn out .session).Deselected := by
  obtain ⟨run, l, asked, unheard⟩ := r
  have hstep := run.advance_step (surroundings out)
  simp only [turn]
  generalize run.advance (surroundings out) = run' at hstep
  intro hr
  cases hstep with
  | @take st w c cs hq =>
    have h := h (by simp [hq])
    show flagAfter st.wantsActive _ = false
    simpa [outstanding, Phase.current, hq] using h
  | miss | wake => exact h hr
  | leave | rest => exact h hr
  | @execute st w c hc =>
    have h := h (by simpa using hr)
    simp only [outstanding, Phase.current, List.append_assoc, List.nil_append, Station.execute_queue,
      Station.execute_wantsActive] at h ⊢
    rwa [flagAfter_append] at h
  | @finish st w c e hc =>
    have h := h hr
    simp only [outstanding, Phase.current, List.append_assoc, List.nil_append] at h ⊢
    rwa [flagAfter_append, flagAfter_of_ending hc] at h
  | stop => cases hr

/-- Offering a command leaves it outstanding as long as the queue takes it. -/
theorem Deselected.offer (h : r.Deselected) : r.offer.Deselected := by
  obtain ⟨⟨phase, st, w⟩, l, asked, unheard⟩ := r
  cases asked with
  | none => exact h
  | some c =>
    intro hr
    have hq : st.queue.running = true := (st.queue.running_push c).symm.trans hr
    have hout : (⟨⟨phase, st, w⟩, l, some c, unheard⟩ : Relay σ).offer.outstanding =
        (⟨⟨phase, st, w⟩, l, some c, unheard⟩ : Relay σ).outstanding := by
      simp [Relay.offer, outstanding, Run.push, Queue.push_running hq]
    rw [hout]
    exact h hq

theorem Deselected.adapter (h : r.Deselected) (hq : r.Quiet (.turn .adapter)) : (r.turn out .adapter).Deselected := by
  cases ha : r.asked with
  | some c =>
    have hturn : r.turn out .adapter = r.offer := by simp [turn, ha]
    rw [hturn]
    exact h.offer
  | none =>
    cases hu : r.unheard with
    | nil =>
      have hturn : r.turn out .adapter = r := by simp [turn, hear, ha, hu]
      rw [hturn]
      exact h
    | cons n ns =>
      obtain ⟨hphase, hstation, hasked⟩ := turn_hear out ha hu
      obtain ⟨hsource, hrequest⟩ := hq ha n (by simp [hu])
      intro hr
      rw [hstation] at hr ⊢
      have hflag := Listener.flagAfter_hear hsource fun hn => h.wantsActive_eq_false hr (hrequest hn)
      rw [outstanding, hphase, hstation, hasked, flagAfter_append, hflag]
      simpa [outstanding, ha] using h hr

theorem Deselected.push (h : r.Deselected) (hq : r.Quiet (.push c)) : (r.move out (.push c)).Deselected := by
  obtain ⟨⟨phase, st, w⟩, l, asked, unheard⟩ := r
  intro hr
  have hrun : st.queue.running = true := (st.queue.running_push c).symm.trans hr
  have h : flagAfter st.wantsActive (phase.current ++ st.queue.commands ++ asked.toList) = false := h hrun
  have hout : ((⟨⟨phase, st, w⟩, l, asked, unheard⟩ : Relay σ).move out (.push c)).outstanding =
      phase.current ++ st.queue.commands ++ [c] ++ asked.toList := by
    simp [move, outstanding, Run.push, Queue.push_running hrun]
  show flagAfter st.wantsActive _ = false
  rwa [hout, flagAfter_append, flagAfter_append, flagAfter_of_ne hq.1 hq.2, ← flagAfter_append]

theorem Deselected.playAll (h : r.Deselected) {moves : List Move} (hq : r.QuietAll out moves) :
    (r.playAll out moves).Deselected := by
  induction moves generalizing r with
  | nil => exact h
  | cons m moves ih =>
    obtain ⟨hm, hmoves⟩ := hq
    rw [playAll_cons]
    refine ih ?_ hmoves
    cases m with
    | turn t =>
      cases t with
      | adapter => exact h.adapter hm
      | session => exact h.session
    | push c => exact h.push hm
    | stopQueue => exact fun hr => by cases hr

/-- The notification that this device is no longer the source. -/
theorem deselected_turn (ha : r.asked = none) (hown : r.listener.own ≠ .unknown)
    (hu : r.unheard = .source r.listener.own false :: ns) : (r.turn out .adapter).Deselected := fun _ => by
  obtain ⟨-, -, hasked⟩ := turn_hear out ha hu
  rw [outstanding, hasked, Listener.hear_source_own hown, flagAfter_append]
  rfl

/-! ### A stopped queue -/

theorem move_stopped (h : r.run.station.queue.running = false) (m : Move) :
    (r.move out m).run.station.queue.running = false := by
  obtain ⟨run, l, asked, unheard⟩ := r
  have hpush (c : Command) : (run.station.queue.push c).2.running = false := by rw [Queue.running_push, h]
  cases m with
  | push c => exact hpush c
  | stopQueue => rfl
  | turn t =>
    cases t with
    | adapter =>
      cases asked with
      | some c => exact hpush c
      | none =>
        cases unheard with
        | nil => exact h
        | cons n ns => exact h
    | session =>
      have hstep := run.advance_step (surroundings out)
      simp only [move, turn]
      generalize run.advance (surroundings out) = run' at hstep
      cases hstep with
      | take hq =>
        have h : (_ : Station).queue.running = false := h
        rw [hq] at h
        cases h
      | miss | wake | leave | finish | rest => exact h
      | execute => simpa using h
      | stop => rfl

theorem playAll_stopped (h : r.run.station.queue.running = false) (moves : List Move) :
    (r.playAll out moves).run.station.queue.running = false := by
  induction moves generalizing r with
  | nil => exact h
  | cons m moves ih => exact ih (move_stopped h m)

/-! ### Requests after a deselection -/

/-- The adapter reports that this device is no longer the source. Whatever others do then, as long as they do not change
    the flag themselves, and whatever the adapter reports, as long as no source about this device: a request that does not
    meet a stale flag, and comes after none that did, asks for nothing; or the queue has been stopped and takes nothing
    that is asked for. -/
theorem request_ignored_after_deselection (out : Outlet σ) (r : Relay σ) (free : r.asked = none)
    (own : r.listener.own ≠ .unknown) (unheard : List Notification)
    (deselected : r.unheard = .source r.listener.own false :: unheard) (between : List Move)
    (quiet : (r.turn out .adapter).QuietAll out between) :
    let b := (r.turn out .adapter).playAll out between
    b.asked = none → ∀ request later, b.unheard = request :: later → asksForSource request = true → ¬b.Stale →
      (b.run.station.wantsActive = false ∧ flagAfter false b.outstanding = false ∧
        b.turn out .adapter = { b with unheard := later }) ∨
      ∀ moves c, (((b.turn out .adapter).playAll out moves).run.station.queue.push c).1 = false := by
  intro b hasked request later hunheard hrequest hstale
  have hb : b.Deselected := (deselected_turn free own deselected).playAll quiet
  cases hr : b.run.station.queue.running with
  | true =>
    have hflag := hb.wantsActive_eq_false hr hstale
    refine Or.inl ⟨hflag, hflag ▸ hb hr, ?_⟩
    simp [turn, hear, hasked, hunheard, hflag, Listener.hear_request hrequest]
  | false =>
    refine Or.inr fun moves c => ?_
    have hturn : (b.turn out .adapter).run.station.queue.running = false := move_stopped hr (.turn .adapter)
    rw [Queue.accepted_push, playAll_stopped hturn moves]

/-- A session of a device that wants to be the active source and has claimed an address. -/
def selected (ns : List Notification) : Relay Record :=
  begin .polling { Station.fresh true ⟨none, some "on", some "off"⟩ "tag" with queue := ⟨true, []⟩ }
    (.ofAddress .playbackDevice1) Record.empty ns

def deselection : Notification := .source .playbackDevice1 false

def request : Notification := .frame ⟨.tv, .broadcast, .requestActiveSource, []⟩

/-- The session has executed the command before the request comes, with another one behind it. -/
theorem request_ignored_after_deselection_executed :
    let out := Record.outlet fun _ => none
    let r := selected [deselection, request]
    let between : List Move := [.turn .adapter, .push .exit, .turn .session, .turn .session]
    let b := (r.turn out .adapter).playAll out between
    (r.turn out .adapter).QuietAll out between ∧ b.unheard = [request] ∧ ¬b.Stale ∧
      b.turn out .adapter = { b with unheard := [] } := by
  intro out r between b
  have hquiet : (r.turn out .adapter).QuietAll out between := by
    refine ⟨fun h => ?_, ?_, ?_, ?_, ?_⟩
    · cases h
    · exact ⟨by decide, by decide⟩
    all_goals trivial
  have hactive : b.run.station.wantsActive = false := by decide
  have hstale : ¬b.Stale := fun h => by
    rw [h.2] at hactive
    cases hactive
  have h := request_ignored_after_deselection out r rfl (by decide) [request] rfl between hquiet (by decide) request []
    rfl rfl hstale
  refine ⟨hquiet, rfl, hstale, ?_⟩
  rcases h with h | h
  · exact h.2.2
  · exact absurd (h [] .exit) (by decide)

/-- A request that comes before the session has executed the command turns the flag on again, and the action runs. -/
theorem request_executed_after_deselection :
    let play (ns : List Notification) := (selected ns).play (Record.outlet fun _ => none)
      [.adapter, .adapter, .adapter, .adapter, .session, .session, .session, .session, .session]
    (play [deselection]).run.station.wantsActive = false ∧
      (play [deselection]).run.world.1.actions = [(.deactivate, "off")] ∧
      (play [deselection, request]).run.station.wantsActive = true ∧
      (play [deselection, request]).run.world.1.actions = [(.deactivate, "off"), (.activate, "on")] := by
  decide

end Relay

end KeyFeed.Session
