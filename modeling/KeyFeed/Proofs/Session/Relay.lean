import KeyFeed.Proofs.Command.Ending
import KeyFeed.Proofs.Session.Recording
import KeyFeed.Session.Record

/-! From the bus to the feed. An adapter reports one notification after another while the session executes; what a
    notification asks for is found out in one step and offered to the queue in a later one, and the session goes on
    between the two. The lines of the feed come out the same for every order of these steps. -/

namespace KeyFeed.Session
open Command Bus Feed Key Text

/-! ### The lines that notifications should come to -/

/-- The line of a key that goes down. -/
def pressText (tag : String) (code : UInt8) (name : String) : String :=
  hex code.toNat ++ " 0 " ++ name ++ " " ++ tag ++ "\n"

example : pressText "RPICEC" 0x0B "KEY_MENU" = "b 0 KEY_MENU RPICEC\n" := by decide

/-- The lines that a notification comes to, where `onStandby` is the command of the user for that case. -/
def linesFor (tag : String) (onStandby : Option String) : Notification → List String
  | .key e =>
    if e.code ≤ 0x96 ∧ (e.duration = 0 ∨ e.code = 0x91 ∨ e.code = 0x96) then
      (((Code.ofByte? e.code).map Code.names).getD []).map (pressText tag e.code)
    else []
  | .frame f => match f.opcode with
    | .standby =>
      if onStandby = none then [pressText tag 0x40 "KEY_POWER", pressText tag 0x40 "KEY_POWER"] else []
    | .deckControl => if f.operands.head? = some 0x03 then [pressText tag 0x45 "KEY_STOP"] else []
    | .play =>
      if f.operands.head? = some 0x25 then [pressText tag 0x46 "KEY_PAUSE"] else [pressText tag 0x44 "KEY_PLAY"]
    | _ => []
  | .menu _ => [pressText tag 0x0B "KEY_MENU"]
  | _ => []

/-- Only a new session can go on after such a notification. -/
def breaksOff : Notification → Bool
  | .alert a => a.requiresRestart
  | _ => false

/-- The lines of all notifications before the first that breaks the session off. -/
def linesForAll (tag : String) (onStandby : Option String) (ns : List Notification) : List String :=
  (ns.takeWhile fun n => !breaksOff n).flatMap (linesFor tag onStandby)

/-! ### The commands between -/

theorem text_press (tag : String) (code : UInt8) (name : String) :
    (⟨code.toUInt32, false, name, tag⟩ : Line).text = pressText tag code name := by
  apply String.toList_inj.mp
  simp [Line.text, Line.chars, Line.repeatFlag, pressText, hex]

theorem ofByte?_isEdgeTriggered (b : UInt8) :
    ((Code.ofByte? b).map Code.isEdgeTriggered).getD false = true ↔ b = 0x91 ∨ b = 0x96 := by
  constructor
  · intro h
    cases hc : Code.ofByte? b with
    | none => simp [hc] at h
    | some c =>
      have hb : c.toByte = b := Code.toByte_of_ofByte? hc
      have he : c.isEdgeTriggered = true := by simpa [hc] using h
      cases c <;> first
        | exact absurd he Bool.false_ne_true
        | exact Or.inl hb.symm
        | exact Or.inr hb.symm
  · rintro (rfl | rfl)
    · simp only [show Code.ofByte? 0x91 = some .anReturn from Code.ofByte?_toByte .anReturn]
      rfl
    · simp only [show Code.ofByte? 0x96 = some .anChannelsList from Code.ofByte?_toByte .anChannelsList]
      rfl

theorem isPressEdge_iff (e : KeyEvent) :
    e.isPressEdge = true ↔ e.duration = 0 ∨ e.code = 0x91 ∨ e.code = 0x96 := by
  rw [KeyEvent.isPressEdge, Bool.or_eq_true, ofByte?_isEdgeTriggered, beq_iff_eq]

namespace Station

/-- The texts that a command writes. -/
def textsOf (st : Station) (c : Command) : List String := (st.linesOf c).map Line.text

/-- A command writes one text for each of its keys. -/
theorem textsOf_eq (st : Station) (c : Command) :
    st.textsOf c = (c.keys st.hooks.onStandby).map fun key => pressText st.emitter.tag key.1 key.2 := by
  rw [textsOf, linesOf_eq, List.map_map]
  exact List.map_congr_left fun key _ => text_press st.emitter.tag key.1 key.2

theorem textsOf_standby (st : Station) : st.textsOf .standby = if st.hooks.onStandby = none then
    [pressText st.emitter.tag 0x40 "KEY_POWER", pressText st.emitter.tag 0x40 "KEY_POWER"] else [] := by
  rw [textsOf_eq, keys]
  split <;> rfl

/-- A code outside the domain of the key names is dropped. -/
theorem textsOf_keyPress (st : Station) (code : UInt8) :
    st.textsOf (.keyPress code) = if code ≤ maxCode then
      (((Code.ofByte? code).map Code.names).getD []).map (pressText st.emitter.tag code) else [] := by
  rw [textsOf_eq, keys, maxCode]
  split
  · rw [List.map_map]
    rfl
  · rfl

theorem textsOf_key (st : Station) (c : Code) (h : c.toByte ≤ maxCode) :
    st.textsOf (.key c) = c.names.map (pressText st.emitter.tag c.toByte) := by
  rw [Command.key, textsOf_keyPress, if_pos h, Code.ofByte?_toByte]
  rfl

/-- What a command writes depends on nothing that changes while a session runs. -/
theorem textsOf_congr {st st' : Station} (hh : st.hooks = st'.hooks) (ht : st.emitter.tag = st'.emitter.tag)
    (c : Command) : st.textsOf c = st'.textsOf c := by
  rw [textsOf_eq, textsOf_eq, hh, ht]

end Station

theorem deckControl_stop_iff (b : UInt8) : DeckControl.ofByte b = .stop ↔ b = 0x03 := by
  constructor
  · intro h
    unfold DeckControl.ofByte at h
    split at h <;> first | exact UInt8.toNat_inj.mp ‹_› | cases h
  · rintro rfl
    rfl

theorem playMode_still_iff (b : UInt8) : PlayMode.ofByte b = .playStill ↔ b = 0x25 := by
  constructor
  · intro h
    unfold PlayMode.ofByte at h
    split at h <;> first | exact UInt8.toNat_inj.mp ‹_› | cases h
  · rintro rfl
    rfl

/-- The command that a frame asks for ends no session, and it comes to the lines of the frame. -/
theorem texts_of_frame (st : Station) (wantsActive : Bool) (f : Frame) :
    Ordinary (Listener.commandOfFrame wantsActive f).toList ∧
      (Listener.commandOfFrame wantsActive f).toList.flatMap st.textsOf =
        linesFor st.emitter.tag st.hooks.onStandby (.frame f) := by
  obtain ⟨initiator, destination, opcode, operands⟩ := f
  have hstop := st.textsOf_key .stop (by decide)
  have hpause := st.textsOf_key .pause (by decide)
  have hplay := st.textsOf_key .play (by decide)
  cases opcode with
  | standby => simp [Listener.commandOfFrame, linesFor, Ordinary, ending?, st.textsOf_standby]
  | requestActiveSource =>
    cases wantsActive with
    | true => exact ⟨by simp [Listener.commandOfFrame, Ordinary, ending?], rfl⟩
    | false => exact ⟨ordinary_nil, rfl⟩
  | deckControl =>
    simp only [Listener.commandOfFrame, linesFor, Option.map_eq_some_iff, deckControl_stop_iff, exists_eq_right]
    split
    · simpa [Ordinary] using ⟨rfl, hstop⟩
    · exact ⟨ordinary_nil, rfl⟩
  | play =>
    simp only [Listener.commandOfFrame, linesFor, Option.map_eq_some_iff, playMode_still_iff, exists_eq_right]
    split
    · simpa [Ordinary] using ⟨rfl, hpause⟩
    · simpa [Ordinary] using ⟨rfl, hplay⟩
  | _ => exact ⟨ordinary_nil, rfl⟩

/-- What a notification asks for comes to the lines that it should come to. -/
theorem texts_of_hear (st : Station) (l : Listener) (wantsActive : Bool) (n : Notification) :
    (breaksOff n = true ∧ (l.hear wantsActive n).command = some .restart) ∨
    (breaksOff n = false ∧ Ordinary (l.hear wantsActive n).command.toList ∧
      (l.hear wantsActive n).command.toList.flatMap st.textsOf = linesFor st.emitter.tag st.hooks.onStandby n) := by
  cases n with
  | message | configuration => exact Or.inr ⟨rfl, ordinary_nil, rfl⟩
  | key e =>
    refine Or.inr ⟨rfl, ?_⟩
    have hmax : maxCode = 0x96 := rfl
    simp only [Listener.hear, Listener.commandOfKey, linesFor, isPressEdge_iff, hmax]
    split
    · rename_i h
      simp [Ordinary, ending?, st.textsOf_keyPress, hmax, h.1]
    · exact ⟨ordinary_nil, rfl⟩
  | frame f => exact Or.inr ⟨rfl, texts_of_frame st wantsActive f⟩
  | alert a =>
    simp only [Listener.hear, breaksOff]
    cases a.requiresRestart with
    | true => exact Or.inl ⟨rfl, rfl⟩
    | false => exact Or.inr ⟨rfl, ordinary_nil, rfl⟩
  | menu =>
    refine Or.inr ⟨rfl, ?_⟩
    have hmenu := st.textsOf_key .contentsMenu (by decide)
    simp [Listener.hear, linesFor, Ordinary, hmenu, Code.names, Code.toByte]
    rfl
  | source address activated =>
    refine Or.inr ⟨rfl, ?_⟩
    simp only [Listener.hear, linesFor]
    split
    · cases activated with
      | true => exact ⟨by simp [Ordinary, ending?], rfl⟩
      | false => exact ⟨by simp [Ordinary, ending?], rfl⟩
    · exact ⟨ordinary_nil, rfl⟩

/-! ### Schedules -/

/-- Whose turn it is. -/
inductive Turn where
  | adapter
  | session
  deriving DecidableEq, Repr

/-- A session to which an adapter reports, with the lines that it wrote. -/
structure Relay (σ : Type) where
  run : Run (σ × List String)
  listener : Listener
  /-- What the latest notification asks for, until it is offered to the queue. -/
  asked : Option Command
  /-- What the adapter has yet to report. -/
  unheard : List Notification

namespace Relay

variable {σ : Type}

/-- Surroundings that take note of every line. -/
def surroundings (out : Outlet σ) : Outlet (σ × List String) := out.recording fun line lines => lines ++ [line]

def begin (phase : Phase) (st : Station) (l : Listener) (w : σ) (ns : List Notification) : Relay σ :=
  ⟨⟨phase, st, (w, [])⟩, l, none, ns⟩

/-- Finds out what the next notification asks for. -/
def hear (out : Outlet σ) (r : Relay σ) : Relay σ :=
  match r.unheard with
  | [] => r
  | n :: ns =>
    let heard := r.listener.hear r.run.station.wantsActive n
    let w := heard.notices.foldl (fun w n => (surroundings out).notify n w) r.run.world
    ⟨{ r.run with world := w }, heard.listener, heard.command, ns⟩

/-- Offers to the queue what was asked for. -/
def offer (r : Relay σ) : Relay σ :=
  match r.asked with
  | none => r
  | some c => { r with run := r.run.push c, asked := none }

def turn (out : Outlet σ) : Turn → Relay σ → Relay σ
  | .adapter, r => if r.asked.isSome then r.offer else r.hear out
  | .session, r => { r with run := r.run.advance (surroundings out) }

/-- Takes the turns one after another. -/
def play (out : Outlet σ) (turns : List Turn) (r : Relay σ) : Relay σ := turns.foldl (fun r t => r.turn out t) r

@[simp] theorem play_nil (out : Outlet σ) (r : Relay σ) : r.play out [] = r := rfl

@[simp] theorem play_cons (out : Outlet σ) (t : Turn) (turns : List Turn) (r : Relay σ) :
    r.play out (t :: turns) = (r.turn out t).play out turns := rfl

/-- What was written so far. -/
def lines (r : Relay σ) : List String := r.run.world.2

/-- Nothing is left to report, to take from the queue or to execute. -/
def isDrained (r : Relay σ) : Bool :=
  r.unheard.isEmpty && r.asked.isNone && r.run.station.queue.commands.isEmpty && r.run.phase.current.isEmpty

/-! ### What every turn keeps -/

/-- What is written for commands up to the first that ends the session, and what comes behind them if none does. -/
def written (texts : Command → List String) (behind : List String) : List Command → List String
  | [] => behind
  | c :: cs => texts c ++ if c.ending?.isSome then [] else written texts behind cs

/-- The lines that are still to come. -/
def toCome (st : Station) (r : Relay σ) : List String :=
  if r.run.end?.isSome then [] else
    written st.textsOf (linesForAll st.emitter.tag st.hooks.onStandby r.unheard)
      (r.run.phase.current ++ r.run.station.queue.commands ++ r.asked.toList)

/-- The lines that were written and those to come are always the same, here given for the station at the beginning. -/
structure Faithful (st : Station) (ns : List Notification) (r : Relay σ) : Prop where
  texts : r.run.station.textsOf = st.textsOf
  running : r.run.isOver = false → r.run.station.queue.running = true
  lines : r.lines ++ r.toCome st = linesForAll st.emitter.tag st.hooks.onStandby ns

variable {st : Station} {ns : List Notification} {r : Relay σ} {out : Outlet σ}

theorem written_append (texts : Command → List String) (behind : List String) (cs ds : List Command) :
    written texts behind (cs ++ ds) = written texts (written texts behind ds) cs := by
  induction cs with
  | nil => rfl
  | cons c cs ih => simp only [List.cons_append, written, ih]

/-- The first notification comes to what the command that it asks for writes. -/
theorem linesForAll_cons (st : Station) (l : Listener) (wantsActive : Bool) (n : Notification)
    (ns : List Notification) : linesForAll st.emitter.tag st.hooks.onStandby (n :: ns) =
      written st.textsOf (linesForAll st.emitter.tag st.hooks.onStandby ns)
        (l.hear wantsActive n).command.toList := by
  rcases texts_of_hear st l wantsActive n with ⟨hb, hc⟩ | ⟨hb, ho, ht⟩
  · simp [linesForAll, hb, hc, written, ending?]
    rfl
  · rw [linesForAll, List.takeWhile_cons_of_pos (by simp [hb]), List.flatMap_cons, ← ht]
    cases hc : (l.hear wantsActive n).command with
    | none => rfl
    | some c =>
      have he : c.ending? = none := ho c (by simp [hc])
      simp [written, he, linesForAll]

theorem textsOf_execute (st : Station) (w : σ) (c : Command) : (st.execute out w c).1.textsOf = st.textsOf :=
  funext fun _ => Station.textsOf_congr (st.execute_frame out w c).1 (st.execute_frame out w c).2 _

/-- A step of the session writes what the command writes that it executes. -/
theorem turn_session (phase : Phase) (st : Station) (w : σ) (lines : List String) (l : Listener)
    (asked : Option Command) (unheard : List Notification) :
    (⟨⟨phase, st, w, lines⟩, l, asked, unheard⟩ : Relay σ).turn out .session =
      let run := (⟨phase, st, w⟩ : Run σ).advance out
      ⟨⟨run.phase, run.station, run.world, lines ++ phase.current.flatMap st.textsOf⟩, l, asked, unheard⟩ := by
  have hw : (phase.current.flatMap st.linesOf).foldl (fun lines line => lines ++ [line.text]) lines =
      lines ++ phase.current.flatMap st.textsOf := by
    rw [foldl_concat_text, List.map_flatMap]
    rfl
  simp only [turn, surroundings, Run.advance_recording, hw]

theorem Faithful.session (h : r.Faithful st ns) : (r.turn out .session).Faithful st ns := by
  obtain ⟨⟨phase, st', w, lines⟩, l, asked, unheard⟩ := r
  obtain ⟨htexts, hrunning, hlines⟩ := h
  have hstep := (⟨phase, st', w⟩ : Run σ).advance_step out
  rw [turn_session]
  generalize (⟨phase, st', w⟩ : Run σ).advance out = run at hstep
  cases hstep with
  | @take _ _ c cs hq =>
    refine ⟨htexts, fun _ => rfl, ?_⟩
    simpa [Relay.lines, toCome, Run.end?, Phase.current, hq] using hlines
  | miss | wake =>
    refine ⟨htexts, fun _ => hrunning rfl, ?_⟩
    simpa [Relay.lines, toCome, Run.end?, Phase.current] using hlines
  | leave hq =>
    rw [hrunning rfl] at hq
    cases hq
  | @execute _ _ c hc =>
    refine ⟨(textsOf_execute st' w c).trans htexts, fun _ => ?_, ?_⟩
    · simpa using hrunning rfl
    · rw [← hlines]
      simp [Relay.lines, toCome, Run.end?, Phase.current, written, hc, htexts]
  | @finish _ _ c e hc =>
    refine ⟨htexts, fun _ => hrunning rfl, ?_⟩
    rw [← hlines]
    simp [Relay.lines, toCome, Run.end?, Phase.current, written, hc, htexts]
  | stop =>
    refine ⟨htexts, fun ho => (by cases ho), ?_⟩
    simpa [Relay.lines, toCome, Run.end?, Phase.current] using hlines
  | rest =>
    refine ⟨htexts, fun ho => (by cases ho), ?_⟩
    simpa [Relay.lines, toCome, Run.end?, Phase.current] using hlines

theorem Faithful.offer (h : r.Faithful st ns) : r.offer.Faithful st ns := by
  obtain ⟨⟨phase, st', w, lines⟩, l, asked, unheard⟩ := r
  obtain ⟨htexts, hrunning, hlines⟩ := h
  cases asked with
  | none => exact ⟨htexts, hrunning, hlines⟩
  | some c =>
    cases hr : st'.queue.running with
    | true =>
      have hq := Queue.push_running hr c
      refine ⟨htexts, fun _ => ?_, ?_⟩
      · simp [Relay.offer, Run.push, hq]
      · rw [← hlines]
        simp [Relay.offer, Relay.lines, toCome, Run.push, hq, Run.end?]
    | false =>
      have hq := Queue.push_stopped hr c
      cases phase with
      | ended e =>
        refine ⟨?_, fun ho => (by cases ho), hlines⟩
        simpa [Relay.offer, Run.push, hq] using htexts
      | _ => exact absurd (hrunning rfl) (by simp [hr])

theorem Faithful.hear (h : r.Faithful st ns) (ha : r.asked = none) : (r.hear out).Faithful st ns := by
  obtain ⟨⟨phase, st', w, lines⟩, l, asked, unheard⟩ := r
  obtain rfl : asked = none := ha
  obtain ⟨htexts, hrunning, hlines⟩ := h
  cases unheard with
  | nil => exact ⟨htexts, hrunning, hlines⟩
  | cons n unheard =>
    refine ⟨htexts, hrunning, ?_⟩
    rw [← hlines]
    simp only [Relay.hear, surroundings, Station.notify_all_recording, Relay.lines, toCome,
      linesForAll_cons st l st'.wantsActive n, written_append]
    rfl

theorem Faithful.play (h : r.Faithful st ns) (turns : List Turn) : (r.play out turns).Faithful st ns := by
  induction turns generalizing r with
  | nil => exact h
  | cons t turns ih =>
    rw [play_cons]
    refine ih ?_
    cases t with
    | adapter =>
      simp only [turn]
      cases ha : r.asked with
      | none => exact h.hear ha
      | some c => exact h.offer
    | session => exact h.session

/-- An adapter reports to a session that finds its queue empty. Whatever it reports, and whenever it and the session take
    their turns: what is written is always a part of the lines that the notifications should come to, from the first
    line on, and it is all of them once the session is at its end or nothing is left to do. -/
theorem lines_eq_linesForAll (out : Outlet σ) (st : Station) (empty : st.queue = ⟨true, []⟩) (l : Listener) (w : σ)
    (ns : List Notification) {phase : Phase} (ready : phase = .polling ∨ phase = .waiting) (turns : List Turn) :
    let r := (begin phase st l w ns).play out turns
    let expected := linesForAll st.emitter.tag st.hooks.onStandby ns
    r.lines <+: expected ∧ (r.run.end?.isSome = true ∨ r.isDrained = true → r.lines = expected) := by
  intro r expected
  have hb : (begin phase st l w ns).Faithful st ns := by
    refine ⟨rfl, fun _ => congrArg Queue.running empty, ?_⟩
    rcases ready with rfl | rfl <;> simp [Relay.lines, begin, toCome, Run.end?, Phase.current, empty, written]
  have hr : r.lines ++ r.toCome st = expected := (hb.play turns).lines
  refine ⟨⟨_, hr⟩, fun hdone => ?_⟩
  have hnone : r.toCome st = [] := by
    rcases hdone with he | hd
    · simp [toCome, he]
    · simp only [isDrained, Bool.and_eq_true, List.isEmpty_iff, Option.isNone_iff_eq_none] at hd
      obtain ⟨⟨⟨hu, ha⟩, hq⟩, hc⟩ := hd
      simp [toCome, hu, ha, hq, hc, written, linesForAll]
  rw [← hr, hnone, List.append_nil]

/-- The link is lost while a diagonal key and a request to sleep are on their way; a key behind it writes nothing. -/
theorem lines_eq_linesForAll_connectionLost :
    let st : Station := { Station.fresh true .unset "tag" with queue := ⟨true, []⟩ }
    let ns : List Notification := [.key (.press 0x05), .frame ⟨.tv, .broadcast, .standby, []⟩, .alert .connectionLost,
      .key (.press 0x00)]
    let turns : List Turn := [.adapter, .session, .adapter, .session, .session, .adapter, .session, .adapter, .session,
      .adapter, .session, .session, .adapter, .session, .session, .session, .adapter, .session, .adapter]
    let r := (begin .waiting st .fresh Record.empty ns).play (Record.outlet fun _ => none) turns
    st.queue = ⟨true, []⟩ ∧ r.run.phase = .ended .restart ∧
      r.lines = ["5 0 KEY_RIGHT tag\n", "5 0 KEY_UP tag\n", "40 0 KEY_POWER tag\n", "40 0 KEY_POWER tag\n"] := by
  intro st ns turns r
  have hended : r.run.phase = .ended .restart := by decide
  have hlines := (lines_eq_linesForAll (Record.outlet fun _ => none) st rfl .fresh Record.empty ns (Or.inr rfl) turns).2
    (Or.inl (by decide))
  exact ⟨rfl, hended, hlines.trans (by decide)⟩

end Relay

end KeyFeed.Session
