import KeyFeed.Command.Queue
import Mathlib.Data.List.DropRight

/-! The history of a queue that any number of threads share. A thread uses the queue with its lock in hand, so the uses come
    one after another, in whatever order the threads get the lock, and a `History` notes each with what came back. Every start
    and every stop is a turn: what was pushed before it is never seen again. Since the latest turn, what was popped and what
    is still queued are together what was accepted, in that order (`Sound`). -/

namespace KeyFeed.Queue

/-! ### Uses -/

/-- What a thread does while it holds the lock. -/
inductive Use where
  | start
  | stop
  | push (thread : Nat) (c : Command)
  | pop
  /-- One who has waited for a command, or for the time to run out, looks whether the queue still runs. -/
  | wait
  deriving DecidableEq, Repr

/-- A use with what came back. -/
inductive Entry where
  | started
  | stopped (discarded : Nat)
  | pushed (thread : Nat) (c : Command) (accepted : Bool)
  | popped (c : Option Command)
  | waited (running : Bool)
  deriving DecidableEq, Repr

def use (q : Queue) : Use → Entry × Queue
  | .start => (.started, q.start)
  | .stop => (.stopped q.stop.1, q.stop.2)
  | .push thread c => (.pushed thread c (q.push c).1, (q.push c).2)
  | .pop => (.popped q.pop.1, q.pop.2)
  | .wait => (.waited q.running, q)

/-! ### What the entries say -/

/-- The commands before a turn are thrown away. -/
def Entry.isTurn : Entry → Bool
  | .started | .stopped _ => true
  | .pushed _ _ _ | .popped _ | .waited _ => false

def Use.isTurn : Use → Bool
  | .start | .stop => true
  | .push _ _ | .pop | .wait => false

/-- The command that the queue took, with the thread that pushed it. -/
def Entry.accepted? : Entry → Option (Nat × Command)
  | .pushed thread c true => some (thread, c)
  | _ => none

def Entry.popped? : Entry → Option Command
  | .popped c => c
  | _ => none

/-- The commands that the queue took, in the order of its lock. -/
def accepted (es : List Entry) : List (Nat × Command) := es.filterMap Entry.accepted?

/-- The commands that were popped, in their order. -/
def popped (es : List Entry) : List Command := es.filterMap Entry.popped?

/-- The entries since the latest turn. -/
def sinceTurn (es : List Entry) : List Entry := es.rtakeWhile fun e => !e.isTurn

def latestTurn (es : List Entry) : Option Entry := (es.filter Entry.isTurn).getLast?

/-- What one thread pushed among these commands, in the order in which it did. -/
def ofThread (thread : Nat) (cs : List (Nat × Command)) : List Command :=
  (cs.filter fun c => c.1 == thread).map Prod.snd

section
variable (es : List Entry) (e : Entry)

theorem sinceTurn_concat : sinceTurn (es ++ [e]) = if e.isTurn then [] else sinceTurn es ++ [e] := by
  cases he : e.isTurn <;> simp [sinceTurn, he]

theorem latestTurn_concat : latestTurn (es ++ [e]) = if e.isTurn then some e else latestTurn es := by
  cases he : e.isTurn <;> simp [latestTurn, he]

theorem popped_concat : popped (es ++ [e]) = popped es ++ e.popped?.toList := by
  cases he : e.popped? <;> simp [popped, he]

theorem accepted_concat : accepted (es ++ [e]) = accepted es ++ e.accepted?.toList := by
  cases he : e.accepted? <;> simp [accepted, he]

theorem popped_cons : popped (e :: es) = e.popped?.toList ++ popped es := by
  cases he : e.popped? <;> simp [popped, he]

theorem accepted_cons : accepted (e :: es) = e.accepted?.toList ++ accepted es := by
  cases he : e.accepted? <;> simp [accepted, he]

end

/-! ### What a use does -/

variable (q : Queue) (u : Use)

theorem isTurn_use : (q.use u).1.isTurn = u.isTurn := by
  cases u <;> rfl

/-- After a turn nothing is left of what was before. -/
theorem use_turn (hu : u.isTurn = true) : (q.use u).2 = ⟨u == .start, []⟩ := by
  cases u with
  | start | stop => rfl
  | push | pop | wait => cases hu

/-- A use that is no turn leaves the flag alone, and it leaves a stopped queue alone. -/
theorem use_frame (hu : u.isTurn = false) :
    (q.use u).2.running = q.running ∧ (q.running = false → (q.use u).2 = q) := by
  cases u with
  | start | stop => cases hu
  | wait => exact ⟨rfl, fun _ => rfl⟩
  | push thread c => exact ⟨q.running_push c, fun hq => by rw [use, push_stopped hq]⟩
  | pop =>
    rcases q.pop_cases with ⟨c, cs, hq, hp⟩ | ⟨-, hp⟩
    · rw [use, hp, hq]
      exact ⟨rfl, fun hr => by cases hr⟩
    · rw [use, hp]
      exact ⟨rfl, fun _ => rfl⟩

/-- What is popped comes from the front, and what is accepted goes to the back. -/
theorem use_balance (hu : u.isTurn = false) : (q.use u).1.popped?.toList ++ (q.use u).2.commands =
    q.commands ++ (q.use u).1.accepted?.toList.map Prod.snd := by
  cases u with
  | start | stop => cases hu
  | wait => simp [use, Entry.popped?, Entry.accepted?]
  | push thread c =>
    cases hq : q.running with
    | true => simp [use, push_running hq, Entry.popped?, Entry.accepted?]
    | false => simp [use, push_stopped hq, Entry.popped?, Entry.accepted?]
  | pop =>
    rcases q.pop_cases with ⟨c, cs, hq, hp⟩ | ⟨-, hp⟩
    · rw [use, hp, hq]
      simp [Entry.popped?, Entry.accepted?]
    · rw [use, hp]
      simp [Entry.popped?, Entry.accepted?]

/-! ### Histories -/

/-- A queue with the entries of its uses so far. -/
structure History where
  queue : Queue
  entries : List Entry
  deriving DecidableEq, Repr

namespace History

/-- A new queue. -/
def begin : History := ⟨.stopped, []⟩

def move (h : History) (u : Use) : History := ⟨(h.queue.use u).2, h.entries ++ [(h.queue.use u).1]⟩

/-- The uses of all threads, in the order in which they got the lock. -/
def play (us : List Use) (h : History) : History := us.foldl move h

@[simp] theorem play_nil (h : History) : h.play [] = h := rfl

@[simp] theorem play_cons (u : Use) (us : List Use) (h : History) : h.play (u :: us) = (h.move u).play us := rfl

theorem play_append (us vs : List Use) (h : History) : h.play (us ++ vs) = (h.play us).play vs := List.foldl_append

/-- What comes back does not depend on what is noted already. -/
theorem play_eq (us : List Use) (q : Queue) (es : List Entry) :
    (⟨q, es⟩ : History).play us = ⟨((⟨q, []⟩ : History).play us).queue, es ++ ((⟨q, []⟩ : History).play us).entries⟩ := by
  induction us generalizing q es with
  | nil => simp
  | cons u us ih =>
    rw [play_cons, play_cons, move, move, ih, ih _ ([] ++ _)]
    simp

/-- What every use keeps. -/
structure Sound (h : History) : Prop where
  clear : h.queue.running = false → h.queue.commands = []
  turn : h.queue.running = (latestTurn h.entries == some .started)
  balance : popped (sinceTurn h.entries) ++ h.queue.commands = (accepted (sinceTurn h.entries)).map Prod.snd

theorem sound_begin : begin.Sound := ⟨fun _ => rfl, rfl, rfl⟩

variable {h : History} {u : Use}

theorem Sound.move (hs : h.Sound) (u : Use) : (h.move u).Sound := by
  cases hu : u.isTurn with
  | true =>
    have hq := h.queue.use_turn u hu
    have he : (h.queue.use u).1.isTurn = true := (h.queue.isTurn_use u).trans hu
    refine ⟨fun _ => ?_, ?_, ?_⟩
    · simp [History.move, hq]
    · cases u with
      | start | stop => simp [History.move, latestTurn_concat, use, start, stop, Entry.isTurn]
      | push | pop | wait => cases hu
    · simp [History.move, sinceTurn_concat, he, hq, popped, accepted]
  | false =>
    obtain ⟨hr, hstopped⟩ := h.queue.use_frame u hu
    have he : (h.queue.use u).1.isTurn = false := (h.queue.isTurn_use u).trans hu
    refine ⟨fun hq => ?_, ?_, ?_⟩
    · have hq : h.queue.running = false := hr ▸ hq
      rw [History.move, hstopped hq]
      exact hs.clear hq
    · simpa [History.move, latestTurn_concat, he, hr] using hs.turn
    · simp [History.move, sinceTurn_concat, he, popped_concat, accepted_concat, use_balance _ _ hu, ← hs.balance]

theorem Sound.play (hs : h.Sound) (us : List Use) : (h.play us).Sound := by
  induction us generalizing h with
  | nil => exact hs
  | cons u us ih => exact ih (hs.move u)

/-- Whatever is popped was queued before or is accepted meanwhile, and it comes in that order. -/
theorem popped_sublist (us : List Use) (q : Queue) :
    let new := ((⟨q, []⟩ : History).play us).entries
    (popped new).Sublist (q.commands ++ (accepted new).map Prod.snd) := by
  induction us generalizing q with
  | nil => exact List.nil_sublist _
  | cons u us ih =>
    intro new
    have hnew : new = (q.use u).1 :: ((⟨(q.use u).2, []⟩ : History).play us).entries := by
      simp only [new, play_cons, History.move]
      rw [play_eq]
      rfl
    have ih := ih (q.use u).2
    rw [hnew, popped_cons, accepted_cons, List.map_append, ← List.append_assoc]
    cases hu : u.isTurn with
    | true =>
      -- Nothing that was queued before a turn comes after it.
      rw [use_turn q u hu] at ih
      have hnone : (q.use u).1.popped? = none ∧ (q.use u).1.accepted? = none := by
        cases u with
        | start | stop => exact ⟨rfl, rfl⟩
        | push | pop | wait => cases hu
      simpa [hnone, use_turn q u hu] using ih.trans (List.sublist_append_right q.commands _)
    | false =>
      rw [← use_balance q u hu, List.append_assoc]
      exact ih.append_left _

/-- Whatever threads do to a queue, and in whatever order they get its lock: the queue runs just when it was started after
    it was last stopped, and it is empty while it does not run. It takes a command exactly while it runs, and otherwise does
    not change. What was popped since the latest turn, with what is queued behind it, is all that was accepted since then, in
    that order; so is what each thread pushed, and a stop counts the commands that are left. What is popped after a turn was
    accepted after it, and comes back as it would if nothing had been done before the turn. -/
theorem popped_append_queued_eq_accepted (us : List Use) :
    let h := begin.play us
    let taken := accepted (sinceTurn h.entries)
    let gone := popped (sinceTurn h.entries)
    (h.queue.running = true ↔ latestTurn h.entries = some .started) ∧
    (h.queue.running = false → h.queue.commands = []) ∧
    (∀ c, (h.queue.push c).1 = h.queue.running ∧ ((h.queue.push c).1 = false → (h.queue.push c).2 = h.queue)) ∧
    gone ++ h.queue.commands = taken.map Prod.snd ∧
    (∀ thread, (ofThread thread taken).Sublist (gone ++ h.queue.commands)) ∧
    (gone.length + h.queue.stop.1 = taken.length ∧ (h.queue.running = false → h.queue.stop.1 = 0)) ∧
    ∀ before turn later, us = before ++ turn :: later → turn.isTurn = true →
      ∃ new, h.entries = (begin.play (before ++ [turn])).entries ++ new ∧
        (begin.play (turn :: later)).entries = (begin.play [turn]).entries ++ new ∧
        (popped new).Sublist ((accepted new).map Prod.snd) := by
  intro h taken gone
  have hs : h.Sound := sound_begin.play us
  have hbalance : gone ++ h.queue.commands = taken.map Prod.snd := hs.balance
  refine ⟨?_, hs.clear, fun c => ⟨accepted_push _ c, fun hp => ?_⟩, hbalance, fun thread => ?_, ⟨?_, fun hr => ?_⟩, ?_⟩
  · rw [hs.turn, beq_iff_eq]
  · rw [push_stopped ((accepted_push _ c).symm.trans hp)]
  · rw [hbalance]
    exact List.filter_sublist.map Prod.snd
  · have hlength := congrArg List.length hbalance
    rwa [List.length_append, List.length_map] at hlength
  · rw [stop, hs.clear hr, List.length_nil]
  · intro before turn later hus hturn
    -- After the turn the queue is the same, whatever it was before.
    let q : Queue := ⟨turn == .start, []⟩
    have hafter (es : List Use) : (begin.play (es ++ [turn])).queue = q := by
      rw [play_append]
      exact use_turn _ turn hturn
    have hsplit (es : List Use) : (begin.play (es ++ turn :: later)).entries =
        (begin.play (es ++ [turn])).entries ++ ((⟨q, []⟩ : History).play later).entries := by
      have happend : es ++ turn :: later = es ++ [turn] ++ later := by simp
      rw [happend, play_append, ← hafter es]
      exact congrArg entries (play_eq later _ _)
    refine ⟨((⟨q, []⟩ : History).play later).entries, ?_, hsplit [], ?_⟩
    · rw [← hsplit before, ← hus]
    · simpa [q] using popped_sublist later q

/-- Two threads push to a queue that is started anew while it runs; a command that comes too early is refused, and one that
    is left over is discarded. -/
theorem popped_append_queued_eq_accepted_restarted :
    let before : List Use := [.push 1 .exit, .start, .push 1 .standby]
    let later : List Use := [.push 2 .restart, .push 1 .activate, .pop, .wait, .push 2 .inactive, .pop, .stop, .pop]
    let h := begin.play (before ++ .start :: later)
    h.entries = [.pushed 1 .exit false, .started, .pushed 1 .standby true, .started, .pushed 2 .restart true,
      .pushed 1 .activate true, .popped (some .restart), .waited true, .pushed 2 .inactive true, .popped (some .activate),
      .stopped 1, .popped none] ∧
    ∃ new, h.entries = (begin.play (before ++ [.start])).entries ++ new ∧
      (popped new).Sublist ((accepted new).map Prod.snd) := by
  intro before later h
  refine ⟨by decide, ?_⟩
  obtain ⟨-, -, -, -, -, -, hturns⟩ := popped_append_queued_eq_accepted (before ++ .start :: later)
  obtain ⟨new, hnew, -, hsub⟩ := hturns before .start later rfl rfl
  exact ⟨new, hnew, hsub⟩

end History

end KeyFeed.Queue
