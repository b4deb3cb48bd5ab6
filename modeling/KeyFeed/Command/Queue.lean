import KeyFeed.Command.Basic

/-! The queue between those who ask and the session that executes. It takes commands only while a session runs;
    starting and stopping throw away what is left, so nothing said to one session reaches the next. -/

namespace KeyFeed

structure Queue where
  running : Bool
  commands : List Command
  deriving DecidableEq, Repr

namespace Queue

/-- A queue before its first session. -/
def stopped : Queue := ⟨false, []⟩

def start (_ : Queue) : Queue := ⟨true, []⟩

/-- The queue without its commands, and how many those were. -/
def stop (q : Queue) : Nat × Queue := (q.commands.length, ⟨false, []⟩)

/-- Whether the command was taken, and the queue after that. -/
def push (c : Command) (q : Queue) : Bool × Queue :=
  if q.running then (true, { q with commands := q.commands ++ [c] }) else (false, q)

/-- The oldest command; a stopped queue gives none. -/
def pop (q : Queue) : Option Command × Queue :=
  match q.running, q.commands with
  | true, c :: cs => (some c, { q with commands := cs })
  | _, _ => (none, q)

/-- Whether one who waits for a command has reason to go on without one arriving. -/
def wakes (q : Queue) : Bool := !q.running || !q.commands.isEmpty

theorem push_running {q : Queue} (h : q.running = true) (c : Command) :
    q.push c = (true, ⟨true, q.commands ++ [c]⟩) := by
  obtain ⟨r, cs⟩ := q
  cases h
  rfl

theorem push_stopped {q : Queue} (h : q.running = false) (c : Command) : q.push c = (false, q) := by
  simp [push, h]

/-- A command is taken exactly while the queue runs. -/
theorem accepted_push (q : Queue) (c : Command) : (q.push c).1 = q.running := by
  cases h : q.running with
  | true => rw [push_running h]
  | false => rw [push_stopped h]

/-- Nothing that is pushed starts or stops a queue. -/
theorem running_push (q : Queue) (c : Command) : (q.push c).2.running = q.running := by
  rw [push]
  split <;> rfl

/-- A pop takes the oldest command of a running queue, or finds none and changes nothing. -/
theorem pop_cases (q : Queue) :
    (∃ c cs, q = ⟨true, c :: cs⟩ ∧ q.pop = (some c, ⟨true, cs⟩)) ∨
      ((q.running = false ∨ q.commands = []) ∧ q.pop = (none, q)) := by
  obtain ⟨running, commands⟩ := q
  cases running with
  | false => exact Or.inr ⟨Or.inl rfl, by cases commands <;> rfl⟩
  | true =>
    cases commands with
    | nil => exact Or.inr ⟨Or.inr rfl, rfl⟩
    | cons c cs => exact Or.inl ⟨c, cs, rfl, rfl⟩

end Queue

end KeyFeed
