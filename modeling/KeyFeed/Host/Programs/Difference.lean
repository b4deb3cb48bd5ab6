import KeyFeed.Host.Programs.Making

/-! The lines in which two files differ, as the changes that make the one out of the other. -/

namespace KeyFeed.Host.Programs
open Text

/-- The lengths of the longest common parts of one line list with all ends of another, from the lengths for the rest of the
    first. -/
def nextRow (a : List Char) (bs : List (List Char)) (row : List Nat) : List Nat :=
  match bs, row with
  | b :: bs, n :: row =>
    let rest := nextRow a bs row
    (if a = b then row.headD 0 + 1 else max n (rest.headD 0)) :: rest
  | _, _ => [0]

/-- For each end of the first list, the lengths of its longest common parts with all ends of the second. -/
def commonLengths (bs : List (List Char)) : List (List Char) → List (List Nat)
  | [] => [List.replicate (bs.length + 1) 0]
  | a :: as =>
    let rows := commonLengths bs as
    nextRow a bs (rows.headD []) :: rows

/-- How lines are kept, left out, or put in; at most `fuel` of them. -/
inductive LineStep where
  | keep (line : List Char)
  | drop (line : List Char)
  | add (line : List Char)
  deriving DecidableEq, Repr

def stepsBetween : Nat → List (List Char) → List (List Char) → List (List Nat) → List LineStep
  | 0, _, _, _ => []
  | _ + 1, [], bs, _ => bs.map .add
  | _ + 1, as, [], _ => as.map .drop
  | fuel + 1, a :: as, b :: bs, rows =>
    let here := rows.headD []
    let below := (rows.drop 1).headD []
    if a = b then .keep a :: stepsBetween fuel as bs ((rows.drop 1).map (·.drop 1))
    else if (here.drop 1).headD 0 ≤ below.headD 0 then .drop a :: stepsBetween fuel as (b :: bs) (rows.drop 1)
    else .add b :: stepsBetween fuel (a :: as) bs (rows.map (·.drop 1))

/-- Lines that are left out and lines that are put in at one place, with the numbers of the lines before them. -/
structure Change where
  before : Nat
  dropped : List (List Char)
  after : Nat
  added : List (List Char)

/-- The changes among steps. -/
def changesOf (steps : List LineStep) : List Change :=
  let (done, current, _, _) := steps.foldl (fun ((done, current, m, n) : List Change × Option Change × Nat × Nat) step =>
    let c := current.getD ⟨m, [], n, []⟩
    match step with
    | .keep _ => (current.toList ++ done, none, m + 1, n + 1)
    | .drop line => (done, some { c with dropped := c.dropped ++ [line] }, m + 1, n)
    | .add line => (done, some { c with added := c.added ++ [line] }, m, n + 1)) ([], none, 0, 0)
  (current.toList ++ done).reverse

/-- A line with a mark in front, and with a remark if its end is missing. -/
def markedLine (mark : List Char) (line : List Char) : List Char :=
  if line.getLast? = some '\n' then mark ++ line else mark ++ line ++ "\n\\ No newline at end of file\n".toList

/-- The numbers of the lines of a change. -/
def lineSpan (start count : Nat) : String :=
  if count ≤ 1 then decimal (if count = 0 then start else start + 1)
  else decimal (start + 1) ++ "," ++ decimal (start + count)

def Change.text (c : Change) : List Char :=
  let letter := if c.dropped.isEmpty then "a" else if c.added.isEmpty then "d" else "c"
  (lineSpan c.before c.dropped.length ++ letter ++ lineSpan c.after c.added.length ++ "\n").toList
    ++ (c.dropped.map (markedLine ['<', ' '])).flatten
    ++ (if c.dropped.isEmpty || c.added.isEmpty then [] else "---\n".toList)
    ++ (c.added.map (markedLine ['>', ' '])).flatten

def diff (c : Call) : Report :=
  c.withOptions (.of "abBciqrsuwyNEd" [("brief", 'q'), ("report-identical-files", 's'), ("unified", 'u'), ("ignore-case", 'i'),
      ("ignore-all-space", 'w'), ("ignore-space-change", 'b'), ("recursive", 'r'), ("new-file", 'N')]) 2
      fun given operands => match operands with
    | [] => c.confused 2 "missing operand after 'diff'"
    | [only] => c.confused 2 ("missing operand after " ++ quoted only)
    | _ :: _ :: extra :: _ => c.confused 2 ("extra operand " ++ quoted extra)
    | [first, second] =>
      let second := if c.files.holdsDirectory second && !c.files.holdsDirectory first then inside second first else second
      let read (path : String) : Except OsError (List Char) := match c.contentOf c.files path with
        | .error .noEntry => if given.has 'N' then .ok [] else .error .noEntry
        | result => result
      match read first, read second with
      | .error e, .error f =>
        ((Report.quiet 2 c).complain c.name (first ++ ": " ++ reason e)).complain c.name (second ++ ": " ++ reason f)
      | .error e, _ => c.refuse 2 (first ++ ": " ++ reason e)
      | _, .error e => c.refuse 2 (second ++ ": " ++ reason e)
      | .ok a, .ok b =>
        let r := { Report.quiet 0 c with taken := if c.isInput first || c.isInput second then c.input.length else 0 }
        let seen (line : List Char) : List Char :=
          let line := if given.has 'i' then line.map Char.toLower else line
          if given.has 'w' then line.filter fun d => d != ' ' && d != '\t' else line
        let (as, bs) := (linesOf a, linesOf b)
        if as.map seen = bs.map seen then
          if given.has 's' then r.say ("Files " ++ first ++ " and " ++ second ++ " are identical\n").toList else r
        else if given.has 'q' then
          (r.say ("Files " ++ first ++ " and " ++ second ++ " differ\n").toList).setStatus 1
        else
          let changes := changesOf (stepsBetween (as.length + bs.length + 1) (as.map seen) (bs.map seen)
            (commonLengths (bs.map seen) (as.map seen)))
          (r.say (changes.map Change.text).flatten).setStatus 1

end KeyFeed.Host.Programs
