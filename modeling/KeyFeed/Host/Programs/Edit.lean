import KeyFeed.Host.Programs.EditScript
import KeyFeed.Host.Programs.Showing

/-! Editing lines one after the other as a script says: each is changed in a buffer of its own and printed at the end of
    the script, unless that is turned off. -/

namespace KeyFeed.Host.Programs
open Text Shell

/-- A line to be edited: its text, whether it has an end, whether it is the last of its file, and which file that is. -/
structure EditLine where
  text : List Char
  ended : Bool
  endsFile : Bool
  file : Nat
  deriving DecidableEq, Repr

/-- Where a choice of a row of lines has got to. -/
inductive RowState where
  | waiting
  /-- Up to the line of that number, or as long as nothing ends the row. -/
  | active (last : Option Nat)
  | past
  deriving DecidableEq, Repr

structure EditState where
  buffer : List Char
  held : List Char
  number : Nat
  line : EditLine
  rest : List EditLine
  /-- What is printed behind the line: texts, and files that are read. -/
  appended : List (String ⊕ List Char)
  replaced : Bool
  rows : List (Nat × RowState)
  lastRegex : Option EditRegex
  /-- What was printed for each file, the last of it first. -/
  printed : List (Nat × List Char)
  /-- Whether what was printed last lacks the end of its line. -/
  unended : Bool
  /-- What was written to files, the last of it first. -/
  written : List (String × List Char)

/-- How a script is run. -/
structure EditRules where
  silent : Bool
  /-- Whether each file counts its lines for itself. -/
  separate : Bool
  mark : Char
  names : List String
  width : Nat

namespace EditState

/-- Prints a text; a line end that is still missing comes first. -/
def print (k : EditRules) (text : List Char) (s : EditState) : EditState :=
  { s with
    printed := (s.line.file, text) :: (if s.unended then (s.line.file, [k.mark]) :: s.printed else s.printed)
    unended := false }

/-- Prints a line as it came, with its end or without. -/
def printLine (k : EditRules) (text : List Char) (s : EditState) : EditState :=
  if s.line.ended then s.print k (text ++ [k.mark]) else { s.print k text with unended := true }

def write (k : EditRules) (path : String) (text : List Char) (s : EditState) : EditState :=
  if path = "/dev/stdout" then s.print k (text ++ [k.mark])
  else { s with written := (path, text ++ [k.mark]) :: s.written }

/-- Prints what was put behind the line. -/
def flush (fs : Files) (k : EditRules) (s : EditState) : EditState :=
  { s.appended.foldl (fun (s : EditState) piece => match piece with
    | .inr text => s.print k text
    | .inl path => match fs.bytesAt path with
      | .ok bytes =>
        let text := ofBytesPlain bytes
        if text.isEmpty then s else s.print k text
      | .error _ => s) s with appended := [] }

/-- Whether no line follows. -/
def isLast (k : EditRules) (s : EditState) : Bool := s.rest.isEmpty || (k.separate && s.line.endsFile)

/-- Goes on to the next line, if there is one. -/
def advance (k : EditRules) (s : EditState) : Option EditState :=
  match s.rest with
  | [] => none
  | line :: rest => some { s with
      number := if k.separate && line.file != s.line.file then 1 else s.number + 1
      line := line, rest := rest, replaced := false }

end EditState

/-! ### Which lines -/

/-- The expression that is meant, and the one that will have been used last then. -/
def EditRegex.resolve (r : EditRegex) (last : Option EditRegex) : Option (Regex × Manner) × Option EditRegex :=
  match r.regex with
  | some x => (some (x, r.manner), some r)
  | none => match last with
    | some l => (l.regex.map fun x => (x, l.manner), last)
    | none => (none, none)

def LineMark.holds (k : EditRules) (s : EditState) : LineMark → Bool × EditState
  | .number n => (s.number = n, s)
  | .last => (s.isLast k, s)
  | .stepping first step => (if step = 0 then s.number = first else first ≤ s.number && (s.number - first) % step = 0, s)
  | .matching r =>
    let (found, recent) := r.resolve s.lastRegex
    let s := { s with lastRegex := recent }
    match found with
    | some (x, manner) => ((x.find manner s.buffer.toArray 0).isSome, s)
    | none => (false, s)

/-- Whether a command is for the line, whether it will be for the next one too, and the row that goes on then. -/
def LineChoice.holds (k : EditRules) (index : Nat) (c : LineChoice) (s : EditState) : Bool × EditState :=
  let setRow (r : RowState) (s : EditState) : EditState := { s with rows := (index, r) :: s.rows.filter (·.1 != index) }
  let row := ((s.rows.find? (·.1 == index)).map (·.2)).getD
    (if c.first = some (.number 0) then .active none else .waiting)
  let begin (first : LineMark) (second : RowEnd) : Bool × EditState :=
    let (yes, s) := first.holds k s
    if !yes then (false, s)
    else match second with
      | .mark (.number n) => (true, if n ≤ s.number then s else setRow (.active (some n)) s)
      | .after n => (true, if n = 0 then s else setRow (.active (some (s.number + n))) s)
      | .multiple n =>
        let last := if n = 0 then s.number else (s.number + n - 1) / n * n
        (true, if last ≤ s.number then s else setRow (.active (some last)) s)
      | .mark _ => (true, setRow (.active none) s)
  let (yes, s) := match c.first, c.second with
    | none, _ => (true, s)
    | some first, none => first.holds k s
    | some first, some second => match row with
      | .active (some last) =>
        if last < s.number then begin first second
        else (true, if last = s.number then setRow .waiting s else s)
      | .active none => match second with
        | .mark m =>
          let (ends, s) := m.holds k s
          (true, if ends then setRow (if first = .number 0 then .past else .waiting) s else s)
        | _ => (true, setRow .waiting s)
      | .waiting => begin first second
      | .past => (false, s)
  (yes != c.negated, s)

/-- Whether the row of lines that a choice is in goes on behind this line. -/
def LineChoice.goesOn (index : Nat) (s : EditState) : Bool :=
  s.rows.any fun (i, r) => i = index && match r with
    | .active _ => true
    | _ => false

/-! ### Replacing -/

/-- How letters are changed: all that follow, and the next one. -/
structure Turning where
  all : Option Char
  next : Option Char

def Turning.apply (t : Turning) (cs : List Char) : List Char × Turning :=
  let turned (kind : Option Char) (c : Char) : Char := match kind with
    | some 'U' | some 'u' => c.toUpper
    | some 'L' | some 'l' => c.toLower
    | _ => c
  match cs with
  | [] => ([], t)
  | c :: rest =>
    ((if t.next.isSome then turned t.next (turned t.all c) else turned t.all c) :: rest.map (turned t.all),
      { t with next := none })

/-- What is put in place of a match. -/
def replacement (parts : List Substitute) (text : Array Char) (start : Nat) (found : Progress) : List Char :=
  (parts.foldl (fun ((done, t) : List (List Char) × Turning) part => match part with
    | .turn 'E' => (done, ⟨none, none⟩)
    | .turn kind => (done, if kind = 'U' || kind = 'L' then ⟨some kind, none⟩ else { t with next := some kind })
    | .char c =>
      let (cs, t) := t.apply [c]
      (cs :: done, t)
    | .group n =>
      let (cs, t) := t.apply (if n = 0 then (text.extract start found.position).toList else found.groupText text n)
      (cs :: done, t)) ([], ⟨none, none⟩)).1.reverse.flatten

/-- A text with matches replaced, and whether there was one; at most `fuel` of them. -/
def replaceIn (x : Regex) (m : Manner) (s : Substitution) (text : Array Char) :
    Nat → Nat → Nat → Option Nat → List Char × Bool
  | 0, _, position, _ => ((text.extract position text.size).toList, false)
  | fuel + 1, count, position, previous => match x.find m text position with
    | none => ((text.extract position text.size).toList, false)
    | some (start, found) =>
      let before := (text.extract position start).toList
      let stop := found.position
      if start = stop && previous = some start then
        match text[start]? with
        | none => (before, false)
        | some c =>
          let (rest, replaced) := replaceIn x m s text fuel count (start + 1) none
          (before ++ c :: rest, replaced)
      else
        let count := count + 1
        let chosen := if s.every then s.number ≤ count else count = s.number
        let here := if chosen then replacement s.parts text start found else (text.extract start stop).toList
        if chosen && !s.every then (before ++ here ++ (text.extract stop text.size).toList, true)
        else if start = stop then
          match text[start]? with
          | none => (before ++ here, chosen)
          | some c =>
            let (rest, replaced) := replaceIn x m s text fuel count (start + 1) none
            (before ++ here ++ c :: rest, chosen || replaced)
        else
          let (rest, replaced) := replaceIn x m s text fuel count stop (some stop)
          (before ++ here ++ rest, chosen || replaced)

/-! ### Commands -/

/-- How a script goes on after a command. -/
inductive EditFlow where
  | onward
  | jump (target : Nat)
  /-- To the end of the script, where the line is printed. -/
  | endScript
  /-- To the next line, or to the same one again, without printing. -/
  | nextLine
  | again
  | quit (status : Nat) (printing : Bool)

/-- A text with everything that cannot be seen as an escape, in lines of a width. -/
def listed (width : Nat) (cs : List Char) : List Char :=
  let shown (c : Char) : List Char := match c with
    | '\\' => ['\\', '\\']
    | '\x07' => ['\\', 'a']
    | '\x08' => ['\\', 'b']
    | '\x0c' => ['\\', 'f']
    | '\n' => ['\\', 'n']
    | '\r' => ['\\', 'r']
    | '\t' => ['\\', 't']
    | '\x0b' => ['\\', 'v']
    | c => if ' ' ≤ c && c ≤ '~' then [c] else '\\' :: padded 3 (Nat.toDigits 8 c.toNat)
  let (lines, last, _) := cs.foldl (fun ((done, row, n) : List (List Char) × List Char × Nat) c =>
    let piece := shown c
    if 1 < width && width - 1 < n + piece.length then ((row ++ ['\\', '\n']) :: done, piece, piece.length)
    else (done, row ++ piece, n + piece.length)) ([], [], 0)
  lines.reverse.flatten ++ last ++ ['$', '\n']

/-- The place of the brace that closes the block which begins at an index; at most `fuel` commands further. -/
def closingOf (commands : Array (LineChoice × EditCommand)) : Nat → Nat → Nat → Nat
  | 0, index, _ => index
  | fuel + 1, index, depth => match commands[index]? with
    | none => index
    | some (_, .opening) => closingOf commands fuel (index + 1) (depth + 1)
    | some (_, .closing) => if depth ≤ 1 then index else closingOf commands fuel (index + 1) (depth - 1)
    | some _ => closingOf commands fuel (index + 1) depth

def labelIndex (commands : Array (LineChoice × EditCommand)) (name : String) : Nat :=
  (commands.findIdx? fun (_, command) => command == .label name).getD commands.size

/-- Does what a command says. -/
def perform (fs : Files) (k : EditRules) (commands : Array (LineChoice × EditCommand)) (index : Nat) (command : EditCommand)
    (s : EditState) : EditFlow × EditState :=
  match command with
  | .opening | .closing | .label _ => (.onward, s)
  | .branch letter name =>
    let target := if name.isEmpty then EditFlow.endScript else .jump (labelIndex commands name)
    match letter, s.replaced with
    | 'b', _ => (target, s)
    | 't', true | 'T', false => (target, { s with replaced := false })
    | _, _ => (.onward, { s with replaced := false })
  | .quit letter status => (.quit status (letter = 'q'), s)
  | .text 'i' text => (.onward, if text.isEmpty then s else s.print k text)
  | .text 'a' text => (.onward, { s with appended := s.appended ++ [.inr text] })
  | .text _ text =>
    (.nextLine, if LineChoice.goesOn index s || text.isEmpty then s else s.print k text)
  | .file 'r' path => (.onward, { s with appended := s.appended ++ [.inl path] })
  | .file 'w' path => (.onward, s.write k path s.buffer)
  | .file 'W' path => (.onward, s.write k path (s.buffer.takeWhile (· != '\n')))
  | .file _ _ => (.onward, s)
  | .exchange pairs =>
    (.onward, { s with buffer := s.buffer.map fun c => ((pairs.find? (·.1 == c)).map (·.2)).getD c })
  | .list width => (.onward, s.print k (listed (width.getD k.width) s.buffer))
  | .substitute sub =>
    let (found, last) := sub.pattern.resolve s.lastRegex
    let s := { s with lastRegex := last }
    match found with
    | none => (.onward, s)
    | some (x, m) =>
      let text := s.buffer.toArray
      let (new, replaced) := replaceIn x m sub text (2 * text.size + 3) 0 0 none
      if !replaced then (.onward, s)
      else
        let s := { s with buffer := new, replaced := true }
        let s := if sub.printed then s.printLine k new else s
        (.onward, match sub.file with
          | some path => s.write k path new
          | none => s)
  | .plain letter => match letter with
    | '=' => (.onward, s.print k (decimalDigits s.number ++ ['\n']))
    | 'd' => (.nextLine, s)
    | 'D' =>
      if s.buffer.contains '\n' then (.again, { s with buffer := (s.buffer.dropWhile (· != '\n')).drop 1 })
      else (.nextLine, s)
    | 'F' => (.onward, s.print k ((k.names[s.line.file]?).getD "-").toList |>.print k ['\n'])
    | 'g' => (.onward, { s with buffer := s.held })
    | 'G' => (.onward, { s with buffer := s.buffer ++ k.mark :: s.held })
    | 'h' => (.onward, { s with held := s.buffer })
    | 'H' => (.onward, { s with held := s.held ++ k.mark :: s.buffer })
    | 'x' => (.onward, { s with buffer := s.held, held := s.buffer })
    | 'z' => (.onward, { s with buffer := [] })
    | 'p' => (.onward, s.printLine k s.buffer)
    | 'P' => (.onward, s.print k (s.buffer.takeWhile (· != '\n') ++ [k.mark]))
    | 'n' =>
      let after := if k.silent then s else s.printLine k s.buffer
      match (after.flush fs k).advance k with
      | some s => (.onward, { s with buffer := s.line.text })
      | none => (.quit 0 false, after)
    | 'N' => match (s.flush fs k).advance k with
      | some after => (.onward, { after with buffer := s.buffer ++ k.mark :: after.line.text })
      | none => (.quit 0 true, s)
    | _ => (.onward, s)

/-- Runs a script on the line in the buffer, and then on those that follow, until none is left or it is told to quit. Each
    step takes some fuel. -/
def runEdit (fs : Files) (k : EditRules) (commands : Array (LineChoice × EditCommand)) :
    Nat → Nat → EditState → Nat × EditState
  | 0, _, s => (0, s)
  | fuel + 1, index, s =>
    let next (s : EditState) : Nat × EditState :=
      let s := s.flush fs k
      match s.advance k with
      | none => (0, s)
      | some s => runEdit fs k commands fuel 0 { s with buffer := s.line.text }
    let finish (s : EditState) : Nat × EditState := next (if k.silent then s else s.printLine k s.buffer)
    match commands[index]? with
    | none => finish s
    | some (choice, command) =>
      let (yes, s) := choice.holds k index s
      if !yes then
        runEdit fs k commands fuel
          (if command = .opening then closingOf commands commands.size (index + 1) 1 + 1 else index + 1) s
      else match perform fs k commands index command s with
        | (.onward, s) => runEdit fs k commands fuel (index + 1) s
        | (.jump target, s) => runEdit fs k commands fuel target s
        | (.endScript, s) => finish s
        | (.nextLine, s) => next s
        | (.again, s) => runEdit fs k commands fuel 0 (s.flush fs k)
        | (.quit status printing, s) =>
          (status, (if printing && !k.silent then s.printLine k s.buffer else s).flush fs k)

/-! ### The program -/

/-- All texts under one key, one after the other. -/
def textUnder {κ : Type} [BEq κ] (key : κ) (texts : List (κ × List Char)) : List Char :=
  ((texts.filter fun (k, _) => k == key).map Prod.snd).flatten

/-- The lines of a text; the last one may have no end. -/
def editLines (mark : Char) (file : Nat) (text : List Char) : List EditLine :=
  let parts := fields mark text
  let ended := (parts.dropLast).map fun line => EditLine.mk line true false file
  let all : List EditLine := match parts.getLast? with
    | some (c :: cs) => ended ++ [EditLine.mk (c :: cs) false false file]
    | _ => ended
  match all.getLast? with
  | some last => all.dropLast ++ [{ last with endsFile := true }]
  | none => []

/-- Takes out the option for editing files in their place, with the ending that it gives to copies of the old ones. -/
def takeInPlace : List String → List String × Option String
  | [] => ([], none)
  | arg :: args =>
    let others := takeInPlace args
    match arg.toList with
    | ['-', '-'] => (arg :: args, none)
    | '-' :: cs =>
      let letters := cs.takeWhile ['n', 'E', 'r', 's', 'u', 'z'].contains
      match cs.drop letters.length with
      | 'i' :: ending =>
        ((if letters.isEmpty then [] else [String.ofList ('-' :: letters)]) ++ others.1, some (String.ofList ending))
      | _ =>
        if arg.startsWith "--in-place" then
          (others.1, some (String.ofList (((cut? '=' cs).map (·.2)).getD [])))
        else (arg :: others.1, others.2)
    | _ => (arg :: others.1, others.2)

def sed (c : Call) : Report :=
  let (args, inPlace) := takeInPlace c.args
  let table := OptionTable.of "ne:f:ErsuzbI" [("quiet", 'n'), ("silent", 'n'), ("expression", 'e'), ("file", 'f'),
    ("regexp-extended", 'E'), ("separate", 's'), ("unbuffered", 'u'), ("null-data", 'z'), ("posix", 'b')]
  let usage := "Usage: " ++ c.name ++ " [OPTION]... \x7bscript-only-if-no-other-script\x7d [input-file]...\n"
  match readOptions table args with
  | .error e => { Report.quiet 1 c with said := [(2, (c.name ++ ": " ++ e.message ++ "\n" ++ usage).toList)] }
  | .ok (options, operands) =>
    let given : Given := ⟨options⟩
    if given.has 'I' then { Report.quiet 1 c with said := [(2, usage.toList)] }
    else
      let pieces : Except String (List String) := (options.filter fun (d, _) => d = 'e' || d = 'f').mapM fun (d, value) =>
        if d = 'e' then .ok value
        else match c.contentOf c.files value with
          | .ok cs => .ok (String.ofList (if cs.getLast? = some '\n' then cs.dropLast else cs))
          | .error e => .error ("couldn't open file " ++ value ++ ": " ++ reason e)
      let explicit := given.has 'e' || given.has 'f'
      match pieces, explicit, operands with
      | .error text, _, _ => c.refuse 1 text
      | .ok _, false, [] => { Report.quiet 1 c with said := [(2, usage.toList)] }
      | .ok pieces, _, _ =>
        let script := if explicit then String.intercalate "\n" pieces else operands.headD ""
        let operands := if explicit then operands else operands.drop 1
        match readEditScript (given.has 'E' || given.has 'r') script.toList with
        | .error (.labelMissing l, _) => c.refuse 1 (EditError.labelMissing l).message
        | .error (e, n) => c.refuse 1 ("-e expression #1, char " ++ decimal n ++ ": " ++ e.message)
        | .ok commands =>
          let mark := if given.has 'z' then '\x00' else '\n'
          let paths := if operands.isEmpty then ["-"] else operands
          let k : EditRules :=
            ⟨given.has 'n' || script.startsWith "#n\n", given.has 's' || inPlace.isSome, mark, paths, 70⟩
          let (r, texts) := paths.foldl (fun ((r, texts) : Report × List (Nat × List Char)) path =>
            let file := texts.length
            if c.isInput path && inPlace.isNone then
              (r.drained c, texts ++ [(file, c.input.drop r.taken)])
            else match c.contentOf r.files path with
              | .ok cs => (r, texts ++ [(file, cs)])
              | .error .isADirectory => (if inPlace.isSome then
                  (r.complain c.name ("couldn't edit " ++ path ++ ": not a regular file")).setStatus 4
                else (r.complain c.name ("read error on " ++ path ++ ": Is a directory")).setStatus 2, texts ++ [(file, [])])
              | .error e => ((r.complain c.name ("can't read " ++ path ++ ": " ++ reason e)).setStatus 2, texts ++ [(file, [])]))
            (.quiet 0 c, [])
          let lines := (texts.map fun (file, cs) => editLines mark file cs).flatten
          let program := commands.toArray
          let (status, printed, written) : Nat × List (Nat × List Char) × List (String × List Char) := match lines with
            | [] => (0, [], [])
            | first :: rest =>
              let begun : EditState := ⟨first.text, [], 1, first, rest, [], false, [], none, [], false, []⟩
              let (status, s) := runEdit c.files k program (100000 + 1000 * lines.length) 0 begun
              let s := if inPlace.isSome then s.rest.foldl (fun (s : EditState) line =>
                  { s with line := line }.printLine k line.text) s else s
              (status, s.printed.reverse, s.written.reverse)
          let targets := commands.filterMap fun (_, command) => match command with
            | .file 'w' path | .file 'W' path => some path
            | .substitute sub => sub.file
            | _ => none
          let r := (targets.eraseDups.filter (· != "/dev/stdout")).foldl (fun (r : Report) path =>
            let text := textUnder path written
            match writeTo false path text r with
            | .ok r => r
            | .error e => (r.complain c.name ("couldn't open file " ++ path ++ ": " ++ reason e)).setStatus 4) r
          let r := match inPlace with
            | none => r.say (printed.map Prod.snd).flatten
            | some ending => paths.zipIdx.foldl (fun (r : Report) (path, i) =>
                match r.files.bytesAt path with
                | .error _ => r
                | .ok old =>
                  let text := textUnder i printed
                  let saved := if ending.isEmpty then r.files
                    else ((r.files.write false (path ++ ending) old).toOption).getD r.files
                  { r with files := (saved.write false path (text.map toByte)).toOption.getD saved }) r
          (if r.status = 0 then r.setStatus status else r).complaintsFirst

end KeyFeed.Host.Programs
