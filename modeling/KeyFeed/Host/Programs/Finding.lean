import KeyFeed.Host.Programs.Launch
import KeyFeed.Host.Programs.Listing
import KeyFeed.Host.Shell.Pattern

/-! Going through directories: each thing found is tested, and what passes is printed, taken away, or given to other
    programs. -/

namespace KeyFeed.Host.Programs
open Text Shell

/-- How a number is compared with the one that is asked for. -/
inductive Measure where
  | exactly (n : Nat)
  | above (n : Nat)
  | below (n : Nat)
  deriving DecidableEq, Repr

def Measure.holds (n : Nat) : Measure → Bool
  | .exactly m => n = m
  | .above m => m < n
  | .below m => n < m

/-- A test of something found, or something that is done with it. -/
inductive FindStep where
  | always
  | never
  | name (pattern : List Mark) (folded : Bool)
  | path (pattern : List Mark) (folded : Bool)
  | kind (letters : List Char)
  | empty
  | size (m : Measure) (unit : Nat)
  | mode (bits : Nat) (all : Bool)
  | links (m : Measure)
  | executable
  | print (ending : Char)
  | delete
  | prune
  | quit
  | run (words : List String) (together : Bool)
  | negated (s : FindStep)
  | both (first second : FindStep)
  | either (first second : FindStep)
  | inTurn (first second : FindStep)

inductive FindError where
  | unknown (word : String)
  | missingArgument (word : String)
  | wrongArgument (word value : String)
  | unclosed
  | misplaced (word : String)
  deriving DecidableEq, Repr

def FindError.message : FindError → String
  | .unknown w => "unknown predicate \x60" ++ w ++ "'"
  | .missingArgument w => "missing argument to \x60" ++ w ++ "'"
  | .wrongArgument w v => if w = "-type" then "Unknown argument to -type: " ++ v
      else "invalid argument \x60" ++ v ++ "' to \x60" ++ w ++ "'"
  | .unclosed => "invalid expression; I was expecting to find a ')' somewhere but did not see one."
  | .misplaced w => "paths must precede expression: \x60" ++ w ++ "'"

/-- How deep is looked, and whether what is in a directory comes before it. -/
structure FindBounds where
  least : Nat
  most : Option Nat
  deepFirst : Bool

def measure? (cs : List Char) : Option (Measure × List Char) :=
  let number (ds : List Char) : Option (Nat × List Char) :=
    let digits := ds.takeWhile isAsciiDigit
    (readDigits? 10 digits).map fun n => (n, ds.drop digits.length)
  match cs with
  | '+' :: ds => (number ds).map fun (n, r) => (.above n, r)
  | '-' :: ds => (number ds).map fun (n, r) => (.below n, r)
  | ds => (number ds).map fun (n, r) => (.exactly n, r)

/-- What a word asks for that takes one argument. -/
def stepOf (word value : String) : Except FindError FindStep :=
  let wrong : Except FindError FindStep := .error (.wrongArgument word value)
  let pattern (s : String) : List Mark := marks (s.toList.map fun c => (c, false))
  let lower (s : String) : String := String.ofList (s.toList.map Char.toLower)
  match word with
  | "-name" => .ok (.name (pattern value) false)
  | "-iname" => .ok (.name (pattern (lower value)) true)
  | "-path" | "-wholename" => .ok (.path (pattern value) false)
  | "-ipath" => .ok (.path (pattern (lower value)) true)
  | "-type" =>
    let letters := (fields ',' value.toList).flatten
    if letters.isEmpty || !letters.all "bcdflps".toList.contains then wrong else .ok (.kind letters)
  | "-size" => match measure? value.toList with
    | some (m, unit) => match unit with
      | [] | ['b'] => .ok (.size m 512)
      | ['c'] => .ok (.size m 1)
      | ['w'] => .ok (.size m 2)
      | ['k'] => .ok (.size m 1024)
      | ['M'] => .ok (.size m 1048576)
      | ['G'] => .ok (.size m 1073741824)
      | _ => wrong
    | none => wrong
  | "-links" => match measure? value.toList with
    | some (m, []) => .ok (.links m)
    | _ => wrong
  | "-perm" =>
    let digits := value.toList.dropWhile fun c => c = '-' || c = '/'
    match changedMode? false 0 (String.ofList digits) 0 with
    | some bits => .ok (.mode bits (value.startsWith "-"))
    | none => wrong
  | "-newer" | "-user" | "-group" | "-uid" | "-gid" => .ok (if word = "-newer" then .never else .always)
  | "-mtime" | "-mmin" | "-atime" | "-amin" | "-ctime" | "-cmin" => match measure? value.toList with
    | some (.exactly 0, _) | some (.below _, _) => .ok .always
    | some _ => .ok .never
    | none => wrong
  | _ => .error (.unknown word)

/-- Words that take one argument. -/
def findWords : List String :=
  ["-name", "-iname", "-path", "-wholename", "-ipath", "-type", "-size", "-links", "-perm", "-newer", "-user", "-group",
   "-uid", "-gid", "-mtime", "-mmin", "-atime", "-amin", "-ctime", "-cmin"]

/-- The words of a command, up to where it ends: at a semicolon, or at a plus sign behind a pair of braces. -/
def commandWords : List String → List String
  | [] => []
  | w :: ws =>
    if w = ";" then []
    else if w = "\x7b\x7d" && ws.head? = some "+" then [w]
    else w :: commandWords ws

/-- What has been read, and the words that follow. -/
abbrev FindRead := Except FindError (FindStep × List String)

mutual

/-- Expressions with commas between them; at most `fuel` steps. -/
def readFind : Nat → List String → FindRead
  | 0, words => .ok (.always, words)
  | fuel + 1, words => match readFindEither fuel words with
    | .ok (a, "," :: rest) => (readFind fuel rest).map fun (b, rest) => (.inTurn a b, rest)
    | result => result

def readFindEither : Nat → List String → FindRead
  | 0, words => .ok (.always, words)
  | fuel + 1, words => match readFindBoth fuel words with
    | .ok (a, word :: rest) =>
      if word = "-o" || word = "-or" then (readFindEither fuel rest).map fun (b, rest) => (.either a b, rest)
      else .ok (a, word :: rest)
    | result => result

def readFindBoth : Nat → List String → FindRead
  | 0, words => .ok (.always, words)
  | fuel + 1, words => match readFindOne fuel words with
    | .ok (a, word :: rest) =>
      if word = "-a" || word = "-and" then (readFindBoth fuel rest).map fun (b, rest) => (.both a b, rest)
      else if [")", "-o", "-or", ","].contains word then .ok (a, word :: rest)
      else (readFindBoth fuel (word :: rest)).map fun (b, rest) => (.both a b, rest)
    | result => result

def readFindOne : Nat → List String → FindRead
  | 0, words => .ok (.always, words)
  | _ + 1, [] => .ok (.always, [])
  | fuel + 1, word :: words =>
    match word with
    | "(" => match readFind fuel words with
      | .ok (a, ")" :: rest) => .ok (a, rest)
      | .ok _ => .error .unclosed
      | .error e => .error e
    | "!" | "-not" => (readFindOne fuel words).map fun (a, rest) => (.negated a, rest)
    | "-true" | "-depth" | "-d" | "-mount" | "-xdev" | "-follow" => .ok (.always, words)
    | "-false" => .ok (.never, words)
    | "-empty" => .ok (.empty, words)
    | "-executable" => .ok (.executable, words)
    | "-readable" | "-writable" => .ok (.always, words)
    | "-print" | "-ls" => .ok (.print '\n', words)
    | "-print0" => .ok (.print '\x00', words)
    | "-delete" => .ok (.delete, words)
    | "-prune" => .ok (.prune, words)
    | "-quit" => .ok (.quit, words)
    | "-maxdepth" | "-mindepth" => match words with
      | value :: rest => if (readDigits? 10 value.toList).isSome then .ok (.always, rest) else .error (.wrongArgument word value)
      | [] => .error (.missingArgument word)
    | "-exec" | "-execdir" | "-ok" =>
      let command := commandWords words
      match words.drop command.length with
      | ";" :: rest => .ok (.run command false, rest)
      | "+" :: rest => .ok (.run command true, rest)
      | _ => .error (.missingArgument word)
    | word =>
      if findWords.contains word then match words with
        | value :: rest => (stepOf word value).map fun step => (step, rest)
        | [] => .error (.missingArgument word)
      else if word.startsWith "-" then .error (.unknown word)
      else .error (.misplaced word)

end

/-- Whether anything is done in a step. -/
def FindStep.acts : FindStep → Bool
  | .print _ | .delete | .run _ _ | .quit => true
  | .negated s => s.acts
  | .both a b | .either a b | .inTurn a b => a.acts || b.acts
  | _ => false

/-- Whether something is taken away in a step. -/
def FindStep.deletes : FindStep → Bool
  | .delete => true
  | .negated s => s.deletes
  | .both a b | .either a b | .inTurn a b => a.deletes || b.deletes
  | _ => false

/-- What was done so far: what was printed, as programs that print it, and the programs that were asked for. -/
structure Finding where
  report : Report
  commands : List (List String)
  /-- Programs that are given all that was found together. -/
  gathered : List (List String × List String)
  pruned : Bool
  ended : Bool

/-- Something found: its path, its name, and what it is. -/
structure FoundThing where
  path : String
  name : String
  entry : Entry
  isEmpty : Bool

/-- Tests something, or does something with it. -/
def FindStep.apply (program : String) (t : FoundThing) : FindStep → Finding → Bool × Finding
  | .always, f => (true, f)
  | .never, f => (false, f)
  | .name pattern folded, f =>
    (fits pattern (if folded then t.name.toList.map Char.toLower else t.name.toList), f)
  | .path pattern folded, f =>
    (fits pattern (if folded then t.path.toList.map Char.toLower else t.path.toList), f)
  | .kind letters, f => (letters.contains (match kindLetter t.entry with
    | '-' => 'f'
    | c => c), f)
  | .empty, f => (t.isEmpty, f)
  | .size m unit, f => (m.holds ((sizeOf t.entry + unit - 1) / unit), f)
  | .mode bits all, f => (if all then t.entry.mode &&& bits = bits else t.entry.mode = bits, f)
  | .links m, f => (m.holds (linkCount f.report.files t.entry), f)
  | .executable, f => (t.entry.isExecutable, f)
  | .print ending, f =>
    (true, { f with
      report := f.report.say (t.path.toList ++ [ending])
      commands := f.commands ++ [["printf", if ending = '\n' then "%s\\n" else "%s\\0", t.path]] })
  | .delete, f => match if t.entry.isDirectory then f.report.files.removeDirectory t.path else f.report.files.unlink t.path with
    | .ok fs => (true, { f with report := { f.report with files := fs } })
    | .error e => (false, { f with report := f.report.complain program ("cannot delete " ++ quoted t.path ++ ": " ++ reason e) })
  | .prune, f => (true, { f with pruned := true })
  | .quit, f => (true, { f with ended := true })
  | .run words together, f =>
    let put (w : String) : String := String.ofList (putFor ['{', '}'] t.path.toList (w.length + 1) w.toList)
    if together then
      let key := words.filter (· != "\x7b\x7d")
      let others := f.gathered.filter (·.1 != key)
      let before := ((f.gathered.find? (·.1 == key)).map (·.2)).getD []
      (true, { f with gathered := others ++ [(key, before ++ [t.path])] })
    else (true, { f with commands := f.commands ++ [words.map put] })
  | .negated s, f =>
    let (yes, f) := s.apply program t f
    (!yes, f)
  | .both a b, f =>
    let (yes, f) := a.apply program t f
    if yes then b.apply program t f else (false, f)
  | .either a b, f =>
    let (yes, f) := a.apply program t f
    if yes then (true, f) else b.apply program t f
  | .inTurn a b, f =>
    let (_, f) := a.apply program t f
    b.apply program t f

/-- Goes through what is at a path; at most `fuel` levels. -/
def findBelow (program : String) (bounds : FindBounds) (step : FindStep) : Nat → Nat → String → String → Finding → Finding
  | 0, _, _, _, f => f
  | fuel + 1, depth, path, name, f =>
    if f.ended then f
    else match f.report.files.linkStat path with
      | .error e => { f with report := f.report.complain program (quoted path ++ ": " ++ reason e) }
      | .ok e =>
        let children : List String := match e.isDirectory, f.report.files.resolve true path with
          | true, .ok t => (f.report.files.within t.place).map (·.1)
          | _, _ => []
        let isEmpty := if e.isDirectory then children.isEmpty else match e.content with
          | .file [] => true
          | _ => false
        let here (f : Finding) : Finding :=
          if depth < bounds.least then f else (step.apply program ⟨path, name, e, isEmpty⟩ { f with pruned := false }).2
        let further (f : Finding) : Finding :=
          if (f.pruned && !bounds.deepFirst) || bounds.most.any (· ≤ depth) then { f with pruned := false }
          else children.foldl (fun f child =>
            findBelow program bounds step fuel (depth + 1) ((if endsInSlash path then path else path ++ "/") ++ child) child f) f
        if bounds.deepFirst then here (further f) else further (here f)

def find (c : Call) : Launch :=
  let args := c.args.dropWhile fun arg => ["-H", "-L", "-P"].contains arg
  let isExpression (arg : String) : Bool := arg.startsWith "-" || arg = "(" || arg = "!"
  let paths := args.takeWhile (!isExpression ·)
  let words := args.drop paths.length
  match if words.isEmpty then .ok (.print '\n', []) else readFind (4 * words.length + 8) words with
  | .error e => .report (c.refuse 1 e.message)
  | .ok (_, word :: _) => .report (c.refuse 1 (if word = ")" then
      "invalid expression; you have used a ')' somewhere with no matching '('" else (FindError.misplaced word).message))
  | .ok (step, []) =>
    let number (word : String) : Option Nat := match words.dropWhile (· != word) with
      | _ :: value :: _ => readDigits? 10 value.toList
      | _ => none
    let bounds : FindBounds :=
      ⟨(number "-mindepth").getD 0, number "-maxdepth", words.contains "-depth" || words.contains "-d" || step.deletes⟩
    let step := if step.acts then step else .both step (.print '\n')
    let found := (if paths.isEmpty then ["."] else paths).foldl (fun f path =>
      findBelow c.name bounds step 100 0 path (baseName path) f) ⟨.quiet 0 c, [], [], false, false⟩
    let gathered := found.gathered.map fun (command, paths) => command ++ paths
    if gathered.isEmpty && found.commands.all fun command => command.head? = some "printf" && command.length = 3 then
      .report found.report
    else
      let status := found.report.status
      .each (found.commands ++ gathered) 0 fun statuses =>
        if gathered.isEmpty || (statuses.drop found.commands.length).all (· = 0) then status else 1

end KeyFeed.Host.Programs
