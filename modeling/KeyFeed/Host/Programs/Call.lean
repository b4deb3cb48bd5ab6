import KeyFeed.Host.Files
import KeyFeed.Text.Digits
import KeyFeed.Text.Fields
import KeyFeed.Text.Octets

/-! How a program is called and what it reports: it takes arguments, an input and the files, and reports a status, what it
    said, and the files after it. Its texts are bytes, each as the character of its number. -/

namespace KeyFeed.Host.Programs
open Text

structure Call where
  name : String
  args : List String
  /-- What it can read. -/
  input : List Char
  /-- Whether that comes from a file, in which it can go back. -/
  inputIsFile : Bool
  files : Files
  environment : List (String × String)
  /-- Which file its output goes to the end of, if it goes to one. -/
  outputNode : Option Nat

structure Report where
  status : Nat
  /-- What was said under which descriptor. -/
  said : List (Nat × List Char)
  files : Files
  /-- How much of the input was read. -/
  taken : Nat

namespace Report

def quiet (status : Nat) (c : Call) : Report := ⟨status, [], c.files, 0⟩

def say (text : List Char) (r : Report) : Report := { r with said := r.said ++ [(1, text)] }

def saying (s : String) (c : Call) : Report := (quiet 0 c).say s.toList

/-- A complaint in the name of the program, after which it goes on but will not end well. -/
def complain (program text : String) (r : Report) : Report :=
  { r with status := max r.status 1, said := r.said ++ [(2, (program ++ ": " ++ text ++ "\n").toList)] }

def setStatus (n : Nat) (r : Report) : Report := { r with status := n }

/-- All of the input has been read. -/
def drained (c : Call) (r : Report) : Report := { r with taken := c.input.length }

/-- With the complaints in front of what was said otherwise. -/
def complaintsFirst (r : Report) : Report :=
  { r with said := r.said.filter (·.1 = 2) ++ r.said.filter (·.1 != 2) }

end Report

namespace Call

def withArgs (args : List String) (c : Call) : Call := { c with args := args }

/-- A complaint with which the program ends. -/
def refuse (c : Call) (status : Nat) (text : String) : Report :=
  ((Report.quiet status c).complain c.name text).setStatus status

/-- A complaint about how the program is called. -/
def misused (c : Call) (status : Nat) (text : String) : Report :=
  c.refuse status (text ++ "\nTry '" ++ c.name ++ " --help' for more information.")

/-- The same in the way of programs that begin each line with their name. -/
def confused (c : Call) (status : Nat) (text : String) : Report :=
  c.refuse status (text ++ "\n" ++ c.name ++ ": Try '" ++ c.name ++ " --help' for more information.")

end Call

/-- The words by which programs tell why the system refused. -/
def reason (e : OsError) : String :=
  let text := e.message
  match (text.splitOn " (os error ") with
  | [words, _] => words
  | _ => text

/-! ### Options -/

/-- The options of a program: letters, with whether an argument follows, and words that stand for letters. -/
structure OptionTable where
  letters : List (Char × Bool)
  words : List (String × Char)
  /-- Whether options end at the first operand. -/
  inOrder : Bool

/-- A table in which a colon follows the letters that take an argument. -/
def OptionTable.of (letters : String) (words : List (String × Char)) : OptionTable :=
  let rec go : List Char → List (Char × Bool)
    | c :: ':' :: cs => (c, true) :: go cs
    | c :: cs => (c, false) :: go cs
    | [] => []
  ⟨go letters.toList, words, false⟩

inductive OptionError where
  | invalid (c : Char)
  | unrecognized (word : String)
  | ambiguous (word : String)
  | needsArgument (c : Char)
  | wordNeedsArgument (word : String)
  | takesNone (word : String)
  deriving DecidableEq, Repr

def OptionError.message : OptionError → String
  | .invalid c => "invalid option -- '" ++ String.singleton c ++ "'"
  | .unrecognized word => "unrecognized option '" ++ word ++ "'"
  | .ambiguous word => "option '" ++ word ++ "' is ambiguous"
  | .needsArgument c => "option requires an argument -- '" ++ String.singleton c ++ "'"
  | .wordNeedsArgument word => "option '" ++ word ++ "' requires an argument"
  | .takesNone word => "option '" ++ word ++ "' doesn't allow an argument"

/-- The options that letters in one argument spell, and whether the last of them takes the next argument. -/
def readLetters (t : OptionTable) : List Char → Except OptionError (List (Char × String) × Option Char)
  | [] => .ok ([], none)
  | c :: cs => match t.letters.find? (·.1 == c) with
    | none => .error (.invalid c)
    | some (_, true) => if cs.isEmpty then .ok ([], some c) else .ok ([(c, String.ofList cs)], none)
    | some (_, false) => (readLetters t cs).map fun (options, last) => ((c, "") :: options, last)

/-- The letter that a word, or the beginning of one word, stands for. -/
def findWord (t : OptionTable) (word : String) : Except OptionError (String × Char) :=
  match t.words.find? (·.1 == word), t.words.filter fun (w, _) => word.toList.isPrefixOf w.toList with
  | some found, _ | none, [found] => .ok found
  | none, [] => .error (.unrecognized ("--" ++ word))
  | none, (w, c) :: others => if others.all (·.2 == c) then .ok (w, c) else .error (.ambiguous ("--" ++ word))

/-- The options, with their arguments, and the operands. -/
def readOptions (t : OptionTable) : List String → Except OptionError (List (Char × String) × List String)
  | [] => .ok ([], [])
  | arg :: args => match arg.toList with
    | ['-', '-'] => .ok ([], args)
    | '-' :: '-' :: long =>
      let name := long.takeWhile (· != '=')
      let given := (long.drop (name.length + 1), long.length != name.length)
      match findWord t (String.ofList name) with
      | .error e => .error e
      | .ok (w, c) =>
        let takes := t.letters.any fun (d, takes) => d == c && takes
        match takes, given with
        | true, (value, true) =>
          (readOptions t args).map fun (options, operands) => ((c, String.ofList value) :: options, operands)
        | true, (_, false) => match args with
          | [] => .error (.wordNeedsArgument ("--" ++ w))
          | value :: args => (readOptions t args).map fun (options, operands) => ((c, value) :: options, operands)
        | false, (_, true) => .error (.takesNone ("--" ++ w))
        | false, (_, false) => (readOptions t args).map fun (options, operands) => ((c, "") :: options, operands)
    | '-' :: c :: cs => match readLetters t (c :: cs) with
      | .error e => .error e
      | .ok (options, none) => (readOptions t args).map fun (more, operands) => (options ++ more, operands)
      | .ok (options, some c) => match args with
        | [] => .error (.needsArgument c)
        | value :: args => (readOptions t args).map fun (more, operands) => (options ++ (c, value) :: more, operands)
    | _ =>
      if t.inOrder then .ok ([], arg :: args)
      else (readOptions t args).map fun (options, operands) => (options, arg :: operands)

/-- Options as they were given. -/
structure Given where
  options : List (Char × String)

namespace Given

def has (g : Given) (c : Char) : Bool := g.options.any (·.1 == c)

/-- The argument of an option, the last one if it was given more than once. -/
def value? (g : Given) (c : Char) : Option String := (g.options.reverse.find? (·.1 == c)).map (·.2)

/-- The last of some options that was given, with its argument. -/
def last? (g : Given) (among : List Char) : Option (Char × String) :=
  g.options.reverse.find? fun (d, _) => among.contains d

def values (g : Given) (c : Char) : List String := g.options.filterMap fun (d, v) => if d = c then some v else none

end Given

/-- Runs a program on its options and operands, or complains about the options; one option asks for help instead. -/
def Call.withOptions (c : Call) (t : OptionTable) (status : Nat) (run : Given → List String → Report) : Report :=
  if (c.args.takeWhile (· != "--")).any fun arg => arg = "--help" || arg = "--version" then
    .saying ("Usage: " ++ c.name ++ " [OPTION]...\n") c
  else match readOptions t c.args with
    | .error e => c.misused status e.message
    | .ok (options, operands) => run ⟨options⟩ operands

/-! ### Operands -/

/-- What an operand holds; a hyphen stands for the input, and so does the device of that name. -/
def Call.contentOf (c : Call) (fs : Files) (path : String) : Except OsError (List Char) :=
  if path = "-" then .ok c.input
  else match fs.stat path with
    | .error e => .error e
    | .ok e => if e.content = .stream 0 then .ok c.input else (Files.bytesOf e).map ofBytesPlain

/-- Whether an operand stands for the input. -/
def Call.isInput (c : Call) (path : String) : Bool :=
  path = "-" || match c.files.stat path with
    | .ok e => e.content == .stream 0
    | .error _ => false

/-- Goes through the contents of the operands, or of the input where there is none, and complains about those that cannot
    be read. The input can be read only once. -/
def Call.forContents (c : Call) (operands : List String) (complaint : String → OsError → String)
    (act : String → List Char → Report → Report) : Report :=
  (if operands.isEmpty then ["-"] else operands).foldl (fun (r : Report) path =>
    if c.isInput path then act path (c.input.drop r.taken) { r with taken := c.input.length }
    else match c.contentOf r.files path with
      | .ok cs => act path cs r
      | .error e => r.complain c.name (complaint path e)) (.quiet 0 c)

/-- The contents of the operands, or the input where there is none, one after the other; complaints about those that
    cannot be read come with it. -/
def Call.gather (c : Call) (operands : List String) (complaint : String → OsError → String) : List Char × Report :=
  (if operands.isEmpty then ["-"] else operands).foldl (fun ((all, r) : List Char × Report) path =>
    if c.isInput path then (all ++ c.input.drop r.taken, { r with taken := c.input.length })
    else match c.contentOf r.files path with
      | .ok cs => (all ++ cs, r)
      | .error e => (all, r.complain c.name (complaint path e))) ([], .quiet 0 c)

/-! ### Names in complaints -/

/-- Whether a shell would read a name in another way if it stood there without quotes. -/
def needsQuotes (name : List Char) : Bool :=
  name.isEmpty || name.head? = some '#' || name.head? = some '~' || name = ['\x7b'] || name = ['\x7d']
    || name.any fun c => c ≤ ' ' || '\x7f' ≤ c || (" !\"$&()*;<=>?[\\^|\x60\x27".toList.contains c)

/-- A character that is not printed, as an escape. -/
def escapeOf (c : Char) : List Char :=
  match c with
  | '\n' => ['\\', 'n']
  | '\t' => ['\\', 't']
  | '\r' => ['\\', 'r']
  | c => '\\' :: padded 3 (Nat.toDigits 8 c.toNat)

/-- A name between quotes, with escapes in quotes of their own; whether the last character was one of those, is told. -/
def quotedFrom : Bool → List Char → List Char
  | _, [] => ['\x27']
  | escaping, c :: cs =>
    if c < ' ' || '\x7f' ≤ c then
      (if escaping then [] else ['\x27', '$', '\x27']) ++ escapeOf c ++ quotedFrom true cs
    else
      (if escaping then ['\x27', '\x27'] else [])
        ++ (if c = '\x27' then ['\x27', '\\', '\x27', '\x27'] else [c]) ++ quotedFrom false cs

/-- A name in quotes. -/
def quoted (name : String) : String :=
  let cs := name.toList
  if cs.contains '\x27' && cs.all fun c => ' ' ≤ c && c ≤ '~' && !(['"', '$', '\x60', '\\', '!'].contains c) then
    "\"" ++ name ++ "\""
  else String.ofList ('\x27' :: quotedFrom false cs)

/-- A name, in quotes if a shell would need them. -/
def shown (name : String) : String := if needsQuotes name.toList then quoted name else name

def plainComplaint (path : String) (e : OsError) : String := shown path ++ ": " ++ reason e

/-! ### Lines -/

/-- The lines of a text, each with its end; the last one may have none. -/
def linesOf (cs : List Char) : List (List Char) :=
  let ls := fields '\n' cs
  let ended := ls.dropLast.map (· ++ ['\n'])
  match ls.getLast? with
  | some (c :: cs) => ended ++ [c :: cs]
  | _ => ended

def bare (line : List Char) : List Char := if line.getLast? = some '\n' then line.dropLast else line

/-- The lines of a text without their ends. -/
def bareLines (cs : List Char) : List (List Char) := (linesOf cs).map bare

def ofLines (lines : List (List Char)) : List Char := (lines.map (· ++ ['\n'])).flatten

end KeyFeed.Host.Programs
