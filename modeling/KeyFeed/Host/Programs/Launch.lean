import KeyFeed.Host.Programs.Call
import KeyFeed.Host.Programs.Decimal

/-! Programs that start other programs: one in their own place, with other variables or for a limited time, or several
    one after the other. -/

namespace KeyFeed.Host.Programs
open Text

/-- One program in the place of another. -/
structure Instead where
  command : String
  args : List String
  /-- Variables that are set, or taken away. -/
  settings : List (String × Option String)
  /-- Whether all other variables are taken away. -/
  cleared : Bool
  /-- After how many milliseconds it is stopped, and the status that tells so. -/
  limit : Option (Nat × Nat)
  /-- The directory in which it works, if it is another one. -/
  directory : Option String
  /-- What is said before its name when it cannot be started, and whether the name is put in quotes there. -/
  refusal : String
  quotes : Bool

inductive Launch where
  | instead (order : Instead)
  /-- Several commands, and how much of the input was read to find them; how they end decides how the program ends. -/
  | each (commands : List (List String)) (taken : Nat) (combine : List Nat → Nat)
  | report (r : Report)

/-- How long an argument asks to wait, in milliseconds. -/
def milliseconds? (arg : String) : Option Nat :=
  match readDecimal arg.toList with
  | some (q, unit) =>
    let factor := match unit with
      | [] | ['s'] => some 1000
      | ['m'] => some 60000
      | ['h'] => some 3600000
      | ['d'] => some 86400000
      | _ => none
    factor.map fun n => (q.scale n 1).round
  | none => if arg = "infinity" || arg = "inf" then some 4000000000 else none

def plainly (refusal : String) (quotes : Bool) (command : List String) : Option Instead :=
  match command with
  | [] => none
  | program :: args => some ⟨program, args, [], false, none, none, refusal, quotes⟩

/-- Reads variables in front of a command. -/
def readSettings : List String → List (String × Option String) × List String
  | [] => ([], [])
  | arg :: args => match cut? '=' arg.toList with
    | some (name, value) =>
      let (settings, command) := readSettings args
      ((String.ofList name, some (String.ofList value)) :: settings, command)
    | none => ([], arg :: args)

def showVariables (bindings : List (String × String)) (c : Call) : Report :=
  .saying (String.join (bindings.map fun (name, value) => name ++ "=" ++ value ++ "\n")) c

/-- Words of an input: divided at blanks and line ends, with quotes and backslashes taken away. -/
def quotedWords (quote : Option Char) (word : Option (List Char)) : List Char → List (List Char)
  | [] => (word.map List.reverse).toList
  | c :: cs =>
    let grown (d : Char) : Option (List Char) := some (d :: word.getD [])
    match quote with
    | some q => if c = q then quotedWords none (some (word.getD [])) cs else quotedWords quote (grown c) cs
    | none =>
      if c = '\x27' || c = '"' then quotedWords (some c) (some (word.getD [])) cs
      else if c = '\\' then match cs with
        | d :: cs => quotedWords none (grown d) cs
        | [] => quotedWords none word []
      else if c = ' ' || c = '\t' || c = '\n' then
        (word.map List.reverse).toList ++ quotedWords none none cs
      else quotedWords none (grown c) cs

/-- The quote that stands open at the end of a line or of the whole input. -/
def openQuote? (quote : Option Char) : List Char → Option Char
  | [] => quote
  | c :: cs => match quote with
    | some q => if c = q then openQuote? none cs else if c = '\n' then quote else openQuote? quote cs
    | none =>
      if c = '\x27' || c = '"' then openQuote? (some c) cs
      else if c = '\\' then match cs with
        | _ :: cs => openQuote? none cs
        | [] => none
      else openQuote? none cs

def environmentFor (c : Call) : Launch :=
  let table : OptionTable := { OptionTable.of "iu:0C:vS:" [("ignore-environment", 'i'), ("unset", 'u'), ("chdir", 'C'),
    ("split-string", 'S')] with inOrder := true }
  let args := match c.args with
    | "-S" :: text :: rest => (quotedWords none none text.toList).map String.ofList ++ rest
    | args => args
  match readOptions table args with
  | .error e => .report (c.misused 125 e.message)
  | .ok (options, operands) =>
    let given : Given := ⟨options⟩
    let (dash, operands) := match operands with
      | "-" :: rest => (true, rest)
      | rest => (false, rest)
    let (settings, command) := readSettings operands
    let unset := (given.values 'u').map fun name => (name, none)
    let cleared := dash || given.has 'i'
    match command with
    | program :: args => .instead ⟨program, args, unset ++ settings, cleared, none, given.value? 'C', "", true⟩
    | [] =>
      let kept := if cleared then [] else c.environment.filter fun (n, _) => !(unset ++ settings).any (·.1 == n)
      .report (showVariables (kept ++ settings.filterMap fun (n, v) => v.map fun v => (n, v)) c)

/-- Pieces of a list, each of at most so many elements; at most `fuel` pieces. -/
def piecesOf {α : Type} (n : Nat) : Nat → List α → List (List α)
  | 0, _ => []
  | _ + 1, [] => []
  | fuel + 1, xs => xs.take n :: piecesOf n fuel (xs.drop n)

/-- A text with another one put in for each place where a mark stands; at most `fuel` characters. -/
def putFor (mark value : List Char) : Nat → List Char → List Char
  | 0, cs => cs
  | _ + 1, [] => []
  | fuel + 1, c :: cs =>
    if mark.isPrefixOf (c :: cs) && !mark.isEmpty then value ++ putFor mark value fuel ((c :: cs).drop mark.length)
    else c :: putFor mark value fuel cs

/-- How programs that were started one after the other end together. -/
def combineStatuses (statuses : List Nat) : Nat := if statuses.all (· = 0) then 0 else 123

def commandsFromInput (c : Call) : Launch :=
  let table : OptionTable := { OptionTable.of "n:I:0d:rtL:P:s:xa:E:pi"
    [("null", '0'), ("delimiter", 'd'), ("no-run-if-empty", 'r'), ("max-args", 'n'), ("replace", 'I'), ("verbose", 't'),
     ("max-lines", 'L'), ("max-procs", 'P'), ("arg-file", 'a')] with inOrder := true }
  match readOptions table c.args with
  | .error e => .report (c.misused 1 e.message)
  | .ok (options, operands) =>
    let given : Given := ⟨options⟩
    let (text, taken) := match given.value? 'a' with
      | some path => ((c.contentOf c.files path).toOption.getD [], 0)
      | none => (c.input, c.input.length)
    let command := if operands.isEmpty then ["echo"] else operands
    let divider : Option Char := if given.has '0' then some '\x00'
      else (given.value? 'd').map fun d => match d.toList with
        | ['\\', 'n'] => '\n'
        | ['\\', 't'] => '\t'
        | ['\\', '0'] => '\x00'
        | c :: _ => c
        | [] => '\x00'
    let divided (d : Char) : List (List Char) :=
      let parts := fields d text
      if parts.getLast? = some [] then parts.dropLast else parts
    match given.value? 'I', if divider.isSome then none else openQuote? none text with
    | _, some q =>
      let kind := if q = '"' then "double" else "single"
      .report { Report.quiet 1 c with
        said := [(2, (c.name ++ ": unmatched " ++ kind
          ++ " quote; by default quotes are special to xargs unless you use the -0 option\n").toList)]
        taken := taken }
    | some mark, none =>
      let lines := match divider with
        | some d => divided d
        | none => ((bareLines text).map fun (l : List Char) => l.dropWhile fun c => c = ' ' || c = '\t').filter (!·.isEmpty)
      .each (lines.map fun (line : List Char) => command.map fun (word : String) =>
        String.ofList (putFor mark.toList line (word.length + 1) word.toList)) taken combineStatuses
    | none, none =>
      let words := ((match divider with
        | some d => divided d
        | none => quotedWords none none text).map String.ofList)
      let groups := match (given.value? 'n').bind fun n => readDigits? 10 n.toList, given.value? 'L' with
        | some n, _ => piecesOf (max n 1) (words.length + 1) words
        | none, some n =>
          let count := max ((readDigits? 10 n.toList).getD 1) 1
          let lines := (bareLines text).filter fun (l : List Char) => !(quotedWords none none l).isEmpty
          (piecesOf count (lines.length + 1) lines).map fun (ls : List (List Char)) =>
            ((ls.map fun (l : List Char) => quotedWords none none l).flatten).map String.ofList
        | none, none => if words.isEmpty then [] else [words]
      let groups := if groups.isEmpty && !given.has 'r' then [[]] else groups
      .each (groups.map (command ++ ·)) taken combineStatuses

/-- Starts a program that is stopped when it takes too long. -/
def limited (c : Call) : Launch :=
  let table : OptionTable := { OptionTable.of "s:k:vfp" [("signal", 's'), ("kill-after", 'k'), ("foreground", 'f'),
    ("preserve-status", 'p'), ("verbose", 'v')] with inOrder := true }
  let usage := "Try '" ++ c.name ++ " --help' for more information.\n"
  match readOptions table c.args with
  | .error e => .report (c.misused 125 e.message)
  | .ok (options, operands) =>
    let given : Given := ⟨options⟩
    let kills := (given.value? 's').any ["KILL", "SIGKILL", "9"].contains
    let status := if kills then 137 else if given.has 'p' then 143 else 124
    match operands with
    | limit :: program :: args => match milliseconds? limit with
      | none => .report (c.misused 125 ("invalid time interval " ++ quoted limit))
      | some ms => .instead ⟨program, args, [], false, if ms = 0 then none else some (ms, status), none,
          "failed to run command ", true⟩
    | _ => .report { Report.quiet 125 c with said := [(2, usage.toList)] }

/-- What a program that starts others is asked to start, if it is one of those. -/
def launch (program : String) (c : Call) : Option Launch :=
  let isAmount (arg : String) : Bool := match arg.toList with
    | '-' :: '-' :: cs | '-' :: '+' :: cs | '-' :: cs => !cs.isEmpty && cs.all isAsciiDigit
    | _ => false
  let started (table : OptionTable) (status : Nat) (alone : Report) (refusal : String) (quotes : Bool) : Launch :=
    match readOptions { table with inOrder := true }
      (if program = "nice" then c.args.dropWhile isAmount else c.args) with
    | .error e => .report (c.misused status e.message)
    | .ok (_, operands) => match plainly refusal quotes operands with
      | some order => .instead order
      | none => .report alone
  match program with
  | "env" => some (environmentFor c)
  | "xargs" => some (commandsFromInput c)
  | "nice" => some (started (.of "n:" [("adjustment", 'n')]) 125 (.saying "0\n" c) "" true)
  | "nohup" => some (started (.of "" []) 125 (c.misused 125 "missing operand") "failed to run command " true)
  | "setsid" =>
    some (started (.of "cfw" []) 1 (c.misused 1 "no command specified") "failed to execute " false)
  | "timeout" => some (limited c)
  | _ => none

end KeyFeed.Host.Programs
