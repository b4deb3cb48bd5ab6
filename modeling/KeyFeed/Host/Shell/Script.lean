import KeyFeed.Text.Blank
import KeyFeed.Text.Fields

/-! Scripts of the command language as they have been read: commands made of words, and words made of pieces that stand
    for themselves or will be replaced by a value, a sum or the output of another script. -/

namespace KeyFeed.Host.Shell
open Text

inductive RedirectKind where
  | read | write | append
  /-- Writes even where existing files are protected. -/
  | replace
  /-- Reads and writes without emptying the file. -/
  | both
  | duplicate
  /-- The input stands in the script itself; tabs in front of its lines may be left out. -/
  | text (indented : Bool)
  deriving DecidableEq, Repr

/-- What is made of the value of a parameter. In the first four, an empty value can count as none. -/
inductive Rule where
  /-- The word stands in for a missing value. -/
  | fallback (emptyToo : Bool)
  /-- The word stands in for a missing value and becomes the value. -/
  | assign (emptyToo : Bool)
  /-- A missing value is a mistake, and the word says which. -/
  | demand (emptyToo : Bool)
  /-- The word stands in for a value that is there. -/
  | instead (emptyToo : Bool)
  /-- The value without the shortest or longest part at one end that a pattern matches. -/
  | without (atEnd longest : Bool)
  | length
  /-- There is no such rule. -/
  | unknown
  deriving DecidableEq, Repr

mutual

inductive Piece where
  /-- Stands for itself, and can be part of a name, a reserved word or a pattern. -/
  | plain (c : Char)
  /-- Stands for itself and nothing else. -/
  | guarded (c : Char)
  /-- A pair of quotes makes a word even when nothing stands between them. -/
  | quotes
  | parameter (name : String) (inQuotes : Bool)
  /-- A parameter with a rule, and the word that the rule uses. -/
  | ruled (name : String) (rule : Rule) (word : List Piece) (inQuotes : Bool)
  | arithmetic (expression : List Piece) (inQuotes : Bool)
  | output (script : List Script) (inQuotes : Bool)

/-- Where a descriptor leads for one command. -/
inductive Redirect where
  | mk (descriptor : Nat) (kind : RedirectKind) (target : List Piece)

inductive Script where
  | simple (line : Nat) (words : List (List Piece)) (redirects : List Redirect)
  | group (line : Nat) (body : List Script) (redirects : List Redirect)
  /-- Runs in a copy of the shell. -/
  | subshell (line : Nat) (body : List Script) (redirects : List Redirect)
  | pipeline (negated : Bool) (stages : List Script)
  | both (first second : Script)
  | either (first second : Script)
  | background (body : Script)
  | choice (test yes no : List Script)
  /-- Goes on while the test succeeds, or, turned round, until it does. -/
  | loop (turned : Bool) (test body : List Script)
  | forEach (line : Nat) (name : String) (words : List (List Piece)) (body : List Script)
  /-- Runs the commands behind the first pattern that matches the subject. -/
  | cases (line : Nat) (subject : List Piece) (branches : List (List (List Piece) × List Script))
  /-- From here on the name stands for the body. -/
  | define (name : String) (body : Script)

end

abbrev Word := List Piece

def isNameStart (c : Char) : Bool := isAsciiAlpha c || c == '_'

def isNameChar (c : Char) : Bool := isNameStart c || isAsciiDigit c

/-- A text that can be the name of a variable. -/
def isName (s : String) : Bool :=
  match s.toList with
  | c :: cs => isNameStart c && cs.all isNameChar
  | [] => false

/-- A parameter that has a sign for its name. -/
def isSpecialName (c : Char) : Bool := isAsciiDigit c || ['?', '$', '#', '@', '*', '!', '-'].contains c

/-- A character that ends a word unless it is quoted. -/
def endsWord (c : Char) : Bool := [' ', '\t', '\n', ';', '&', '|', '<', '>', '(', ')'].contains c

/-- The text of a word in which nothing is quoted or replaced. -/
def plainText? (w : Word) : Option String :=
  (w.mapM fun (p : Piece) => match p with
    | .plain c => some c
    | _ => none).map String.ofList

/-- The text of a word in which nothing is replaced, though some of it may be quoted. -/
def literal? (w : Word) : Option String :=
  (w.mapM fun (p : Piece) => match p with
    | .plain c | .guarded c => some [c]
    | .quotes => some []
    | _ => none).map fun (cs : List (List Char)) => String.ofList cs.flatten

/-- A word that sets a variable: a name and an equals sign, both as they are, and the value. -/
def assignment? (w : Word) : Option (String × Word) :=
  let name := w.takeWhile fun (p : Piece) => match p with
    | .plain c => isNameChar c
    | _ => false
  match plainText? name, w.drop name.length with
  | some text, .plain '=' :: value => if isName text then some (text, value) else none
  | _, _ => none

/-- The words of the language that begin, divide and end commands. -/
def reservedWords : List String :=
  ["!", "case", "do", "done", "elif", "else", "esac", "fi", "for", "if", "in", "then", "until", "while", "\x7b", "\x7d"]

/-- Commands that belong to the language: they keep the variables set in front of them, and a mistake in one of them
    ends the script. -/
def specialCommands : List String :=
  [":", ".", "break", "continue", "eval", "exec", "exit", "export", "local", "readonly", "return", "set", "shift", "times",
   "trap", "unset"]

/-- Whether the arguments of a command that set variables are treated like those in front of commands. -/
def takesAssignments (command : String) : Bool := ["alias", "export", "local", "readonly"].contains command

/-- Commands that the shell knows without looking for a program. -/
def ownCommands : List String :=
  specialCommands
    ++ ["alias", "bg", "cd", "chdir", "command", "echo", "false", "fg", "getopts", "hash", "jobs", "kill", "printf", "pwd",
        "read", "test", "[", "true", "type", "ulimit", "umask", "unalias", "wait"]

end KeyFeed.Host.Shell
