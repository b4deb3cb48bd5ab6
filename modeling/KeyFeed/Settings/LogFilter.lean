import KeyFeed.Text.Alphanumeric
import KeyFeed.Text.Blank
import KeyFeed.Text.Digits
import KeyFeed.Text.Fields

/-! What the settings say about the log: directives between commas, each of which names a level, a target, or a span
    with fields and the level for it. A directive that cannot be read is reported and left out. -/

namespace KeyFeed
open Text

/-- Why a directive is left out. -/
inductive DirectiveError where
  | unknownLevel
  | malformed
  deriving DecidableEq, Repr

def DirectiveError.message : DirectiveError → String
  | .unknownLevel => "error parsing level filter: expected one of \"off\", \"error\", \"warn\", \"info\", \"debug\", "
      ++ "\"trace\", or a number 0-5"
  | .malformed => "invalid filter directive"

namespace LogFilter

/-- Where a reader of a directive stands. Places are counted from the first character that is not white space. -/
inductive Place where
  | start
  /-- In a word that is a level, or a target if no level has that name. -/
  | word
  | span
  /-- In a field that has begun at the given place. -/
  | field (since : Nat)
  | fields
  | target
  /-- In a level that has begun at the given place. -/
  | level (since : Nat)
  deriving DecidableEq, Repr

def beginsWord (c : Char) : Bool := c ∈ ['-', ':', '_'] || isAlphanumeric c

/-- One character, which stands at place `i`. -/
def Place.read (p : Place) (i : Nat) (c : Char) : Except DirectiveError Place :=
  match p with
  | .start => if c = '[' then .ok .span else if beginsWord c then .ok .word else .error .malformed
  | .word => .ok (if c = '=' then .level (i + 1) else if c = '[' then .span else .word)
  | .span => .ok (if c = ']' then .target else if c = '\x7b' then .field (i + 1) else .span)
  | .field since =>
    if c ≠ '\x7d' then .ok p else if i = since then .error .malformed else .ok .fields
  | .fields => if c = ']' then .ok .target else .error .malformed
  | .target => if c = '=' then .ok (.level (i + 1)) else .error .malformed
  | .level _ => .ok p

def Place.readAll (p : Place) : Nat → List Char → Except DirectiveError Place
  | _, [] => .ok p
  | i, c :: cs => do (← p.read i c).readAll (i + 1) cs

def levelNames : List String := ["off", "error", "warn", "info", "debug", "trace"]

/-- Levels have names, in either case, and numbers; no text at all stands for a level too. -/
def isLevel (cs : List Char) : Bool :=
  cs.isEmpty || levelNames.contains (String.ofList (cs.map Char.toLower)) || (readUnsigned? 10 5 cs).isSome

/-- Reads a directive. The text of a level is counted off from the very beginning of the directive and reaches to
    its very end, white space included. -/
def check (directive : List Char) : Except DirectiveError Unit := do
  match ← Place.start.readAll 0 (trimChars directive) with
  | .word | .target => .ok ()
  | .level since => if isLevel (directive.drop since) then .ok () else .error .unknownLevel
  | _ => .error .malformed

/-- What is said about the directives that cannot be read, in their order. -/
def complaints (text : String) : List String :=
  (Text.fields ',' text.toList).filterMap fun directive =>
    if directive.isEmpty then none
    else match check directive with
      | .ok _ => none
      | .error e => some ("ignoring \x60" ++ String.ofList directive ++ "\x60: " ++ e.message)

end LogFilter
end KeyFeed
