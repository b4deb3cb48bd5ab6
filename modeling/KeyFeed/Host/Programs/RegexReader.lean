import KeyFeed.Host.Programs.Regex
import KeyFeed.Text.Digits

/-! Regular expressions as they are written. In the plain form groups, bounds and alternatives need a backslash; in the
    extended form a backslash takes their meaning away. -/

namespace KeyFeed.Host.Programs
open Text Shell

inductive RegexError where
  | openGroup | closedGroup | openChoice | openBound | wrongBound | endingBackslash | noSuchGroup | wrongRange | noSuchClass
  | classOutside
  deriving DecidableEq, Repr

def RegexError.message : RegexError → String
  | .openGroup => "Unmatched ( or \\("
  | .closedGroup => "Unmatched ) or \\)"
  | .openChoice => "Unmatched [, [^, [:, [., or [="
  | .openBound => "Unmatched \\\x7b"
  | .wrongBound => "Invalid content of \\\x7b\\\x7d"
  | .endingBackslash => "Trailing backslash"
  | .noSuchGroup => "Invalid back reference"
  | .wrongRange => "Invalid range end"
  | .noSuchClass => "Invalid character class name"
  | .classOutside => "character class syntax is [[:space:]], not [:space:]"

namespace RegexReader

/-- A part of a regular expression. -/
inductive Token where
  | atom (r : Regex)
  | opening
  | closing
  | bar
  /-- How often the part in front of it comes. -/
  | times (text : List Char) (least : Nat) (most : Option Nat)
  | back (number : Nat)
  /-- A mark for the beginning or the end of a line, if it stands where that has a meaning. -/
  | start
  | stop
  deriving DecidableEq, Repr

def classNames : List String :=
  ["alpha", "digit", "alnum", "lower", "upper", "space", "blank", "punct", "graph", "print", "cntrl", "xdigit"]

/-- A name between two equal marks and a closing bracket. -/
def bracketName (mark : Char) : List Char → Option (List Char × List Char)
  | [] => none
  | c :: cs => match cs with
    | ']' :: rest => if c = mark then some ([], rest) else (bracketName mark cs).map fun (n, rest) => (c :: n, rest)
    | _ => (bracketName mark cs).map fun (n, rest) => (c :: n, rest)

/-- One end of a range, or a class. -/
def readChoice (cs : List Char) : Except RegexError (Choice × List Char) :=
  match cs with
  | '[' :: ':' :: r => match bracketName ':' r with
    | some (name, rest) =>
      if classNames.contains (String.ofList name) then .ok (.named (String.ofList name), rest) else .error .noSuchClass
    | none => .error .openChoice
  | '[' :: '.' :: r => match bracketName '.' r with
    | some ([c], rest) => .ok (.range c c, rest)
    | some _ => .error .noSuchClass
    | none => .error .openChoice
  | '[' :: '=' :: r => match bracketName '=' r with
    | some ([c], rest) => .ok (.range c c, rest)
    | some _ => .error .noSuchClass
    | none => .error .openChoice
  | c :: r => .ok (.range c c, r)
  | [] => .error .openChoice

/-- The choices up to a closing bracket, and what follows it; at most `fuel` of them. -/
def readBracket : Nat → Bool → List Char → Except RegexError (List Choice × List Char)
  | 0, _, _ | _, _, [] => .error .openChoice
  | fuel + 1, first, cs => match cs with
    | ']' :: rest =>
      if first then (readBracket fuel false rest).map fun (choices, rest) => (.range ']' ']' :: choices, rest)
      else .ok ([], rest)
    | _ => match readChoice cs with
      | .error e => .error e
      | .ok (choice, rest) => match choice, rest with
        | .range a _, '-' :: d :: more =>
          if d = ']' then (readBracket fuel false rest).map fun (choices, rest) => (choice :: choices, rest)
          else match readChoice (d :: more) with
            | .ok (.range b _, rest) =>
              if b < a then .error .wrongRange
              else (readBracket fuel false rest).map fun (choices, rest) => (.range a b :: choices, rest)
            | .ok _ => .error .wrongRange
            | .error e => .error e
        | _, _ => (readBracket fuel false rest).map fun (choices, rest) => (choice :: choices, rest)

/-- The bounds of a number of times, up to where they end. -/
def readBounds (extended : Bool) (cs : List Char) : Option (Nat × Option Nat × List Char) :=
  let digits (cs : List Char) : Option Nat × List Char :=
    let ds := cs.takeWhile isAsciiDigit
    (readDigits? 10 ds, cs.drop ds.length)
  let finish (least : Nat) (most : Option Nat) (cs : List Char) : Option (Nat × Option Nat × List Char) :=
    match extended, cs with
    | true, '\x7d' :: rest | false, '\\' :: '\x7d' :: rest => some (least, most, rest)
    | _, _ => none
  match digits cs with
  | (least, ',' :: r) =>
    let (most, r) := digits r
    finish (least.getD 0) most r
  | (some n, r) => finish n (some n) r
  | (none, _) => none

/-- The atom that a backslash and a letter stand for. -/
def escapedAtom (c : Char) : Regex :=
  let space : List Choice := [.named "space"]
  let word : List Choice := [.named "alnum", .range '_' '_']
  match c with
  | 'w' => .among false word
  | 'W' => .among true word
  | 's' => .among false space
  | 'S' => .among true space
  | 'b' => .wordEdge
  | 'B' => .noEdge
  | '<' => .wordStart
  | '>' => .wordEnd
  | '\x60' => .lineStart
  | '\x27' => .lineEnd
  | c => .char c

/-- The tokens of a regular expression; at most `fuel` of them. -/
def tokens (extended : Bool) : Nat → List Char → Except RegexError (List Token)
  | 0, _ | _, [] => .ok []
  | fuel + 1, c :: cs =>
    let go (t : Token) (rest : List Char) : Except RegexError (List Token) := (tokens extended fuel rest).map (t :: ·)
    let bounds (text cs : List Char) : Except RegexError (List Token) := match readBounds extended cs with
      | some (least, most, rest) =>
        if most.any (· < least) || 32767 < least || most.any (32767 < ·) then .error .wrongBound
        else go (.times text least most) rest
      | none =>
        if extended then go (.atom (.char '\x7b')) cs
        else .error (if cs.all fun c => isAsciiDigit c || c = ',' then .openBound else .wrongBound)
    match c, cs with
    | '\\', [] => .error .endingBackslash
    | '\\', d :: r =>
      if isAsciiDigit d && d != '0' then go (.back (d.toNat - 48)) r
      else if extended then go (.atom (escapedAtom d)) r
      else match d with
        | '(' => go .opening r
        | ')' => go .closing r
        | '|' => go .bar r
        | '+' => go (.times ['+'] 1 none) r
        | '?' => go (.times ['?'] 0 (some 1)) r
        | '\x7b' => bounds ['\x7b'] r
        | d => go (.atom (escapedAtom d)) r
    | '[', cs =>
      let (negated, body) := match cs with
        | '^' :: r => (true, r)
        | r => (false, r)
      match readBracket (cs.length + 1) true body with
      | .ok (choices, rest) =>
        let inner := body.take (body.length - rest.length - 1)
        if !negated && inner.head? = some ':' && inner.getLast? = some ':' && 1 < inner.length then .error .classOutside
        else go (.atom (.among negated choices)) rest
      | .error e => .error e
    | '*', cs => go (.times ['*'] 0 none) cs
    | '.', cs => go (.atom .any) cs
    | '^', cs => go .start cs
    | '$', cs => go .stop cs
    | c, cs =>
      if !extended then go (.atom (.char c)) cs
      else match c with
        | '(' => go .opening cs
        | ')' => go .closing cs
        | '|' => go .bar cs
        | '+' => go (.times ['+'] 1 none) cs
        | '?' => go (.times ['?'] 0 (some 1)) cs
        | '\x7b' => bounds ['\x7b'] cs
        | c => go (.atom (.char c)) cs

/-- What has been read, how many groups have been opened, and what is left. -/
abbrev Grown := Except RegexError (Regex × Nat × List Token)

def Grown.joined (first : Regex) (g : Grown) : Grown :=
  g.map fun (r, n, rest) => (if first = .empty then r else if r = .empty then first else .both first r, n, rest)

/-- How often a part comes, by all that stands behind it. -/
def repeatedBy (r : Regex) : List Token → Regex × List Token
  | .times _ least most :: ts => repeatedBy (.many r least most) ts
  | ts => (r, ts)

mutual

/-- Alternatives, inside of so many groups; at most `fuel` steps. -/
def readEither (extended : Bool) : Nat → Nat → Nat → List Token → Grown
  | 0, _, n, ts => .ok (.empty, n, ts)
  | fuel + 1, depth, n, ts => match readRow extended fuel true depth n ts with
    | .ok (r, n, .bar :: rest) =>
      (readEither extended fuel depth n rest).map fun (other, n, rest) => (.either r other, n, rest)
    | result => result

/-- Parts one after the other; whether nothing stands before them, is told. -/
def readRow (extended : Bool) : Nat → Bool → Nat → Nat → List Token → Grown
  | 0, _, _, n, ts => .ok (.empty, n, ts)
  | _ + 1, _, _, n, [] => .ok (.empty, n, [])
  | fuel + 1, first, depth, n, t :: ts =>
    let after (r : Regex) (n : Nat) (ts : List Token) : Grown :=
      let (r, ts) := repeatedBy r ts
      (readRow extended fuel false depth n ts).joined r
    match t with
    | .bar => .ok (.empty, n, t :: ts)
    | .closing =>
      if 0 < depth then .ok (.empty, n, t :: ts)
      else if extended then after (.char ')') n ts
      else .error .closedGroup
    | .opening => match readEither extended fuel (depth + 1) (n + 1) ts with
      | .ok (r, m, .closing :: rest) => after (.group (n + 1) r) m rest
      | .ok _ => .error .openGroup
      | .error e => .error e
    | .atom r => after r n ts
    | .back k => if n < k then .error .noSuchGroup else after (.back k) n ts
    | .start =>
      if extended || first then
        (readRow extended fuel (!extended) depth n ts).joined .lineStart
      else after (.char '^') n ts
    | .stop =>
      let last := match ts with
        | [] | .bar :: _ | .closing :: _ => true
        | _ => false
      if extended || last then (readRow extended fuel false depth n ts).joined .lineEnd else after (.char '$') n ts
    | .times text _ _ =>
      if !extended && first then after (.char (text.headD '*')) n ts else readRow extended fuel first depth n ts

end

end RegexReader

/-- Reads a regular expression, and how many groups it has. -/
def readRegex (extended : Bool) (text : List Char) : Except RegexError (Regex × Nat) :=
  match RegexReader.tokens extended (text.length + 1) text with
  | .error e => .error e
  | .ok ts => match RegexReader.readEither extended (2 * ts.length + 2) 0 0 ts with
    | .ok (r, n, _) => .ok (r, n)
    | .error e => .error e

end KeyFeed.Host.Programs
