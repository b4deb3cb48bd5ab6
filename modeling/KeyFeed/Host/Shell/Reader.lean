import KeyFeed.Host.Shell.Script
import KeyFeed.Text.Digits

/-! How scripts are read: one line of commands at a time, so that the lines before a mistake still run. Names that stand
    for other text are replaced while a line is read. -/

namespace KeyFeed.Host.Shell
open Text

inductive Token where
  | word (w : Word)
  | redirect (descriptor : Nat) (kind : RedirectKind)
  | sign (s : String)
  | newline
  | finish

/-- What is left of a text while it is read. -/
structure Reading where
  rest : List Char
  line : Nat
  /-- How many lines behind the current one have been taken out already. -/
  taken : Nat
  /-- A token that was looked at and put back. -/
  pushed : Option Token
  aliases : List (String × String)
  /-- Names that are being replaced, each with how much is left once its text is used up, and whether that text ends in a
      blank, so that the next word can be such a name too. -/
  replaced : List (String × Nat × Bool)

/-- Why a text is no script, and on which line that was noticed. -/
structure SyntaxError where
  line : Nat
  text : String
  deriving DecidableEq, Repr

abbrev Reader := StateT Reading (Except SyntaxError)

namespace Reading

/-- A text that nothing has been read of. -/
def begin (text : List Char) (aliases : List (String × String)) : Reading := ⟨text, 1, 0, none, aliases, []⟩

/-- One character less; at the end of a line the lines behind it that were taken out are counted too. -/
def step (r : Reading) : Reading :=
  match r.rest with
  | [] => r
  | '\n' :: rest => { r with rest := rest, line := r.line + 1 + r.taken, taken := 0 }
  | _ :: rest => { r with rest := rest }

def steps : Nat → Reading → Reading
  | 0, r => r
  | n + 1, r => steps n r.step

/-- Lines that go on behind a backslash are joined here. -/
def joined (r : Reading) : Nat → Reading
  | 0 => r
  | fuel + 1 => match r.rest with
    | '\\' :: '\n' :: _ => (r.steps 2).joined fuel
    | _ => r

end Reading

namespace Reader

def fail {α : Type} (text : String) : Reader α := fun r => .error ⟨r.line, text⟩

def advance (n : Nat) : Reader Unit := modify (Reading.steps n)

/-- What is left, with lines joined that go on here. -/
def remaining : Reader (List Char) := do
  modify fun r => r.joined r.rest.length
  return (← get).rest

/-- The text of as many characters as satisfy a condition, which is passed. -/
def takeText (p : Char → Bool) : Reader String := do
  let text := (← get).rest.takeWhile p
  advance text.length
  return String.ofList text

def push (t : Token) : Reader Unit := modify fun r => { r with pushed := some t }

/-! ### Names of tokens -/

/-- The reserved word that a token is, in a place where one can stand. -/
def reserved? : Token → Option String
  | .word w => (plainText? w).filter reservedWords.contains
  | _ => none

def quotedName (s : String) : String := "\"" ++ s ++ "\""

/-- How a token is called in a complaint; reserved words have their own names only where they can stand. -/
def describe (t : Token) : String :=
  match t with
  | .word _ => match reserved? t with
    | some s => quotedName s
    | none => "word"
  | .redirect _ _ => "redirection"
  | .sign s => quotedName s
  | .newline => "newline"
  | .finish => "end of file"

def unexpected {α : Type} (t : Token) (wanted : Option String) : Reader α :=
  fail ("Syntax error: " ++ describe t ++ " unexpected"
    ++ (wanted.map fun s => " (expecting " ++ quotedName s ++ ")").getD "")

def isSign (s : String) : Token → Bool
  | .sign t => s == t
  | _ => false

/-- Whether a list of commands can end before this token. -/
def endsList (t : Token) : Bool :=
  isSign ")" t || isSign ";;" t
    || (reserved? t).any ["do", "done", "elif", "else", "esac", "fi", "then", "\x7d"].contains

/-! ### Texts within a script -/

/-- The word that ends a text within a script: its characters, whether any of them is quoted, and what follows. -/
def cutEnding : List Char → List Char × Bool × List Char
  | [] => ([], false, [])
  | '\\' :: c :: r =>
    let (word, _, rest) := cutEnding r
    (c :: word, true, rest)
  | c :: r =>
    if c = '\x27' || c = '"' then match cut? c r with
      | some (inner, after) =>
        let (word, _, rest) := cutEndingAfter after
        (inner ++ word, true, rest)
      | none => (r, true, [])
    else if endsWord c then ([], false, c :: r)
    else
      let (word, quoted, rest) := cutEnding r
      (c :: word, quoted, rest)
where
  /-- The part of such a word behind a pair of quotes. -/
  cutEndingAfter (cs : List Char) : List Char × Bool × List Char :=
    let word := cs.takeWhile fun c => !endsWord c
    (word.filter fun c => c != '\x27' && c != '"' && c != '\\', true, cs.drop word.length)

/-- The text up to the line that ends a text within a script, of how many lines that is with its end, and the lines after
    them. A line does not begin anew behind a backslash that has a meaning there. -/
def cutLines (indented escapes : Bool) (ending : List Char) :
    Bool → List (List Char) → List Char × Nat × List (List Char)
  | _, [] => ([], 0, [])
  | begun, line :: lines =>
    let line := if indented && !begun then line.dropWhile (· == '\t') else line
    if line = ending && !begun then ([], 1, lines)
    else if lines.isEmpty then (line, 0, [])
    else
      let goesOn := escapes && (line.reverse.takeWhile (· == '\\')).length % 2 = 1
      let (text, n, rest) := cutLines indented escapes ending goesOn lines
      (line ++ '\n' :: text, n + 1, rest)

/-- Takes the text of a redirection out of the lines behind the current one. Whether values are put into it, comes back
    too. -/
def takeLines (indented : Bool) : Reader (List Char × Bool) := do
  let cs := (← remaining).dropWhile fun c => c == ' ' || c == '\t'
  let (ending, quoted, after) := cutEnding cs
  if ending.isEmpty && !quoted then
    unexpected (match cs with
      | [] => .finish
      | '\n' :: _ => .newline
      | '<' :: _ | '>' :: _ => .redirect 0 .read
      | c :: _ => .sign (String.singleton c)) none
  else
    let line := after.takeWhile (· != '\n')
    let (text, n, rest) := cutLines indented (!quoted) ending false (fields '\n' (after.drop (line.length + 1)))
    modify fun r => { r with rest := line ++ '\n' :: join ['\n'] rest, taken := r.taken + n }
    return (text, !quoted)

/-- The text up to the next backquote that is not escaped. -/
def untilBackquote (inQuotes : Bool) : List Char → Option (List Char × List Char)
  | [] => none
  | '\x60' :: r => some ([], r)
  | '\\' :: c :: r =>
    let (kept, dropped) : List Char × Bool :=
      if c = '\n' then ([], true)
      else if c = '\x60' || c = '\\' || c = '$' || (inQuotes && c = '"') then ([c], true)
      else (['\\', c], false)
    (untilBackquote inQuotes r).map fun (a, b) => (kept ++ a, if dropped then b else b)
  | c :: r => (untilBackquote inQuotes r).map fun (a, b) => (c :: a, b)

/-! ### Words and tokens -/

/-- What the characters around a piece of text make of it. -/
inductive Surround where
  /-- A word ends where a character that is not quoted says so. -/
  | word
  | quotes
  /-- A text within a script goes on to its end. -/
  | text
  /-- The word of a rule ends at a closing brace. -/
  | braces (guarded : Bool)
  /-- A sum ends at two closing brackets, apart from those of so many opening ones. -/
  | sum (depth : Nat)
  deriving DecidableEq, Repr

namespace Surround

/-- Whether characters have no meaning here apart from the few that double quotes leave it. -/
def guards : Surround → Bool
  | .word => false
  | .braces guarded => guarded
  | _ => true

/-- Whether a backslash in front of a character is left out. -/
def escapes (s : Surround) (c : Char) : Bool :=
  !s.guards || c = '\\' || c = '$' || c = '\x60' || (c = '"' && s != .text && s != .sum 0)
    || (c = '\x7d' && s = .braces true)

/-- What is missing when the text ends here. -/
def missing? : Surround → Option String
  | .word | .text => none
  | .quotes => some "Syntax error: Unterminated quoted string"
  | .braces _ => some "Syntax error: Missing '\x7d'"
  | .sum _ => some "Syntax error: Missing '))'"

end Surround

/-- The rule that follows the name of a parameter in braces, and how many characters it takes. -/
def ruleSign : List Char → Rule × Nat
  | ':' :: '-' :: _ => (.fallback true, 2)
  | ':' :: '=' :: _ => (.assign true, 2)
  | ':' :: '?' :: _ => (.demand true, 2)
  | ':' :: '+' :: _ => (.instead true, 2)
  | '-' :: _ => (.fallback false, 1)
  | '=' :: _ => (.assign false, 1)
  | '?' :: _ => (.demand false, 1)
  | '+' :: _ => (.instead false, 1)
  | '#' :: '#' :: _ => (.without false true, 2)
  | '#' :: _ => (.without false false, 1)
  | '%' :: '%' :: _ => (.without true true, 2)
  | '%' :: _ => (.without true false, 1)
  | _ => (.unknown, 0)

/-- The name of a parameter in braces, whether its length is asked for, and how many characters that takes. -/
def bracedName (cs : List Char) : List Char × Bool × Nat :=
  let named (cs : List Char) : List Char := match cs with
    | c :: _ =>
      if isNameStart c then cs.takeWhile isNameChar
      else if isAsciiDigit c then cs.takeWhile isAsciiDigit
      else if isSpecialName c then [c]
      else []
    | [] => []
  match cs with
  | '#' :: c :: r =>
    if isNameChar c then (named (c :: r), true, (named (c :: r)).length + 1)
    else if isSpecialName c && r.head? = some '\x7d' then ([c], true, 2)
    else (['#'], false, 1)
  | cs => (named cs, false, (named cs).length)

def charPiece (guarded : Bool) (c : Char) : Piece := if guarded then .guarded c else .plain c

/-- What a sign that divides commands is, if one stands here. -/
def sign? : List Char → Option String
  | '&' :: '&' :: _ => some "&&"
  | '|' :: '|' :: _ => some "||"
  | ';' :: ';' :: _ => some ";;"
  | '&' :: _ => some "&"
  | '|' :: _ => some "|"
  | ';' :: _ => some ";"
  | '(' :: _ => some "("
  | ')' :: _ => some ")"
  | _ => none

/-- The sign of a redirection: its kind, its usual descriptor, and how many characters it takes. -/
def redirectSign? : List Char → Option (RedirectKind × Nat × Nat)
  | '>' :: '>' :: _ => some (.append, 1, 2)
  | '>' :: '&' :: _ => some (.duplicate, 1, 2)
  | '>' :: '|' :: _ => some (.replace, 1, 2)
  | '>' :: _ => some (.write, 1, 1)
  | '<' :: '<' :: '-' :: _ => some (.text true, 0, 3)
  | '<' :: '<' :: _ => some (.text false, 0, 2)
  | '<' :: '&' :: _ => some (.duplicate, 0, 2)
  | '<' :: '>' :: _ => some (.both, 0, 2)
  | '<' :: _ => some (.read, 0, 1)
  | _ => none

/-- A redirection, with the digit of its descriptor if one stands right before its sign. -/
def redirection? : List Char → Option (Token × Nat)
  | c :: r =>
    match redirectSign? (c :: r), redirectSign? r with
    | some (kind, descriptor, n), _ => some (.redirect descriptor kind, n)
    | none, some (kind, _, n) =>
      if isAsciiDigit c then some (.redirect (c.toNat - 48) kind, n + 1) else none
    | none, none => none
  | [] => none

/-- Passes blanks, joined lines and comments. -/
def skipBlanks : Nat → Reader Unit
  | 0 => return
  | fuel + 1 => do
    match ← remaining with
    | ' ' :: _ | '\t' :: _ =>
      advance 1
      skipBlanks fuel
    | '#' :: rest => advance (rest.takeWhile (· != '\n')).length.succ
    | _ => return

/-- Puts the text for which a name stands in the place of the name, if it stands for one and is not within it. -/
def replaceAlias (w : Word) : Reader Bool := do
  let r ← get
  let left := r.rest.length
  let replaced := r.replaced.filter fun (_, n, _) => n < left
  match (plainText? w).bind fun name => r.aliases.find? (·.1 == name) with
  | none => return false
  | some (name, text) =>
    if replaced.any (·.1 == name) then return false
    else
      let blankEnd := text.toList.getLast?.any fun c => c == ' ' || c == '\t'
      set { r with rest := text.toList ++ r.rest, replaced := (name, left, blankEnd) :: replaced }
      return true

/-- Forgets the names whose text is used up; whether one of those texts ended in a blank. -/
def passReplaced : Reader Bool := do
  let r ← get
  let left := r.rest.length
  set { r with replaced := r.replaced.filter fun (_, n, _) => n < left }
  return r.replaced.any fun (_, n, blankEnd) => blankEnd && left ≤ n

/-- How a list of commands is bounded. -/
inductive Bound where
  /-- By the end of its line. -/
  | line
  /-- By a token that ends lists, with at least one command before it. -/
  | some
  /-- By a token that ends lists. -/
  | any
  deriving DecidableEq, Repr

mutual

/-- The pieces up to the character that ends their surroundings. -/
def readPieces : Nat → Surround → List Piece → Reader Word
  | 0, _, _ => fail "Syntax error: too long"
  | fuel + 1, s, acc => do
    let cs := (← get).rest
    let guards := s.guards
    match cs with
    | [] => match s.missing? with
      | none => return acc.reverse
      | some text => fail text
    | '\\' :: '\n' :: _ =>
      advance 2
      readPieces fuel s acc
    | '\\' :: c :: _ =>
      advance 2
      readPieces fuel s (if s.escapes c then .guarded c :: acc else .guarded c :: .guarded '\\' :: acc)
    | '$' :: _ =>
      advance 1
      let piece ← readDollar fuel guards
      readPieces fuel s (piece :: acc)
    | '\x60' :: rest => match untilBackquote guards rest with
      | none => fail "Syntax error: EOF in backquote substitution"
      | some (text, after) =>
        advance (rest.length - after.length + 1)
        let body ← readApart fuel text
        readPieces fuel s (.output body guards :: acc)
    | c :: rest =>
      if c = '\x27' && !guards then match cut? c rest with
        | none =>
          advance cs.length
          fail "Syntax error: Unterminated quoted string"
        | some (text, _) =>
          advance (text.length + 2)
          readPieces fuel s ((text.reverse.map .guarded) ++ .quotes :: acc)
      else if c = '"' && s = .quotes then
        advance 1
        return acc.reverse
      else if c = '"' && !guards then
        advance 1
        let inner ← readPieces fuel .quotes []
        readPieces fuel s (inner.reverse ++ .quotes :: acc)
      else if c = '"' && s = .braces true then
        advance 1
        readPieces fuel s acc
      else match s with
        | .word =>
          if endsWord c then return acc.reverse
          else
            advance 1
            readPieces fuel s (.plain c :: acc)
        | .braces guarded =>
          advance 1
          if c = '\x7d' then return acc.reverse else readPieces fuel s (charPiece guarded c :: acc)
        | .sum depth =>
          advance 1
          if c = '(' then readPieces fuel (.sum (depth + 1)) (.guarded c :: acc)
          else if c != ')' then readPieces fuel s (.guarded c :: acc)
          else match depth, rest with
            | 0, ')' :: _ =>
              advance 1
              return acc.reverse
            | depth, _ => readPieces fuel (.sum (depth - 1)) (.guarded c :: acc)
        | _ =>
          advance 1
          readPieces fuel s (.guarded c :: acc)

/-- What a dollar sign introduces. -/
def readDollar : Nat → Bool → Reader Piece
  | 0, _ => fail "Syntax error: too long"
  | fuel + 1, guarded => do
    match ← remaining with
    | '(' :: '(' :: _ =>
      advance 2
      let expression ← readPieces fuel (.sum 0) []
      return .arithmetic expression guarded
    | '(' :: _ =>
      advance 1
      let body ← readList fuel .any []
      expectSign fuel ")"
      return .output body guarded
    | '\x7b' :: _ =>
      advance 1
      readBraces fuel guarded
    | c :: _ =>
      if isNameStart c then
        let name ← takeText isNameChar
        return .parameter name guarded
      else if isSpecialName c then
        advance 1
        return .parameter (String.singleton c) guarded
      else return charPiece guarded '$'
    | [] => return charPiece guarded '$'

/-- A parameter in braces. -/
def readBraces : Nat → Bool → Reader Piece
  | 0, _ => fail "Syntax error: too long"
  | fuel + 1, guarded => do
    let (name, measured, n) := bracedName (← remaining)
    advance n
    let name := String.ofList name
    let rest ← remaining
    if rest.head? = some '\x7d' && !name.isEmpty then
      advance 1
      return if measured then .ruled name .length [] guarded else .parameter name guarded
    else
      let (rule, n) := if measured || name.isEmpty then (.unknown, 0) else ruleSign rest
      advance n
      let trims := match rule with
        | .without _ _ => true
        | _ => false
      let word ← readPieces fuel (.braces (guarded && !trims)) []
      return .ruled name rule word guarded

/-- A script in a text of its own, with lines of its own. -/
def readApart : Nat → List Char → Reader (List Script)
  | 0, _ => fail "Syntax error: too long"
  | fuel + 1, text => do
    let r ← get
    set { r with rest := text, line := 1, taken := 0, pushed := none }
    let body ← readList fuel .any []
    set r
    return body

def readToken : Nat → Reader Token
  | 0 => fail "Syntax error: too long"
  | fuel + 1 => do
    match (← get).pushed with
    | some t =>
      modify fun r => { r with pushed := none }
      return t
    | none =>
      skipBlanks fuel
      let cs := (← get).rest
      match cs, sign? cs, redirection? cs with
      | [], _, _ => return .finish
      | '\n' :: _, _, _ =>
        advance 1
        return .newline
      | _, some s, _ =>
        advance s.length
        return .sign s
      | _, none, some (t, n) =>
        advance n
        return t
      | _, none, none =>
        let again ← passReplaced
        let w ← readPieces fuel .word []
        let replaced ← if again then replaceAlias w else pure false
        if replaced then readCommandToken fuel false else return .word w

/-- The next token that is not the end of a line. -/
def readBeyond : Nat → Reader Token
  | 0 => fail "Syntax error: too long"
  | fuel + 1 => do
    match ← readToken fuel with
    | .newline => readBeyond fuel
    | t => return t

/-- The next token where a command can begin, with names replaced that stand for other text. -/
def readCommandToken : Nat → Bool → Reader Token
  | 0, _ => fail "Syntax error: too long"
  | fuel + 1, beyond => do
    let t ← if beyond then readBeyond fuel else readToken fuel
    match t with
    | .word w => if ← replaceAlias w then readCommandToken fuel beyond else return t
    | t => return t

def expectSign : Nat → String → Reader Unit
  | 0, _ => fail "Syntax error: too long"
  | fuel + 1, s => do
    let t ← readToken fuel
    if isSign s t then return else unexpected t (some s)

def expectWord : Nat → String → Reader Unit
  | 0, _ => fail "Syntax error: too long"
  | fuel + 1, s => do
    let t ← readToken fuel
    if reserved? t = some s then return else unexpected t (some s)

/-- What stands behind the sign of a redirection. -/
def readTarget : Nat → RedirectKind → Reader Word
  | 0, _ => fail "Syntax error: too long"
  | fuel + 1, kind => do
    match kind with
    | .text indented =>
      let (text, replacing) ← takeLines indented
      if replacing then
        let r ← get
        set { r with rest := text, pushed := none }
        let w ← readPieces fuel .text []
        set r
        return w
      else return text.map .guarded
    | _ => match ← readToken fuel with
      | .word w => return w
      | t => unexpected t none

/-- The redirections that stand here. -/
def readRedirects : Nat → List Redirect → Reader (List Redirect)
  | 0, _ => fail "Syntax error: too long"
  | fuel + 1, acc => do
    match ← readToken fuel with
    | .redirect descriptor kind =>
      let target ← readTarget fuel kind
      readRedirects fuel (.mk descriptor kind target :: acc)
    | t =>
      push t
      return acc.reverse

/-- Commands one after the other. -/
def readList : Nat → Bound → List Script → Reader (List Script)
  | 0, _, _ => fail "Syntax error: too long"
  | fuel + 1, bound, acc => do
    let t ← readCommandToken fuel (bound != .line)
    match t with
    | .newline => return acc.reverse
    | .finish =>
      push t
      return acc.reverse
    | _ =>
      push t
      if bound != .line && (bound = .any || !acc.isEmpty) && endsList t then return acc.reverse
      else
        let script ← readChain fuel
        let t ← readToken fuel
        if isSign "&" t then readList fuel bound (.background script :: acc)
        else if isSign ";" t then readList fuel bound (script :: acc)
        else match t, bound with
          | .newline, .line => return (script :: acc).reverse
          | .newline, _ => readList fuel bound (script :: acc)
          | .finish, _ =>
            push t
            return (script :: acc).reverse
          | _, .line => unexpected t none
          | _, _ =>
            push t
            return (script :: acc).reverse

/-- Pipelines of which each hangs on the success or the failure of what stands before it. -/
def readChain : Nat → Reader Script
  | 0 => fail "Syntax error: too long"
  | fuel + 1 => do
    let first ← readPipeline fuel
    readChainRest fuel first

def readChainRest : Nat → Script → Reader Script
  | 0, _ => fail "Syntax error: too long"
  | fuel + 1, first => do
    let t ← readToken fuel
    if isSign "&&" t then
      push (← readCommandToken fuel true)
      let second ← readPipeline fuel
      readChainRest fuel (.both first second)
    else if isSign "||" t then
      push (← readCommandToken fuel true)
      let second ← readPipeline fuel
      readChainRest fuel (.either first second)
    else
      push t
      return first

def readPipeline : Nat → Reader Script
  | 0 => fail "Syntax error: too long"
  | fuel + 1 => do
    let t ← readCommandToken fuel false
    let negated := reserved? t = some "!"
    if !negated then push t
    let stages ← readStages fuel []
    return .pipeline negated stages

def readStages : Nat → List Script → Reader (List Script)
  | 0, _ => fail "Syntax error: too long"
  | fuel + 1, acc => do
    let stage ← readCommand fuel
    let t ← readToken fuel
    if isSign "|" t then
      push (← readCommandToken fuel true)
      readStages fuel (stage :: acc)
    else
      push t
      return (stage :: acc).reverse

def readCommand : Nat → Reader Script
  | 0 => fail "Syntax error: too long"
  | fuel + 1 => do
    let t ← readCommandToken fuel false
    let line := (← get).line
    match t, reserved? t with
    | .redirect _ _, _ | .word _, none =>
      push t
      readSimple fuel line [] []
    | .sign "(", _ =>
      let body ← readList fuel .some []
      expectSign fuel ")"
      return .subshell line body (← readRedirects fuel [])
    | _, some "\x7b" =>
      let body ← readList fuel .some []
      expectWord fuel "\x7d"
      return .group line body (← readRedirects fuel [])
    | _, some "if" =>
      let script ← readChoice fuel
      return .group line [script] (← readRedirects fuel [])
    | _, some "while" => readLoop fuel line false
    | _, some "until" => readLoop fuel line true
    | _, some "for" => readFor fuel line
    | _, some "case" => match ← readToken fuel with
      | .word subject =>
        let t ← readBeyond fuel
        if reserved? t = some "in" then
          let branches ← readBranches fuel []
          return .group line [.cases line subject branches] (← readRedirects fuel [])
        else unexpected t (some "in")
      | t => fail ("Syntax error: " ++ describe t ++ " unexpected (expecting word)")
    | t, _ => unexpected t none

/-- The test of a choice, what follows when it succeeds, and what follows when it does not. -/
def readChoice : Nat → Reader Script
  | 0 => fail "Syntax error: too long"
  | fuel + 1 => do
    let test ← readList fuel .some []
    expectWord fuel "then"
    let yes ← readList fuel .some []
    let t ← readToken fuel
    match reserved? t with
    | some "elif" =>
      let no ← readChoice fuel
      return .choice test yes [no]
    | some "else" =>
      let no ← readList fuel .some []
      expectWord fuel "fi"
      return .choice test yes no
    | some "fi" => return .choice test yes []
    | _ => unexpected t (some "fi")

/-- The body of a loop. -/
def readBody : Nat → Reader (List Script)
  | 0 => fail "Syntax error: too long"
  | fuel + 1 => do
    expectWord fuel "do"
    let body ← readList fuel .some []
    expectWord fuel "done"
    return body

def readLoop : Nat → Nat → Bool → Reader Script
  | 0, _, _ => fail "Syntax error: too long"
  | fuel + 1, line, turned => do
    let test ← readList fuel .some []
    let body ← readBody fuel
    return .group line [.loop turned test body] (← readRedirects fuel [])

def readFor : Nat → Nat → Reader Script
  | 0, _ => fail "Syntax error: too long"
  | fuel + 1, line => do
    let name? := match ← readToken fuel with
      | .word w => (plainText? w).filter isName
      | _ => none
    match name? with
    | none => fail "Syntax error: Bad for loop variable"
    | some name =>
      let t ← readBeyond fuel
      let words ← if reserved? t = some "in" then readWords fuel []
        else do
          if !isSign ";" t then push t
          pure [[Piece.quotes, Piece.parameter "@" true]]
      push (← readBeyond fuel)
      let body ← readBody fuel
      return .group line [.forEach line name words body] (← readRedirects fuel [])

/-- Words up to the end of their line or command. -/
def readWords : Nat → List Word → Reader (List Word)
  | 0, _ => fail "Syntax error: too long"
  | fuel + 1, acc => do
    match ← readToken fuel with
    | .word w => readWords fuel (w :: acc)
    | .newline | .sign ";" => return acc.reverse
    | t => unexpected t none

/-- Patterns with bars between them, up to a closing bracket. -/
def readPatterns : Nat → List Word → Reader (List Word)
  | 0, _ => fail "Syntax error: too long"
  | fuel + 1, acc => do
    match ← readToken fuel with
    | .word w =>
      let t ← readToken fuel
      if isSign "|" t then readPatterns fuel (w :: acc)
      else if isSign ")" t then return (w :: acc).reverse
      else unexpected t (some ")")
    | t => unexpected t (some ")")

/-- The branches up to the end of their list; the last of them needs no sign behind it. -/
def readBranches : Nat → List (List Word × List Script) → Reader (List (List Word × List Script))
  | 0, _ => fail "Syntax error: too long"
  | fuel + 1, acc => do
    let t ← readBeyond fuel
    if reserved? t = some "esac" then return acc.reverse
    else
      if !isSign "(" t then push t
      let patterns ← readPatterns fuel []
      let body ← readList fuel .any []
      let t ← readBeyond fuel
      if isSign ";;" t then readBranches fuel ((patterns, body) :: acc)
      else if reserved? t = some "esac" then return ((patterns, body) :: acc).reverse
      else unexpected t (some ";;")

/-- A command that is no more than words and redirections, or the definition of a function. -/
def readSimple : Nat → Nat → List Word → List Redirect → Reader Script
  | 0, _, _, _ => fail "Syntax error: too long"
  | fuel + 1, line, words, redirects => do
    let t ← if words.all fun w => (assignment? w).isSome then readCommandToken fuel false else readToken fuel
    match t, words, redirects with
    | .word w, _, _ => readSimple fuel line (w :: words) redirects
    | .redirect descriptor kind, _, _ =>
      let target ← readTarget fuel kind
      readSimple fuel line words (.mk descriptor kind target :: redirects)
    | .sign "(", [w], [] =>
      if (assignment? w).isSome then unexpected t none
      else
        expectSign fuel ")"
        match plainText? w with
        | some name =>
          if isName name && !specialCommands.contains name then
            push (← readCommandToken fuel true)
            let body ← readCommand fuel
            return .define name body
          else fail "Syntax error: Bad function name"
        | none => fail "Syntax error: Bad function name"
    | _, _, _ =>
      push t
      return .simple line words.reverse redirects.reverse

end

end Reader

/-- Reads the next line of commands; nothing comes back at the end of the text. -/
def readScriptLine (r : Reading) : Except SyntaxError (Option (List Script) × Reading) :=
  if r.rest.isEmpty then .ok (none, r)
  else match (Reader.readList (8 * r.rest.length + 100) .line []).run r with
    | .ok (scripts, r) => .ok (some scripts, { r with pushed := none })
    | .error e => .error e

end KeyFeed.Host.Shell
