import KeyFeed.Host.Programs.RegexReader

/-! Scripts that edit lines: commands of one letter, each perhaps for some lines only, and how they are written. -/

namespace KeyFeed.Host.Programs
open Text Shell

/-- A regular expression as it is used in a script; an empty one stands for the last one that was used. -/
structure EditRegex where
  regex : Option Regex
  manner : Manner
  deriving DecidableEq, Repr

/-- A mark by which a line is known. -/
inductive LineMark where
  | number (n : Nat)
  | last
  | matching (r : EditRegex)
  /-- A first line, and all that follow it at a distance. -/
  | stepping (first step : Nat)
  deriving DecidableEq, Repr

/-- Where a row of lines ends that a mark begins. -/
inductive RowEnd where
  | mark (m : LineMark)
  | after (lines : Nat)
  | multiple (n : Nat)
  deriving DecidableEq, Repr

/-- The lines for which a command is. -/
structure LineChoice where
  first : Option LineMark
  second : Option RowEnd
  negated : Bool
  deriving DecidableEq, Repr

/-- A part of what is put in place of a match. -/
inductive Substitute where
  | char (c : Char)
  /-- What a group matched; group zero is the whole match. -/
  | group (n : Nat)
  /-- From here on letters are changed, or the next letter only. -/
  | turn (kind : Char)
  deriving DecidableEq, Repr

structure Substitution where
  pattern : EditRegex
  parts : List Substitute
  every : Bool
  /-- From which match on. -/
  number : Nat
  printed : Bool
  file : Option String
  deriving DecidableEq, Repr

inductive EditCommand where
  | opening
  | closing
  /-- One letter that says all. -/
  | plain (letter : Char)
  | substitute (s : Substitution)
  /-- Text that is put in front of a line, behind it, or in its place. -/
  | text (letter : Char) (text : List Char)
  | label (name : String)
  | branch (letter : Char) (label : String)
  | quit (letter : Char) (status : Nat)
  | file (letter : Char) (path : String)
  | exchange (pairs : List (Char × Char))
  | list (width : Option Nat)
  deriving DecidableEq, Repr

inductive EditError where
  | unknownCommand (c : Char)
  | missingCommand
  | unterminated (c : Char)
  | unterminatedAddress
  | unknownFlag
  | repeatedFlag (c : Char)
  | zeroNumber
  | extraCharacters
  | unexpectedComma
  | unexpectedBrace
  | unmatchedBrace
  | expectedBackslash
  | missingFile
  | lineZero
  | oneAddressOnly
  | noAddress
  | noLabel
  | labelMissing (label : String)
  | lengthsDiffer
  | noSuchGroup (n : Nat)
  | regex (e : RegexError)
  deriving DecidableEq, Repr

def EditError.message : EditError → String
  | .unknownCommand c => "unknown command: \x60" ++ String.singleton c ++ "'"
  | .missingCommand => "missing command"
  | .unterminated c => "unterminated \x60" ++ String.singleton c ++ "' command"
  | .unterminatedAddress => "unterminated address regex"
  | .unknownFlag => "unknown option to \x60s'"
  | .repeatedFlag c => "multiple \x60" ++ String.singleton c ++ "' options to \x60s' command"
  | .zeroNumber => "number option to \x60s' command may not be zero"
  | .extraCharacters => "extra characters after command"
  | .unexpectedComma => "unexpected \x60,'"
  | .unexpectedBrace => "unexpected \x60\x7d'"
  | .unmatchedBrace => "unmatched \x60\x7b'"
  | .expectedBackslash => "expected \\ after \x60a', \x60c' or \x60i'"
  | .missingFile => "missing filename in r/R/w/W commands"
  | .lineZero => "invalid usage of line address 0"
  | .oneAddressOnly => "command only uses one address"
  | .noAddress => "comments don't accept any addresses"
  | .noLabel => "\":\" lacks a label"
  | .labelMissing l => "can't find label for jump to \x60" ++ l ++ "'"
  | .lengthsDiffer => "strings for \x60y' command are different lengths"
  | .noSuchGroup n => "invalid reference \\" ++ decimal n ++ " on \x60s' command's RHS"
  | .regex e => e.message

namespace EditScript

/-- What a reader brings back: a value and what is left, or what is wrong and what was left then. -/
abbrev Reading (α : Type) := Except (EditError × List Char) (α × List Char)

def isBlankChar (c : Char) : Bool := isInClass "space" c

/-- A number, or none where no digit stands. -/
def readNumber (cs : List Char) : Option Nat × List Char :=
  let digits := cs.takeWhile isAsciiDigit
  (readDigits? 10 digits, cs.drop digits.length)

/-- Where a reader is: outside of brackets, so many characters inside of them, or inside of the name of a class there. -/
inductive Bracket where
  | outside
  | within (chars : Nat)
  | named
  deriving DecidableEq, Repr

def Bracket.next (inRegex : Bool) (c : Char) (rest : List Char) : Bracket → Bracket
  | .outside => if c = '[' && inRegex then .within 0 else .outside
  | .within n =>
    if c = ']' && n != 0 then .outside
    else if c = '^' && n = 0 then .within 0
    else if c = '[' && rest.head? = some ':' then .named
    else .within (n + 1)
  | .named => if c = ']' then .within 1 else .named

/-- A text up to a delimiter. A backslash in front of that is taken away, and in a regular expression brackets hide it. -/
def readDelimited (delimiter : Char) (inRegex : Bool) : Bracket → List Char → Option (List Char × List Char)
  | _, [] | _, ['\\'] => none
  | place, '\\' :: d :: rest =>
    let kept :=
      if d = 'n' && inRegex then ['\n']
      else if d = '\n' || (d = delimiter && (inRegex || d != '&')) then [d]
      else ['\\', d]
    let place := if place = .outside then .outside else .within 1
    (readDelimited delimiter inRegex place rest).map fun (text, rest) => (kept ++ text, rest)
  | place, c :: cs =>
    if place = .outside && c = delimiter then some ([], cs)
    else if place = .outside && c = '\n' then none
    else (readDelimited delimiter inRegex (place.next inRegex c cs) cs).map fun (text, rest) => (c :: text, rest)

/-- The character that an escape in a script stands for, and what follows it. -/
def escaped? (cs : List Char) : Option (Char × List Char) :=
  match cs with
  | 'a' :: r => some ('\x07', r)
  | 'f' :: r => some ('\x0c', r)
  | 'n' :: r => some ('\n', r)
  | 'r' :: r => some ('\r', r)
  | 't' :: r => some ('\t', r)
  | 'v' :: r => some ('\x0b', r)
  | 'x' :: r => match readDigits? 16 (r.take 2) with
    | some n => some (Char.ofNat n, r.drop 2)
    | none => none
  | 'o' :: r => (readDigits? 8 (r.take 3)).map fun n => (Char.ofNat (n % 256), r.drop 3)
  | 'd' :: r => (readDigits? 10 (r.take 3)).map fun n => (Char.ofNat (n % 256), r.drop 3)
  | _ => none

/-- A regular expression with its escapes replaced; at most `fuel` characters. -/
def withoutEscapes : Nat → List Char → List Char
  | 0, cs => cs
  | _, [] => []
  | fuel + 1, '\\' :: c :: r =>
    if c = 'n' then '\n' :: withoutEscapes fuel r
    else match escaped? (c :: r) with
      | some (d, rest) => if d = '*' || d = '.' || d = '[' || d = '^' || d = '$' || d = '\\' then
          '\\' :: d :: withoutEscapes fuel rest else d :: withoutEscapes fuel rest
      | none => '\\' :: c :: withoutEscapes fuel r
  | fuel + 1, c :: r => c :: withoutEscapes fuel r

/-- What is put in place of a match; at most `fuel` characters. -/
def readSubstitutes : Nat → List Char → List Substitute
  | 0, _ | _, [] => []
  | fuel + 1, '&' :: r => .group 0 :: readSubstitutes fuel r
  | fuel + 1, '\\' :: c :: r =>
    if isAsciiDigit c then .group (c.toNat - 48) :: readSubstitutes fuel r
    else if ['L', 'U', 'E', 'l', 'u'].contains c then .turn c :: readSubstitutes fuel r
    else match escaped? (c :: r) with
      | some (d, rest) => .char d :: readSubstitutes fuel rest
      | none => .char c :: readSubstitutes fuel r
  | fuel + 1, c :: r => .char c :: readSubstitutes fuel r

def makeRegex (extended : Bool) (text : List Char) (manner : Manner) (rest : List Char) :
    Except (EditError × List Char) (EditRegex × Nat) :=
  if text.isEmpty then .ok (⟨none, manner⟩, 9)
  else match readRegex extended (withoutEscapes text.length text) with
    | .ok (r, groups) => .ok (⟨some r, manner⟩, groups)
    | .error e => .error (.regex e, rest)

/-- The letters behind the regular expression of an address. -/
def readManner (cs : List Char) : Manner × List Char :=
  let letters := cs.takeWhile fun c => c = 'I' || c = 'M'
  (⟨letters.contains 'I', letters.contains 'M'⟩, cs.drop letters.length)

/-- A mark, if one stands here. -/
def readMark (extended : Bool) (cs : List Char) : Reading (Option LineMark) :=
  let regex (delimiter : Char) (r : List Char) : Reading (Option LineMark) :=
    match readDelimited delimiter true .outside r with
    | none => .error (.unterminatedAddress, [])
    | some (text, rest) =>
      let (manner, rest) := readManner rest
      (makeRegex extended text manner rest).map fun (e, _) => (some (.matching e), rest)
  match cs with
  | '$' :: r => .ok (some .last, r)
  | '/' :: r => regex '/' r
  | '\\' :: c :: r => regex c r
  | cs => match readNumber cs with
    | (some n, r) => match r.dropWhile isBlankChar with
      | '~' :: r =>
        let (step, rest) := readNumber r
        .ok (some (.stepping n (step.getD 0)), rest)
      | _ => .ok (some (.number n), r)
    | (none, r) => .ok (none, r)

/-- The lines for which the next command is. -/
def readChoice (extended : Bool) (cs : List Char) : Reading LineChoice :=
  match readMark extended cs with
  | .error e => .error e
  | .ok (first, rest) =>
    let rest := if first.isSome then rest.dropWhile isBlankChar else rest
    let withSecond : Reading (Option RowEnd) := match first, rest with
      | some _, ',' :: r =>
        let r := r.dropWhile isBlankChar
        match r with
        | '+' :: d => match readNumber d with
          | (some n, rest) => .ok (some (.after n), rest)
          | (none, _) => .error (.unexpectedComma, r)
        | '~' :: d => match readNumber d with
          | (some n, rest) => .ok (some (.multiple n), rest)
          | (none, _) => .error (.unexpectedComma, r)
        | _ => match readMark extended r with
          | .error e => .error e
          | .ok (some m, rest) => .ok (some (.mark m), rest)
          | .ok (none, _) => .error (.unexpectedComma, r.drop 1)
      | _, _ => .ok (none, rest)
    match withSecond with
    | .error e => .error e
    | .ok (second, rest) =>
      let zeroWrong := first = some (.number 0) && match second with
        | some (.mark (.matching _)) => false
        | _ => true
      if zeroWrong then .error (.lineZero, rest.drop 1)
      else
        let marks := rest.dropWhile isBlankChar
        match marks with
        | '!' :: r => .ok (⟨first, second, true⟩, r.dropWhile fun c => isBlankChar c || c = '!')
        | _ => .ok (⟨first, second, false⟩, marks)

/-- The end of a command: nothing but blanks up to a divider. -/
def readCommandEnd (cs : List Char) : Except (EditError × List Char) (List Char) :=
  match cs.dropWhile fun c => isBlankChar c && c != '\n' with
  | [] => .ok []
  | c :: r =>
    if c = ';' || c = '\n' then .ok r
    else if c = '}' || c = '#' then .ok (c :: r)
    else .error (.extraCharacters, r)

/-- Flags of a substitution; at most `fuel` of them. -/
def readFlags : Nat → List Char → Substitution → Reading Substitution
  | 0, cs, s => .ok (s, cs)
  | _, [], s => .ok (s, [])
  | fuel + 1, c :: r, s =>
    match c with
    | 'g' => if s.every then .error (.repeatedFlag 'g', r) else readFlags fuel r { s with every := true }
    | 'p' => if s.printed then .error (.repeatedFlag 'p', r) else readFlags fuel r { s with printed := true }
    | 'i' | 'I' => readFlags fuel r { s with pattern := { s.pattern with manner := { s.pattern.manner with folded := true } } }
    | 'm' | 'M' => readFlags fuel r { s with pattern := { s.pattern with manner := { s.pattern.manner with byLines := true } } }
    | 'w' =>
      let path := (r.dropWhile fun c => isBlankChar c && c != '\n').takeWhile (· != '\n')
      if path.isEmpty then .error (.missingFile, r)
      else .ok ({ s with file := some (String.ofList path) }, (r.dropWhile (· != '\n')).drop 1)
    | '}' | '#' => .ok (s, c :: r)
    | ';' | '\n' => .ok (s, r)
    | ' ' | '\t' => readFlags fuel r s
    | c =>
      if isAsciiDigit c then match readNumber (c :: r) with
        | (some 0, rest) => .error (.zeroNumber, rest)
        | (some n, rest) => readFlags fuel rest { s with number := n }
        | (none, rest) => .error (.unknownFlag, rest)
      else .error (.unknownFlag, r)

def readSubstitution (extended : Bool) (cs : List Char) : Reading EditCommand :=
  match cs with
  | [] => .error (.unterminated 's', [])
  | delimiter :: r => match readDelimited delimiter true .outside r with
    | none => .error (.unterminated 's', [])
    | some (pattern, r) => match readDelimited delimiter false .outside r with
      | none => .error (.unterminated 's', [])
      | some (new, r) =>
        let parts := readSubstitutes new.length new
        match readFlags (r.length + 1) r ⟨⟨none, ⟨false, false⟩⟩, parts, false, 1, false, none⟩ with
        | .error e => .error e
        | .ok (s, rest) => match makeRegex extended pattern s.pattern.manner rest with
          | .error e => .error e
          | .ok (regex, groups) =>
            let wrong := parts.findSome? fun (p : Substitute) => match p with
              | .group n => if groups < n then some n else none
              | _ => none
            match wrong with
            | some n => .error (.noSuchGroup n, rest)
            | none => .ok (.substitute { s with pattern := regex }, rest)

/-- A text with the backslashes in it taken away. -/
def readText : List Char → List Char × List Char
  | [] => (['\n'], [])
  | '\n' :: r => (['\n'], r)
  | '\\' :: c :: r =>
    let (text, rest) := readText r
    ((if c = 't' then '\t' else c) :: text, rest)
  | c :: r =>
    let (text, rest) := readText r
    (c :: text, rest)

/-- The text of a command that puts lines in. -/
def readLines (letter : Char) (cs : List Char) : Reading EditCommand :=
  match cs.dropWhile fun c => isBlankChar c && c != '\n' with
  | [] => .error (.expectedBackslash, [])
  | '\\' :: r =>
    let body := match r.dropWhile fun c => c = ' ' || c = '\t' with
      | '\n' :: body => body
      | _ => r
    if body.isEmpty then .ok (.text letter [], [])
    else
      let (text, rest) := readText body
      .ok (.text letter text, rest)
  | '\n' :: r => .error (.expectedBackslash, r)
  | body =>
    let (text, rest) := readText body
    .ok (.text letter text, rest)

/-- The two rows of characters of an exchange. -/
def readExchange (cs : List Char) : Reading EditCommand :=
  let plain : List Char → List Char := fun cs =>
    let rec go : List Char → List Char
      | '\\' :: '\\' :: r => '\\' :: go r
      | '\\' :: 'n' :: r => '\n' :: go r
      | '\\' :: 't' :: r => '\t' :: go r
      | c :: r => c :: go r
      | [] => []
    go cs
  match cs with
  | [] => .error (.unterminated 'y', [])
  | delimiter :: r => match readDelimited delimiter false .outside r with
    | none => .error (.unterminated 'y', [])
    | some (old, r) => match readDelimited delimiter false .outside r with
      | none => .error (.unterminated 'y', [])
      | some (new, r) =>
        if (plain old).length != (plain new).length then .error (.lengthsDiffer, r)
        else (readCommandEnd r).map fun rest => (.exchange ((plain old).zip (plain new)), rest)

/-- A command by its letter. -/
def readCommand (extended : Bool) (choice : LineChoice) (letter : Char) (cs : List Char) : Reading EditCommand :=
  let ended (command : EditCommand) (rest : List Char) : Reading EditCommand :=
    (readCommandEnd rest).map fun rest => (command, rest)
  let line := cs.dropWhile fun c => isBlankChar c && c != '\n'
  match letter with
  | '{' => .ok (.opening, cs)
  | '}' => if choice.first.isSome then .error (.noAddress, cs) else ended .closing cs
  | 's' => readSubstitution extended cs
  | 'y' => readExchange cs
  | 'a' | 'i' | 'c' => readLines letter cs
  | ':' =>
    let name := line.takeWhile fun c => !isBlankChar c && c != ';'
    if name.isEmpty then .error (.noLabel, line)
    else .ok (.label (String.ofList name), (line.drop name.length).dropWhile (· = ';'))
  | 'b' | 't' | 'T' =>
    let name := line.takeWhile fun c => !isBlankChar c && c != ';' && c != '}'
    ended (.branch letter (String.ofList name)) (line.drop name.length)
  | 'q' | 'Q' =>
    if choice.second.isSome then .error (.oneAddressOnly, cs)
    else
      let (n, rest) := readNumber line
      ended (.quit letter (n.getD 0)) rest
  | 'l' =>
    let (n, rest) := readNumber line
    ended (.list n) rest
  | 'r' | 'R' | 'w' | 'W' =>
    let path := line.takeWhile (· != '\n')
    if path.isEmpty then .error (.missingFile, line) else .ok (.file letter (String.ofList path), (line.drop path.length).drop 1)
  | letter =>
    if "=dDFgGhHnNpPxz".toList.contains letter then ended (.plain letter) cs
    else .error (.unknownCommand letter, cs)

/-- The commands of a script, inside of so many braces; at most `fuel` of them. -/
def readCommands (extended : Bool) : Nat → Nat → List Char →
    Except (EditError × List Char) (List (LineChoice × EditCommand))
  | 0, _, _ => .ok []
  | fuel + 1, depth, cs =>
    match cs.dropWhile fun c => isBlankChar c || c = ';' with
    | [] => if 0 < depth then .error (.unmatchedBrace, cs) else .ok []
    | '#' :: r => readCommands extended fuel depth (r.dropWhile (· != '\n'))
    | cs => match readChoice extended cs with
      | .error e => .error e
      | .ok (_, []) => .error (.missingCommand, [])
      | .ok (choice, letter :: rest) =>
        if letter = '#' then .error (.noAddress, rest)
        else match readCommand extended choice letter rest with
          | .error e => .error e
          | .ok (command, rest) => match command, depth with
            | .closing, 0 => .error (.unexpectedBrace, rest)
            | .closing, depth + 1 =>
              (readCommands extended fuel depth rest).map fun commands => (choice, command) :: commands
            | .opening, depth =>
              (readCommands extended fuel (depth + 1) rest).map fun commands => (choice, command) :: commands
            | _, depth => (readCommands extended fuel depth rest).map fun commands => (choice, command) :: commands

end EditScript

/-- Reads a script. -/
def readEditScript (extended : Bool) (text : List Char) : Except (EditError × Nat) (List (LineChoice × EditCommand)) :=
  match EditScript.readCommands extended (text.length + 1) 0 text with
  | .ok commands =>
    let labels := commands.filterMap fun (_, command) => match command with
      | .label name => some name
      | _ => none
    match commands.findSome? fun (_, command) => match command with
      | .branch _ name => if name.isEmpty || labels.contains name then none else some name
      | _ => none with
    | some name => .error (.labelMissing name, 0)
    | none => .ok commands
  | .error (e, rest) => .error (e, if e = .unmatchedBrace then 0 else text.length - rest.length)

end KeyFeed.Host.Programs
