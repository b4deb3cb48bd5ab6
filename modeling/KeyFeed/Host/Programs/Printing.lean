import KeyFeed.Host.Programs.Decimal
import KeyFeed.Host.Shell.Arithmetic

/-! Programs that only print: escapes of a backslash, and formats with conversions for numbers and texts. -/

namespace KeyFeed.Host.Programs
open Text Shell

/-! ### Escapes -/

/-- The character that a backslash and this letter stand for. -/
def escapedLetter? : Char → Option Char
  | 'n' => some '\n'
  | 't' => some '\t'
  | 'r' => some '\r'
  | 'a' => some '\x07'
  | 'b' => some '\x08'
  | 'f' => some '\x0c'
  | 'v' => some '\x0b'
  | 'e' => some '\x1b'
  | '\\' => some '\\'
  | _ => none

def isOctalDigit (c : Char) : Bool := '0' ≤ c && c ≤ '7'

/-- The byte that up to three octal digits stand for, and what follows them. -/
def octalByte? (cs : List Char) : Option (Char × List Char) :=
  let digits := (cs.takeWhile isOctalDigit).take 3
  if digits.isEmpty then none
  else some (Char.ofNat ((readDigits? 8 digits).getD 0 % 256), cs.drop digits.length)

/-- What a backslash and the characters behind it stand for. -/
def escapeIn (cs : List Char) : List Char × List Char :=
  match octalByte? cs, cs with
  | some (c, rest), _ => ([c], rest)
  | none, c :: r => match escapedLetter? c with
    | some d => ([d], r)
    | none => (['\\'], c :: r)
  | none, [] => (['\\'], [])

/-- Text with the escapes of a backslash replaced, and whether an escape asks for the end; at most `fuel` characters.
    A zero may stand in front of octal digits. -/
def unescape : Nat → List Char → List Char × Bool
  | fuel + 1, '\\' :: r =>
    if r.head? = some 'c' then ([], true)
    else
      let digits := match r with
        | '0' :: d :: ds => if isOctalDigit d then d :: ds else r
        | r => r
      let (piece, rest) := escapeIn digits
      let (s, ended) := unescape fuel rest
      (piece ++ s, ended)
  | fuel + 1, c :: r =>
    let (s, ended) := unescape fuel r
    (c :: s, ended)
  | _, _ => ([], false)

/-- The whole text with its escapes replaced. -/
def unescaped (s : String) : List Char × Bool := unescape s.length s.toList

/-- What the shell prints when it is told to echo. -/
def echo (args : List String) : List Char :=
  let (newline, words) := match args with
    | "-n" :: words => (false, words)
    | words => (true, words)
  let (text, ended) := unescaped (String.intercalate " " words)
  if newline && !ended then text ++ ['\n'] else text

/-- What the program of that name prints: it replaces escapes only when it is asked to. -/
def echoPlainly (args : List String) : List Char :=
  let isFlags (arg : String) : Bool := match arg.toList with
    | '-' :: c :: cs => (c :: cs).all ['n', 'e', 'E'].contains
    | _ => false
  let flags := ((args.takeWhile isFlags).map String.toList).flatten
  let words := String.intercalate " " (args.dropWhile isFlags)
  let escapes := (flags.filter (· != 'n')).getLast? = some 'e'
  let (text, ended) := if escapes then unescaped words else (words.toList, false)
  if flags.contains 'n' || ended then text else text ++ ['\n']

/-! ### Numbers in arguments -/

/-- A number in an argument, and what is wrong with it. A character behind a quote counts as its number. -/
def argumentNumber (arg : String) : Int × Option String :=
  let isSpace (c : Char) : Bool := c = ' ' || ('\t' ≤ c && c ≤ '\r')
  let (negative, digits) := match arg.toList.dropWhile isSpace with
    | '-' :: r => (true, r)
    | '+' :: r => (false, r)
    | r => (false, r)
  match arg.toList with
  | [] => (0, none)
  | '\x27' :: cs | '"' :: cs => (Int.ofNat (cs.headD '\x00').toNat, none)
  | _ =>
    if digits.head?.all (!isAsciiDigit ·) then (0, some (arg ++ ": expected numeric value"))
    else
      let (n, rest) := leadingDigits digits
      (if negative then -n else n,
        if !rest.isEmpty then some (arg ++ ": not completely converted")
        else if n = 9223372036854775807 && (readDigits? 10 digits).any (9223372036854775807 < ·) then
          some (arg ++ ": Numerical result out of range")
        else none)

/-- A number with a fraction in an argument, whether it is negative, and what is wrong with it. -/
def argumentDecimal (arg : String) : Bool × Quotient × Option String :=
  let (negative, cs) := match arg.toList.dropWhile isBlank with
    | '-' :: r => (true, r)
    | '+' :: r => (false, r)
    | r => (false, r)
  match arg.toList with
  | [] => (false, ⟨0, 1⟩, none)
  | '\x27' :: cs | '"' :: cs => (false, ⟨(cs.headD '\x00').toNat, 1⟩, none)
  | _ => match readDecimal cs with
    | none => (false, ⟨0, 1⟩, some (arg ++ ": expected numeric value"))
    | some (q, rest) =>
      (negative, q.toBinary, if rest.isEmpty then none else some (arg ++ ": not completely converted"))

/-! ### Formats -/

/-- How a conversion lays out what it prints. -/
structure Layout where
  flags : List Char
  width : Nat
  precision : Option Nat
  deriving DecidableEq, Repr

/-- A sign and a text brought to the width, on the right or on the left; zeros may stand between the two. -/
def Layout.fill (l : Layout) (zeros : Bool) (sign text : List Char) : List Char :=
  let missing := l.width - (sign.length + text.length)
  if l.flags.contains '-' then sign ++ text ++ List.replicate missing ' '
  else if zeros && l.flags.contains '0' then sign ++ List.replicate missing '0' ++ text
  else List.replicate missing ' ' ++ sign ++ text

def Layout.cut (l : Layout) (text : List Char) : List Char := l.fill false [] (text.take (l.precision.getD text.length))

def Layout.signOf (l : Layout) (negative : Bool) : List Char :=
  if negative then ['-'] else if l.flags.contains '+' then ['+'] else if l.flags.contains ' ' then [' '] else []

/-- A whole number with as many digits as the precision asks for. -/
def Layout.whole (l : Layout) (sign digits : List Char) : List Char :=
  let digits := if digits = ['0'] && l.precision = some 0 then [] else digits
  l.fill l.precision.isNone sign (padded (l.precision.getD 0) digits)

/-- What one conversion makes of its argument, and what is wrong with that; nothing, if there is no such conversion. -/
def convert (l : Layout) (kind : Char) (arg : String) : Option (List Char × Option String) :=
  let (n, wrong) := argumentNumber arg
  let bits := (n % Int.ofNat (Nat.pow 2 64)).toNat
  let hexadecimal (digits : List Char) (mark : Char) : List Char :=
    l.whole (if l.flags.contains '#' && bits != 0 then ['0', mark] else []) digits
  let decimal (f : Quotient → Nat → Bool → List Char) : List Char × Option String :=
    let (negative, q, wrong) := argumentDecimal arg
    (l.fill true (l.signOf negative) (f q (l.precision.getD 6) (l.flags.contains '#')), wrong)
  match kind with
  | 's' => some (l.cut arg.toList, none)
  | 'b' => some (l.cut (unescaped arg).1, none)
  | 'c' => some (l.fill false [] [arg.toList.headD '\x00'], none)
  | 'd' | 'i' => some (l.whole (l.signOf (n < 0)) (decimalDigits n.natAbs), wrong)
  | 'u' => some (l.whole [] (decimalDigits bits), wrong)
  | 'x' => some (hexadecimal (hexDigits bits) 'x', wrong)
  | 'X' => some (hexadecimal ((hexDigits bits).map Char.toUpper) 'X', wrong)
  | 'o' =>
    let ds := Nat.toDigits 8 bits
    some (l.whole [] (if l.flags.contains '#' && bits != 0 then '0' :: ds else ds), wrong)
  | 'f' | 'F' => some (decimal Quotient.fixed)
  | 'e' | 'E' => some (decimal fun q places keep => q.scientific places kind keep)
  | 'g' => some (decimal fun q places keep => q.general places 'e' keep)
  | 'G' => some (decimal fun q places keep => q.general places 'E' keep)
  | _ => none

/-- What has been printed so far, the arguments that are left, and what was wrong. -/
structure Formatted where
  output : List Char
  rest : List String
  wrong : List String
  /-- Whether printing ends here, and whether that is because of a mistake in the format. -/
  ended : Bool
  mistaken : Bool

/-- A width or precision: digits, or a star for the next argument. -/
def readCount (cs : List Char) (args : List String) : Int × List Char × List String :=
  match cs with
  | '*' :: r => ((argumentNumber (args.headD "")).1, r, args.tail)
  | cs =>
    let digits := cs.takeWhile isAsciiDigit
    (Int.ofNat ((readDigits? 10 digits).getD 0), cs.drop digits.length, args)

/-- One pass over a format; at most `fuel` characters. -/
def formatOnce : Nat → List Char → Formatted → Formatted
  | 0, _, f => f
  | _ + 1, [], f => f
  | fuel + 1, '%' :: '%' :: r, f => formatOnce fuel r { f with output := f.output ++ ['%'] }
  | fuel + 1, '%' :: cs, f =>
    let flags := cs.takeWhile ['-', '0', ' ', '+', '#'].contains
    let (width, r, args) := readCount (cs.drop flags.length) f.rest
    let (precision, r, args) : Option Nat × List Char × List String := match r with
      | '.' :: r =>
        let (n, r, args) := readCount r args
        (if n < 0 then none else some n.toNat, r, args)
      | r => (none, r, args)
    let flags := if width < 0 then '-' :: flags else flags
    match r with
    | [] => { f with wrong := f.wrong ++ ["missing format character"], ended := true, mistaken := true }
    | kind :: r =>
      let arg := args.headD ""
      match convert ⟨flags, width.natAbs, precision⟩ kind arg with
      | none =>
        let directive := '%' :: cs.take (cs.length - r.length)
        { f with wrong := f.wrong ++ [String.ofList directive ++ ": invalid directive"], ended := true, mistaken := true }
      | some (text, wrong) =>
        let f := { f with output := f.output ++ text, rest := args.tail, wrong := f.wrong ++ wrong.toList }
        if kind = 'b' && (unescaped arg).2 then { f with ended := true } else formatOnce fuel r f
  | fuel + 1, '\\' :: r, f =>
    let (piece, rest) := escapeIn r
    formatOnce fuel rest { f with output := f.output ++ piece }
  | fuel + 1, c :: r, f =>
    let plain := c :: r.takeWhile fun c => c != '%' && c != '\\'
    formatOnce fuel ((c :: r).drop plain.length) { f with output := f.output ++ plain }

/-- The format again and again until no argument is left; at most `fuel` times. -/
def formatAll : Nat → List Char → Formatted → Formatted
  | 0, _, f => f
  | fuel + 1, format, f =>
    let after := formatOnce (format.length + 1) format f
    if after.ended || after.rest.isEmpty || after.rest.length = f.rest.length then after else formatAll fuel format after

/-- What is printed, and what was wrong. -/
def printf (format : String) (args : List String) : Formatted :=
  formatAll (args.length + 1) format.toList ⟨[], args, [], false, false⟩

end KeyFeed.Host.Programs
