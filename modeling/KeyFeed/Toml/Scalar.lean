import KeyFeed.Text.Blank
import KeyFeed.Text.Digits
import KeyFeed.Text.Fields
import KeyFeed.Toml.Item

/-! Values that are one bare word: truth values, integers, floats, dates and times. A word is a value only as a
    whole. -/

namespace KeyFeed.Toml
open Text

/-- The digits of a row in which single underscores can stand between two digits. -/
def digitGroups? (base : Nat) : List Char → Option (List Nat)
  | [] => none
  | c :: '_' :: r => match digitValue? base c, digitGroups? base r with
    | some d, some ds => some (d :: ds)
    | _, _ => none
  | [c] => (digitValue? base c).map fun d => [d]
  | c :: r => match digitValue? base c, digitGroups? base r with
    | some d, some ds => some (d :: ds)
    | _, _ => none

/-- The digits of a decimal number without superfluous zeros in front. -/
def wholeDigits? (cs : List Char) : Option (List Nat) :=
  match digitGroups? 10 cs with
  | some (0 :: _ :: _) => none
  | ds => ds

/-- A sign, if there is one, and what follows it. -/
def sign : List Char → Bool × List Char
  | '-' :: r => (true, r)
  | '+' :: r => (false, r)
  | r => (false, r)

/-- The integers have sixty-four bits, one of them for the sign. -/
def inRange (n : Int) : Bool := -Int.ofNat (Nat.pow 2 63) ≤ n && n < Int.ofNat (Nat.pow 2 63)

def integer? (cs : List Char) : Option Int :=
  let value := match cs with
    | '0' :: 'x' :: r => (digitGroups? 16 r).map fun ds => Int.ofNat (ofDigits 16 ds)
    | '0' :: 'o' :: r => (digitGroups? 8 r).map fun ds => Int.ofNat (ofDigits 8 ds)
    | '0' :: 'b' :: r => (digitGroups? 2 r).map fun ds => Int.ofNat (ofDigits 2 ds)
    | cs =>
      let (negative, r) := sign cs
      (wholeDigits? r).map fun ds => if negative then - Int.ofNat (ofDigits 10 ds) else Int.ofNat (ofDigits 10 ds)
  value.filter inRange

/-- The value from which on a number is rounded to infinity: half a unit in the last place above the greatest
    binary64. -/
def roundsToInfinity : Nat := Nat.pow 2 1024 - Nat.pow 2 970

/-- Whether the digits times ten to the exponent are rounded to infinity. -/
def overflows (ds : List Nat) (exponent : Int) : Bool :=
  let n := ofDigits 10 ds
  let magnitude := Int.ofNat (Nat.toDigits 10 n).length + exponent
  if n = 0 || magnitude < 300 then false
  else if magnitude > 400 then true
  else if exponent < 0 then roundsToInfinity * Nat.pow 10 exponent.natAbs ≤ n
  else roundsToInfinity ≤ n * Nat.pow 10 exponent.natAbs

/-- The exponent behind the mark, which may have zeros in front. -/
def exponent? (cs : List Char) : Option Int :=
  let (negative, r) := sign cs
  (digitGroups? 10 r).map fun ds => if negative then - Int.ofNat (ofDigits 10 ds) else Int.ofNat (ofDigits 10 ds)

/-- What stands before and after the exponent mark. -/
def cutExponent? (cs : List Char) : Option (List Char × List Char) := (cut? 'e' cs).or (cut? 'E' cs)

/-- A float: digits with a fraction, an exponent or both, or infinity or no number. A positive one must not be
    too great. -/
def isFloat (cs : List Char) : Bool :=
  let (negative, r) := sign cs
  if r = ['i', 'n', 'f'] || r = ['n', 'a', 'n'] then true
  else
    let parts := match cutExponent? r with
      | some (mantissa, e) => (exponent? e).map fun n => (mantissa, some n)
      | none => some (r, none)
    match parts with
    | none => false
    | some (mantissa, e) => match cut? '.' mantissa, e with
      | none, none => false
      | none, some n => match wholeDigits? mantissa with
        | some ds => negative || !overflows ds n
        | none => false
      | some (whole, fraction), e => match wholeDigits? whole, digitGroups? 10 fraction with
        | some ds, some fs => negative || !overflows (ds ++ fs) (e.getD 0 - fs.length)
        | _, _ => false

/-- A number of exactly `width` digits between two limits. -/
def fixed? (width least greatest : Nat) (cs : List Char) : Option Nat :=
  if cs.length = width && cs.all isAsciiDigit then
    (readDigits? 10 cs).filter fun n => least ≤ n && n ≤ greatest
  else none

def daysInMonth (year month : Nat) : Nat :=
  if month = 2 then if year % 4 = 0 && (year % 100 != 0 || year % 400 = 0) then 29 else 28
  else if month = 4 || month = 6 || month = 9 || month = 11 then 30
  else 31

def isDate (cs : List Char) : Bool :=
  match fields '-' cs with
  | [y, m, d] => match fixed? 4 0 9999 y, fixed? 2 1 12 m with
    | some year, some month => (fixed? 2 1 (daysInMonth year month) d).isSome
    | _, _ => false
  | _ => false

/-- Hours and minutes. -/
def isClock (h m : List Char) : Bool := (fixed? 2 0 23 h).isSome && (fixed? 2 0 59 m).isSome

def isTime (cs : List Char) : Bool :=
  let (clock, fraction) := match cut? '.' cs with
    | some (clock, fraction) => (clock, some fraction)
    | none => (cs, none)
  match fields ':' clock with
  | [h, m, s] => isClock h m && (fixed? 2 0 60 s).isSome
      && fraction.all fun f => !f.isEmpty && f.all isAsciiDigit
  | _ => false

/-- A time with or without an offset from universal time. -/
def isZonedTime (cs : List Char) : Bool :=
  let isOffset (o : List Char) : Bool := match fields ':' o with
    | [h, m] => isClock h m
    | _ => false
  match cs.getLast? with
  | some 'Z' | some 'z' => isTime cs.dropLast
  | _ => match (cut? '+' cs).or (cut? '-' cs) with
    | some (time, offset) => isTime time && isOffset offset
    | none => isTime cs

/-- A date, a time of day, or a date and a time with a letter or a blank between them. -/
def isDateTime (cs : List Char) : Bool :=
  isTime cs || isDate cs
    || match cs.drop 10 with
      | c :: rest => (c = 'T' || c = 't' || c = ' ') && isDate (cs.take 10) && isZonedTime rest
      | [] => false

/-- The value that a bare word stands for. -/
def scalar? (cs : List Char) : Option Item :=
  if cs = ['t', 'r', 'u', 'e'] then some (.boolean true)
  else if cs = ['f', 'a', 'l', 's', 'e'] then some (.boolean false)
  else match integer? cs with
    | some n => some (.integer n)
    | none =>
      if isDateTime cs then some .dateTime
      else if isFloat cs then some .float
      else none

/-- A character that ends a bare word. -/
def endsWord (c : Char) : Bool :=
  c == ' ' || c == '\t' || c == '\n' || c == '\r' || c == '#' || c == ',' || c == ']' || c == '}'

/-- A bare word. A date draws in the time that stands one blank behind it. -/
def readWord (cs : List Char) : List Char × List Char :=
  let word := cs.takeWhile (!endsWord ·)
  match cs.dropWhile (!endsWord ·) with
  | ' ' :: c :: r =>
    if isDate word && isAsciiDigit c then
      (word ++ ' ' :: (c :: r).takeWhile (!endsWord ·), (c :: r).dropWhile (!endsWord ·))
    else (word, ' ' :: c :: r)
  | rest => (word, rest)

def readScalar : Reader Item := fun cs =>
  let (word, rest) := readWord cs
  (scalar? word).map fun item => (item, rest)

end KeyFeed.Toml
