import KeyFeed.Text.Digits
import KeyFeed.Toml.Layout

/-! Writing strings. The first form is taken in which the string stands as it is: double quotes, single quotes,
    three double quotes, three single quotes; where none does, double quotes with escapes, over several lines
    when the string has several. -/

namespace KeyFeed.Toml
open Text

/-- A control character that cannot stand in any string unescaped. -/
def needsEscape (c : Char) : Bool := !isVisible c && c != '\n'

/-- The longest run of a character, where `current` is the run that the text continues. -/
def longestRun (x : Char) (current : Nat) : List Char → Nat
  | [] => current
  | c :: cs => if c = x then longestRun x (current + 1) cs else max current (longestRun x 0 cs)

/-- A control character by its code point, in capital digits. -/
def controlEscape (c : Char) : List Char :=
  ['\\', 'u'] ++ (padded 4 (hexDigits c.toNat)).map Char.toUpper

/-- A character between double quotes, where neither a quote nor a line feed needs thought. -/
def escapedChar (c : Char) : List Char :=
  if c = '\x08' then ['\\', 'b']
  else if c = '\t' then ['\\', 't']
  else if c = '\x0c' then ['\\', 'f']
  else if c = '\r' then ['\\', 'r']
  else if c = '\\' then ['\\', '\\']
  else if c != '\n' && needsEscape c then controlEscape c
  else [c]

/-- A string between double quotes on one line. -/
def writeBasic (cs : List Char) : List Char :=
  let body := cs.flatMap fun c =>
    if c = '"' then ['\\', '"'] else if c = '\n' then ['\\', 'n'] else escapedChar c
  '"' :: body ++ ['"']

/-- What stands between three double quotes: of each run of quotes the third is escaped, after which the count
    begins again. -/
def multilineChars (run : Nat) : List Char → List Char
  | [] => []
  | c :: cs =>
    if c = '"' then
      if run = 2 then '\\' :: '"' :: multilineChars 0 cs else '"' :: multilineChars (run + 1) cs
    else escapedChar c ++ multilineChars 0 cs

/-- Strings over several lines start on a line of their own. -/
def firstBreak (cs : List Char) : List Char := if cs.contains '\n' then ['\n'] else []

def writeMultiline (cs : List Char) : List Char :=
  ['"', '"', '"'] ++ firstBreak cs ++ multilineChars 0 cs ++ ['"', '"', '"']

def writeLiteral (cs : List Char) : List Char := '\x27' :: cs ++ ['\x27']

def writeMultilineLiteral (cs : List Char) : List Char :=
  ['\x27', '\x27', '\x27'] ++ firstBreak cs ++ cs ++ ['\x27', '\x27', '\x27']

/-- A string in the first form that suits it. -/
def writeString (cs : List Char) : List Char :=
  let plain := !cs.any needsEscape
  let lines := cs.contains '\n'
  let backslash := cs.contains '\\'
  let double := longestRun '"' 0 cs
  let single := longestRun '\x27' 0 cs
  if plain && !backslash && double = 0 && !lines then writeBasic cs
  else if plain && single = 0 && !lines then writeLiteral cs
  else if plain && !backslash && double ≤ 2 then writeMultiline cs
  else if plain && single ≤ 2 then writeMultilineLiteral cs
  else if lines then writeMultiline cs
  else writeBasic cs

end KeyFeed.Toml
