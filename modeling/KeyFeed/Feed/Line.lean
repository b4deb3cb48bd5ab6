import KeyFeed.Text.Digits
import KeyFeed.Text.Fields
import KeyFeed.Text.Quoted

/-! One line of the feed: the code in hexadecimal, the repeat flag, the key name and the name of the source, with
    single spaces between them and a line feed at the end. Readers split on spaces, so a line can be read back
    exactly when neither name contains one. -/

namespace KeyFeed.Feed
open Text

structure Line where
  code : UInt32
  repeating : Bool
  name : String
  source : String
  deriving DecidableEq, Repr

/-- Why a text is no line of the feed. -/
inductive LineError where
  | missingNewline
  | fieldCount (found : Nat)
  | invalidCode (text : String)
  | invalidRepeat (text : String)
  deriving DecidableEq, Repr

def LineError.message : LineError → String
  | .missingNewline => "line is not terminated by a newline"
  | .fieldCount n => "expected 4 space-separated fields, found " ++ decimal n
  | .invalidCode t => "invalid hexadecimal code " ++ quoted t
  | .invalidRepeat t => "invalid repeat flag " ++ quoted t

namespace Line

def repeatFlag (b : Bool) : Char := if b then '1' else '0'

def chars (l : Line) : List Char :=
  hexDigits l.code.toNat ++ ' ' :: repeatFlag l.repeating :: ' ' :: l.name.toList ++ ' ' :: l.source.toList ++ ['\n']

def text (l : Line) : String := String.ofList l.chars

/-- The text of a line straight from its four parts. -/
def format (code : UInt32) (repeating : Bool) (name source : String) : String :=
  hex code.toNat ++ " " ++ decimal repeating.toNat ++ " " ++ name ++ " " ++ source ++ "\n"

def readCode (cs : List Char) : Except LineError UInt32 :=
  match readUnsigned? 16 0xFFFFFFFF cs with
  | some n => .ok (UInt32.ofNat n)
  | none => .error (.invalidCode (String.ofList cs))

def readRepeat : List Char → Except LineError Bool
  | ['0'] => .ok false
  | ['1'] => .ok true
  | cs => .error (.invalidRepeat (String.ofList cs))

/-- A line from its four fields; the code is looked at before the repeat flag. -/
def ofFields (code repeating name source : List Char) : Except LineError Line :=
  match readCode code with
  | .error e => .error e
  | .ok c => match readRepeat repeating with
    | .error e => .error e
    | .ok r => .ok ⟨c, r, String.ofList name, String.ofList source⟩

def parseChars (cs : List Char) : Except LineError Line :=
  match dropLast? '\n' cs with
  | none => .error .missingNewline
  | some body => match fields ' ' body with
    | [code, repeating, name, source] => ofFields code repeating name source
    | ws => .error (.fieldCount ws.length)

/-- Reads one complete line, its line feed included. -/
def parse (s : String) : Except LineError Line := parseChars s.toList

end Line

end KeyFeed.Feed
