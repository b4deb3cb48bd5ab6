import KeyFeed.Text.Digits
import KeyFeed.Toml.Layout

/-! Reading strings: in double quotes with escapes, in single quotes without, each on one line or over several. -/

namespace KeyFeed.Toml
open Text

/-- Puts a character in front of what was read. -/
def withChar (c : Char) (read : Option (List Char × List Char)) : Option (List Char × List Char) :=
  read.map fun (s, r) => (c :: s, r)

/-- The character that a backslash and this letter stand for. -/
def letterEscape? (c : Char) : Option Char :=
  if c = 'b' then some '\x08'
  else if c = 't' then some '\t'
  else if c = 'n' then some '\n'
  else if c = 'f' then some '\x0c'
  else if c = 'r' then some '\r'
  else if c = '"' then some '"'
  else if c = '\\' then some '\\'
  else none

/-- The character whose code point these digits spell; a surrogate or a number beyond the last one has none. -/
def charOfHex? (ds : List Char) : Option Char :=
  match readDigits? 16 ds with
  | some n => if n.isValidChar then some (Char.ofNat n) else none
  | none => none

/-- The rest of a string in double quotes that ends on its line. -/
def basicBody : Reader (List Char)
  | [] => none
  | '"' :: r => some ([], r)
  | '\\' :: 'u' :: a :: b :: c :: d :: r => match charOfHex? [a, b, c, d] with
    | some x => withChar x (basicBody r)
    | none => none
  | '\\' :: 'U' :: a :: b :: c :: d :: e :: f :: g :: h :: r => match charOfHex? [a, b, c, d, e, f, g, h] with
    | some x => withChar x (basicBody r)
    | none => none
  | '\\' :: c :: r => match letterEscape? c with
    | some x => withChar x (basicBody r)
    | none => none
  | c :: r => if isVisible c then withChar c (basicBody r) else none

/-- The rest of a string in single quotes that ends on its line. -/
def literalBody : Reader (List Char)
  | [] => none
  | '\x27' :: r => some ([], r)
  | c :: r => if isVisible c then withChar c (literalBody r) else none

/-- Whether a backslash has asked for a line break to be passed over, together with the blanks around it. -/
inductive Gap where
  | none
  /-- The line break has yet to come. -/
  | due
  /-- The line break has come. -/
  | passed
  deriving DecidableEq, Repr

/-- The rest of a string between three double quotes. Up to two quotes can stand before the closing three, and a
    line break of either kind counts as a line feed. -/
def multilineBody (gap : Gap) : Reader (List Char)
  | [] => Option.none
  | '\n' :: r => if gap = .none then withChar '\n' (multilineBody .none r) else multilineBody .passed r
  | '\r' :: '\n' :: r => if gap = .none then withChar '\n' (multilineBody .none r) else multilineBody .passed r
  | c :: r =>
    if gap = .due then if isSpace c then multilineBody .due r else Option.none
    else if gap = .passed && isSpace c then multilineBody .passed r
    else if c = '"' then match r with
      | '"' :: '"' :: '"' :: '"' :: r => some (['"', '"'], r)
      | '"' :: '"' :: '"' :: r => some (['"'], r)
      | '"' :: '"' :: r => some ([], r)
      | r => withChar '"' (multilineBody .none r)
    else if c = '\\' then match r with
      | 'u' :: a :: b :: c :: d :: r => match charOfHex? [a, b, c, d] with
        | some x => withChar x (multilineBody .none r)
        | Option.none => Option.none
      | 'U' :: a :: b :: c :: d :: e :: f :: g :: h :: r => match charOfHex? [a, b, c, d, e, f, g, h] with
        | some x => withChar x (multilineBody .none r)
        | Option.none => Option.none
      | '\n' :: r => multilineBody .passed r
      | '\r' :: '\n' :: r => multilineBody .passed r
      | c :: r =>
        if isSpace c then multilineBody .due r
        else match letterEscape? c with
          | some x => withChar x (multilineBody .none r)
          | Option.none => Option.none
      | [] => Option.none
    else if isVisible c then withChar c (multilineBody .none r)
    else Option.none

/-- The rest of a string between three single quotes; quotes and line breaks are as between double quotes. -/
def multilineLiteralBody : Reader (List Char)
  | [] => none
  | '\x27' :: '\x27' :: '\x27' :: '\x27' :: '\x27' :: r => some (['\x27', '\x27'], r)
  | '\x27' :: '\x27' :: '\x27' :: '\x27' :: r => some (['\x27'], r)
  | '\x27' :: '\x27' :: '\x27' :: r => some ([], r)
  | '\n' :: r => withChar '\n' (multilineLiteralBody r)
  | '\r' :: '\n' :: r => withChar '\n' (multilineLiteralBody r)
  | c :: r => if isVisible c then withChar c (multilineLiteralBody r) else none

/-- A line break right after three opening quotes is not part of the string. -/
def skipFirstNewline (cs : List Char) : List Char := (newline? cs).getD cs

/-- A string of any of the four forms, from its opening quote on. -/
def readString : Reader (List Char)
  | '"' :: '"' :: '"' :: r => multilineBody .none (skipFirstNewline r)
  | '"' :: r => basicBody r
  | '\x27' :: '\x27' :: '\x27' :: r => multilineLiteralBody (skipFirstNewline r)
  | '\x27' :: r => literalBody r
  | _ => none

end KeyFeed.Toml
