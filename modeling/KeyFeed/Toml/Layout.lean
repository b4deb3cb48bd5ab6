import KeyFeed.Toml.Item

/-! What stands between the values of a document: blanks, line ends and comments. -/

namespace KeyFeed.Toml

def isSpace (c : Char) : Bool := c == ' ' || c == '\t'

def skipSpaces (cs : List Char) : List Char := cs.dropWhile isSpace

/-- A character that can stand in a comment or a string: a tab, or anything that is no control character. -/
def isVisible (c : Char) : Bool := c == '\t' || (0x20 ≤ c.toNat && c.toNat != 0x7F)

/-- The text after one line end. -/
def newline? : List Char → Option (List Char)
  | '\n' :: r => some r
  | '\r' :: '\n' :: r => some r
  | _ => none

def skipComment : List Char → List Char
  | '#' :: r => r.dropWhile isVisible
  | cs => cs

/-- The text after the rest of a line that holds at most a comment. -/
def lineEnd? (cs : List Char) : Option (List Char) :=
  match skipComment (skipSpaces cs) with
  | [] => some []
  | r => newline? r

/-- Skips blanks, line ends and whole comments. -/
def skipLayout (inComment : Bool) : List Char → List Char
  | [] => []
  | '\n' :: r => skipLayout false r
  | '\r' :: '\n' :: r => skipLayout false r
  | c :: r =>
    if inComment then if isVisible c then skipLayout true r else c :: r
    else if isSpace c then skipLayout false r
    else if c == '#' then skipLayout true r
    else c :: r

end KeyFeed.Toml
