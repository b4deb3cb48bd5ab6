import KeyFeed.Toml.Scalar
import KeyFeed.Toml.StringReader
import KeyFeed.Toml.Table

/-! Reading keys and values. Arrays and tables in braces can stand in each other up to a fixed depth; an array can
    go over several lines and have a comma at its end, a table in braces can do neither. -/

namespace KeyFeed.Toml
open Text

/-! ### Keys -/

/-- A character of a key without quotes. -/
def isBare (c : Char) : Bool := isAsciiAlpha c || isAsciiDigit c || c == '-' || c == '_'

/-- One name, in quotes of either kind or without. -/
def readName : Reader String
  | '"' :: r => (basicBody r).map fun (s, r) => (String.ofList s, r)
  | '\x27' :: r => (literalBody r).map fun (s, r) => (String.ofList s, r)
  | cs =>
    let name := cs.takeWhile isBare
    if name.isEmpty then none else some (String.ofList name, cs.dropWhile isBare)

/-- The greatest number of names in a dotted key, and of values in each other. -/
def maxDepth : Nat := 79

/-- At most `room` names with periods between them, and the blanks around each. -/
def readPathWithin : Nat → Reader Path
  | 0, _ => none
  | room + 1, cs => match readName (skipSpaces cs) with
    | none => none
    | some (name, r) => match skipSpaces r with
      | '.' :: r => (readPathWithin room r).map fun (path, r) => (⟨name :: path.parents, path.last⟩, r)
      | r => some (⟨[], name⟩, r)

def readPath : Reader Path := readPathWithin maxDepth

/-- A key, an equals sign and a value. -/
def readPair (value : Reader Item) : Reader (Path × Item) := fun cs =>
  match readPath cs with
  | some (key, '=' :: r) => (value (skipSpaces r)).map fun (item, r) => ((key, item), r)
  | _ => none

/-! ### Values -/

/-- The elements of an array up to its closing bracket, at most `fuel` of them. -/
def readElements (value : Reader Item) : Nat → Reader (List Item)
  | 0, _ => none
  | fuel + 1, cs => match skipLayout false cs with
    | ']' :: r => some ([], r)
    | cs => match value cs with
      | none => none
      | some (item, r) => match skipLayout false r with
        | ']' :: r => some ([item], r)
        | ',' :: r => (readElements value fuel r).map fun (items, r) => (item :: items, r)
        | _ => none

/-- The pairs of a table in braces from the first one on, at most `fuel` of them. -/
def readPairs (value : Reader Item) : Nat → Reader (List (Path × Item))
  | 0, _ => none
  | fuel + 1, cs => match readPair value cs with
    | none => none
    | some (pair, r) => match skipSpaces r with
      | '}' :: r => some ([pair], r)
      | ',' :: r => (readPairs value fuel r).map fun (pairs, r) => (pair :: pairs, r)
      | _ => none

/-- A table in braces behind its opening brace. -/
def readBraces (value : Reader Item) : Reader Item := fun cs =>
  match skipSpaces cs with
  | '}' :: r => some (.inlineTable [], r)
  | cs => match readPairs value cs.length cs with
    | none => none
    | some (pairs, r) => (ofPairs pairs).map fun es => (.inlineTable es, r)

/-- A value with at most `depth` further values in each other. -/
def readValueWithin : Nat → Reader Item
  | _, '"' :: r => (readString ('"' :: r)).map fun (s, r) => (.text (String.ofList s), r)
  | _, '\x27' :: r => (readString ('\x27' :: r)).map fun (s, r) => (.text (String.ofList s), r)
  | 0, '[' :: _ => none
  | depth + 1, '[' :: r =>
    (readElements (readValueWithin depth) r.length r).map fun (items, r) => (.array items, r)
  | 0, '{' :: _ => none
  | depth + 1, '{' :: r => readBraces (readValueWithin depth) r
  | _, cs => readScalar cs

def readValue : Reader Item := readValueWithin maxDepth

end KeyFeed.Toml
