import KeyFeed.Toml.Value

/-! Documents: a row of statements, each on a line of its own, and the tables that they build. -/

namespace KeyFeed.Toml

inductive Statement where
  /-- Opens a table for the pairs that follow. -/
  | header (path : Path)
  /-- Adds a table to a row of tables and opens it. -/
  | elementHeader (path : Path)
  | pair (key : Path) (value : Item)
  deriving Repr

/-- Behind a header, its closing bracket and then only the end of the line. -/
def readHeader (cs : List Char) : Option (Statement × List Char) :=
  match cs with
  | '[' :: cs => match readPath cs with
    | some (path, ']' :: ']' :: r) => (lineEnd? r).map fun r => (.elementHeader path, r)
    | _ => none
  | cs => match readPath cs with
    | some (path, ']' :: r) => (lineEnd? r).map fun r => (.header path, r)
    | _ => none

/-- One line, which need not hold a statement. -/
def readLine (cs : List Char) : Option (Option Statement × List Char) :=
  match lineEnd? cs with
  | some r => some (none, r)
  | none => match skipSpaces cs with
    | '[' :: r => (readHeader r).map fun (statement, r) => (some statement, r)
    | cs => match readPair readValue cs with
      | some ((key, value), r) => (lineEnd? r).map fun r => (some (.pair key value), r)
      | none => none

/-- All statements, from at most `fuel` lines. -/
def readLines : Nat → List Char → Option (List Statement)
  | _, [] => some []
  | 0, _ => none
  | fuel + 1, cs => match readLine cs with
    | none => none
    | some (statement, r) => (readLines fuel r).map (statement.toList ++ ·)

/-- A mark of the byte order at the very beginning says nothing. -/
def skipByteOrderMark : List Char → List Char
  | '\uFEFF' :: r => r
  | cs => cs

/-- A document under construction: all its tables, and the names that lead to the one which is open. -/
structure Draft where
  root : Entries
  current : List String

namespace Draft

def empty : Draft := ⟨[], []⟩

def add (d : Draft) : Statement → Option Draft
  | .header path =>
    (descend (openTable path.last) path.parents d.root).map fun root => ⟨root, path.parents ++ [path.last]⟩
  | .elementHeader path =>
    (descend (openElement path.last) path.parents d.root).map fun root => ⟨root, path.parents ++ [path.last]⟩
  | .pair key value =>
    (descend (insertPair key value) d.current d.root).map fun root => { d with root := root }

end Draft

/-- The tables that the statements build. -/
def build (statements : List Statement) : Option Entries :=
  (statements.foldlM Draft.add Draft.empty).map Draft.root

/-- A whole document. -/
def parse (cs : List Char) : Option Entries :=
  let cs := skipByteOrderMark cs
  (readLines cs.length cs).bind build

end KeyFeed.Toml
