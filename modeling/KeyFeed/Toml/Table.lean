import KeyFeed.Toml.Item

/-! How tables grow. A header opens a table or adds one to a row of tables; a pair goes into the table that was
    opened last, or below it when its key is dotted. Nothing that stands in the document is ever replaced. -/

namespace KeyFeed.Toml

/-- A dotted key: the names in front of the last period and the name behind it. -/
structure Path where
  parents : List String
  last : String
  deriving DecidableEq, Repr

/-- Changes the entry under a name; a name without an entry is added at the end. -/
def updateEntry (name : String) (change : Option Item → Option Item) : Entries → Option Entries
  | [] => (change none).map fun item => [(name, item)]
  | (n, item) :: es =>
    if n = name then (change (some item)).map fun item => (n, item) :: es
    else (updateEntry name change es).map fun es => (n, item) :: es

/-- Changes the last element of a row. -/
def updateLast {α : Type} (change : α → Option α) : List α → Option (List α)
  | [] => none
  | [a] => (change a).map fun a => [a]
  | a :: as => (updateLast change as).map fun as => a :: as

/-- Goes down the names of a header and changes the table found there; tables on the way come about by that. -/
def descend (change : Entries → Option Entries) : List String → Entries → Option Entries
  | [], es => change es
  | n :: ns, es => updateEntry n (fun
    | none => (descend change ns []).map (.table .implied)
    | some (.table origin sub) => (descend change ns sub).map (.table origin)
    | some (.tables elements) => (updateLast (descend change ns) elements).map .tables
    | some _ => none) es

/-- Opens a table by its own header, which can happen once. -/
def openTable (name : String) (es : Entries) : Option Entries :=
  updateEntry name (fun
    | none => some (.table .header [])
    | some (.table .implied sub) => some (.table .header sub)
    | some _ => none) es

/-- Adds one more table under a repeated header. -/
def openElement (name : String) (es : Entries) : Option Entries :=
  updateEntry name (fun
    | none => some (.tables [[]])
    | some (.tables elements) => some (.tables (elements ++ [[]]))
    | some _ => none) es

/-- Adds a value below a table by the names of a dotted key. The names lead through tables that no header of their
    own has opened; the last of them must be `welcoming`: the table that was opened last, or one that came about
    by a dotted key. -/
def insertAt (name : String) (value : Item) (welcoming : Bool) : List String → Entries → Option Entries
  | [], es => updateEntry name (fun
    | none => if welcoming then some value else none
    | some _ => none) es
  | n :: ns, es => updateEntry n (fun
    | none => (insertAt name value true ns []).map (.table .dotted)
    | some (.table .header _) => none
    | some (.table .implied sub) => (insertAt name value false ns sub).map (.table .implied)
    | some (.table .dotted sub) => (insertAt name value true ns sub).map (.table .dotted)
    | some (.tables elements) => (updateLast (insertAt name value false ns) elements).map .tables
    | some _ => none) es

/-- Adds a pair to the table that is open. -/
def insertPair (key : Path) (value : Item) (es : Entries) : Option Entries :=
  insertAt key.last value true key.parents es

/-- A table in braces, from its pairs. -/
def ofPairs (pairs : List (Path × Item)) : Option Entries :=
  pairs.foldlM (fun es (key, value) => insertPair key value es) []

/-- The value under a name. -/
def Entries.get? (es : Entries) (name : String) : Option Item := (es.find? (·.1 == name)).map (·.2)

end KeyFeed.Toml
