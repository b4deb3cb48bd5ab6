/-! The values of a TOML document. A table remembers how it came about, because that decides what may still be
    added to it. -/

namespace KeyFeed.Toml

/-- How a table came about: by its own header, by the header of a table below it, or by a dotted key. -/
inductive Origin where
  | header | implied | dotted
  deriving DecidableEq, Repr

inductive Item where
  | text (s : String)
  | boolean (b : Bool)
  | integer (n : Int)
  | float
  | dateTime
  | array (items : List Item)
  /-- A table in braces, to which nothing can be added. -/
  | inlineTable (entries : List (String × Item))
  | table (origin : Origin) (entries : List (String × Item))
  /-- The tables under one repeated header; what follows adds to the last. -/
  | tables (elements : List (List (String × Item)))
  deriving Repr

abbrev Entries := List (String × Item)

/-- A reader takes something from the front of a text and gives it with the rest. -/
abbrev Reader (α : Type) := List Char → Option (α × List Char)

end KeyFeed.Toml
