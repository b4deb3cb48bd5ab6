import KeyFeed.Host.Files
import KeyFeed.Host.Shell.Pattern

/-! From the characters of an expanded word to the fields that a command sees: unquoted values are divided at
    separators, and patterns are replaced by the paths that they match. -/

namespace KeyFeed.Host.Shell
open Text

/-- A part of an expanded word. -/
inductive Atom where
  /-- A character, whether it is guarded, and whether it comes from a value that may be divided. -/
  | char (c : Char) (guarded divides : Bool)
  /-- Here a field ends. -/
  | boundary
  /-- Here is a field, though perhaps an empty one. -/
  | mark
  deriving DecidableEq, Repr

/-- The atoms of a value: quoted it stays as it is, unquoted it may be divided. -/
def atomsOfValue (inQuotes : Bool) (value : List Char) : List Atom :=
  value.map fun c => .char c inQuotes !inQuotes

/-- The characters of atoms that are not divided, and which of them are guarded. -/
def fieldOf (as : List Atom) : Field :=
  as.filterMap fun (a : Atom) => match a with
    | .char c guarded _ => some (c, guarded)
    | .boundary => some (' ', true)
    | .mark => none

/-- The text of atoms that are not divided. -/
def textOf (as : List Atom) : String := fieldText (fieldOf as)

/-! ### Separators -/

/-- A separator that is a blank counts only between fields, however often it stands there. -/
def isBlankSeparator (separators : List Char) (c : Char) : Bool :=
  (c = ' ' || c = '\t' || c = '\n') && separators.contains c

/-- Fields as they are being put together. -/
structure Dividing where
  done : List Field
  current : Option Field
  /-- Whether the last field was ended by a blank, so that another separator can still belong to its end. -/
  blankEnd : Bool

def Dividing.finish (d : Dividing) : List Field := (d.current.toList ++ d.done).reverse.map List.reverse

def Dividing.put (separators : List Char) (d : Dividing) : Atom → Dividing
  | .mark => { d with current := some (d.current.getD []), blankEnd := false }
  | .boundary => ⟨d.current.toList ++ d.done, none, false⟩
  | .char c guarded divides =>
    if !divides || !separators.contains c then
      { d with current := some ((c, guarded) :: d.current.getD []), blankEnd := false }
    else if isBlankSeparator separators c then
      match d.current with
      | some f => ⟨f :: d.done, none, true⟩
      | none => d
    else if d.blankEnd then { d with blankEnd := false }
    else ⟨d.current.getD [] :: d.done, none, false⟩

/-- The fields of atoms, divided at the separators. -/
def fieldsOf (separators : List Char) (as : List Atom) : List Field :=
  (as.foldl (Dividing.put separators) ⟨[], none, false⟩).finish

/-! ### Paths that patterns match -/

/-- The parts of a path between its slashes. -/
def segments : Field → List Field
  | [] => [[]]
  | (c, guarded) :: f =>
    if c = '/' then [] :: segments f
    else match segments f with
      | [] => [[(c, guarded)]]
      | s :: ss => ((c, guarded) :: s) :: ss

/-- The text of a part of a pattern in which nothing has a meaning of its own. -/
def literalText : Field → List Char
  | ('\\', false) :: (c, _) :: f => c :: literalText f
  | (c, _) :: f => c :: literalText f
  | [] => []

/-- The names in a directory that a pattern matches. Names that start with a period are matched only by a pattern that
    does. -/
def matchingNames (fs : Files) (directory : String) (p : Field) : List String :=
  match fs.resolve true (if directory.isEmpty then "." else directory) with
  | .error _ => []
  | .ok t =>
    let hidden := (p.head?.map (·.1)) = some '.'
    let parts := marks p
    (([".", ".."] ++ (fs.within t.place).map (·.1)).filter fun name =>
      (hidden || !name.startsWith ".") && fits parts name.toList)

/-- The paths that begin with what is given and go on as the parts of a pattern say. -/
def pathsAlong (fs : Files) (begun : String) : List Field → List String
  | [] => []
  | [last] =>
    if isPattern last then (matchingNames fs begun last).map (begun ++ ·)
    else
      let path := begun ++ String.ofList (literalText last)
      if (fs.linkStat path).toBool then [path] else []
  | s :: ss =>
    if isPattern s then ((matchingNames fs begun s).map fun name => pathsAlong fs (begun ++ name ++ "/") ss).flatten
    else pathsAlong fs (begun ++ String.ofList (literalText s) ++ "/") ss

/-- A field as the command sees it. A pattern becomes all paths that match it, and stays as it is when none does. -/
def expandField (fs : Files) (f : Field) : List String :=
  if !isPattern f then [fieldText f]
  else match pathsAlong fs "" (segments f) with
    | [] => [fieldText f]
    | paths => paths.mergeSort fun a b => a ≤ b

/-- The value without the line ends at its end. -/
def withoutLineEnds (cs : List Char) : List Char := (cs.reverse.dropWhile (· = '\n')).reverse

end KeyFeed.Host.Shell
