import KeyFeed.Text.Fields

/-! Paths as they are written: names with slashes between them. A path that starts with a slash starts at the root,
    any other one in the directory where the program works. -/

namespace KeyFeed.Host
open Text

/-- The names on a path; slashes in a row count as one. -/
def pathNames (path : String) : List String :=
  ((fields '/' path.toList).filter (!·.isEmpty)).map String.ofList

def isAbsolute (path : String) : Bool := path.toList.head? = some '/'

/-- A path with a slash at its end can only mean a directory. -/
def endsInSlash (path : String) : Bool := path.toList.getLast? = some '/'

/-- Names that lead nowhere are left out, except at the beginning of a relative path. -/
def significantNames (path : String) : List String :=
  match pathNames path with
  | "." :: names => if isAbsolute path then names.filter (· != ".") else "." :: names.filter (· != ".")
  | names => names.filter (· != ".")

/-- The path without its last name, where it has one. -/
def parentPath? (path : String) : Option String :=
  let names := significantNames path
  if names.isEmpty then none
  else some ((if isAbsolute path then "/" else "") ++ String.intercalate "/" names.dropLast)

def holdsNul (s : String) : Bool := s.toList.contains '\x00'

end KeyFeed.Host
