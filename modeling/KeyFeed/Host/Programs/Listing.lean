import KeyFeed.Host.Programs.Mode
import KeyFeed.Host.Programs.Printing
import KeyFeed.Host.Programs.Making

/-! Programs that show which files there are and what is known about them, and programs that take paths apart. -/

namespace KeyFeed.Host.Programs
open Text

/-! ### What is known about a file -/

/-- How many bytes something holds. -/
def sizeOf (e : Entry) : Nat :=
  match e.content with
  | .file bytes => bytes.length
  | .link target => target.length
  | .directory => 4096
  | .program _ => 30000
  | _ => 0

def kindLetter (e : Entry) : Char :=
  match e.content with
  | .directory => 'd'
  | .link _ => 'l'
  | .socket _ => 's'
  | .void | .zeros _ | .terminal | .stream _ => 'c'
  | _ => '-'

def kindName (e : Entry) : String :=
  match e.content with
  | .directory => "directory"
  | .link _ => "symbolic link"
  | .socket _ => "socket"
  | .void | .zeros _ | .terminal | .stream _ => "character special file"
  | .file [] => "regular empty file"
  | _ => "regular file"

/-- How many names lead to something. -/
def linkCount (fs : Files) (e : Entry) : Nat :=
  if e.isDirectory then
    match fs.entries.find? (·.2.node == e.node) with
    | some (place, _) => 2 + ((fs.within place).filter (·.2.isDirectory)).length
    | none => 2
  else (fs.entries.filter (·.2.node == e.node)).length

/-- The number of blocks that something takes. -/
def blocksOf (e : Entry) : Nat :=
  match e.content with
  | .link _ => 0
  | _ => 8 * ((sizeOf e + 4095) / 4096)

def modeLine (e : Entry) : String := String.singleton (kindLetter e) ++ modeText e.mode

/-! ### Names in directories -/

def lsTable : OptionTable :=
  .of "aAbBcCdfFgGhHiI:klLmnNopqQrRsStT:uUvw:xXZ1" [("all", 'a'), ("almost-all", 'A'), ("directory", 'd'), ("recursive", 'R'),
    ("reverse", 'r'), ("classify", 'F'), ("size", 's'), ("inode", 'i'), ("quote-name", 'Q'), ("dereference", 'L'),
    ("human-readable", 'h'), ("color", 'G'), ("ignore-backups", 'B')]

/-- One name, with what is shown beside it. -/
def nameLine (g : Given) (fs : Files) (name : String) (e : Entry) : String :=
  let long := g.has 'l' || g.has 'n' || g.has 'g' || g.has 'o'
  let label := if g.has 'Q' then "\"" ++ name ++ "\"" else name
  let mark := match e.content with
    | .directory => if g.has 'F' || g.has 'p' then "/" else ""
    | .link _ => if g.has 'F' && !long then "@" else ""
    | .socket _ => if g.has 'F' then "=" else ""
    | .program _ => if g.has 'F' then "*" else ""
    | .file _ => if g.has 'F' && e.isExecutable then "*" else ""
    | _ => ""
  let leads := match e.content with
    | .link target => if long then " -> " ++ target else ""
    | _ => ""
  let owner := if g.has 'n' then ("0", "0") else ("root", "root")
  (if g.has 'i' then decimal (100000 + e.node) ++ " " else "")
    ++ (if g.has 's' then decimal (blocksOf e / 2) ++ " " else "")
    ++ (if long then modeLine e ++ " " ++ decimal (linkCount fs e) ++ (if g.has 'g' then "" else " " ++ owner.1)
      ++ (if g.has 'o' || g.has 'G' then "" else " " ++ owner.2) ++ " " ++ decimal (sizeOf e) ++ " Jan  1 00:00 " else "")
    ++ label ++ mark ++ leads

/-- Names in the order in which they are shown. -/
def orderedNames (g : Given) (names : List (String × Entry)) : List (String × Entry) :=
  let extension (name : String) : String := String.ofList ((name.toList.reverse.takeWhile (· != '.')).reverse)
  let byName := names.mergeSort fun a b => a.1 ≤ b.1
  let ordered :=
    if g.has 'U' || g.has 'f' then names
    else if g.has 'S' then byName.mergeSort fun a b => sizeOf b.2 ≤ sizeOf a.2
    else if g.has 't' then byName.mergeSort fun a b => b.2.node ≤ a.2.node
    else if g.has 'X' then byName.mergeSort fun a b =>
      (if a.1.toList.contains '.' then extension a.1 else "") ≤ (if b.1.toList.contains '.' then extension b.1 else "")
    else byName
  if g.has 'r' then ordered.reverse else ordered

/-- Names as they stand together. -/
def nameLines (g : Given) (fs : Files) (names : List (String × Entry)) : String :=
  let lines := (orderedNames g names).map fun (name, e) => nameLine g fs name e
  if g.has 'm' && !lines.isEmpty then String.intercalate ", " lines ++ "\n"
  else if (g.has 'x' || g.has 'C') && !lines.isEmpty then String.intercalate "  " lines ++ "\n"
  else String.join (lines.map (· ++ "\n"))

/-- What a directory holds, as far as it is shown. -/
def namesIn (g : Given) (fs : Files) (place : Place) : List (String × Entry) :=
  let names := fs.within place
  let dots := [(".", (fs.entry? place).getD .root), ("..", (fs.entry? place.dropLast).getD .root)]
  let visible := if g.has 'a' || g.has 'f' then dots ++ names
    else if g.has 'A' then names
    else names.filter fun (name, _) => !name.startsWith "."
  if g.has 'B' then visible.filter fun (name, _) => !name.endsWith "~" else visible

/-- The parts of a listing: a directory, and those below it where they are asked for; at most `fuel` levels. -/
def directoryParts (g : Given) (fs : Files) : Nat → String → List (String × String)
  | 0, _ => []
  | fuel + 1, path => match fs.resolve true path with
    | .error _ => []
    | .ok t =>
      let names := namesIn g fs t.place
      let long := g.has 'l' || g.has 'n' || g.has 'g' || g.has 'o'
      let total := (names.map fun (_, e) => blocksOf e / 2).foldl (· + ·) 0
      let begun := if long || g.has 's' then "total " ++ decimal total ++ "\n" else ""
      let deeper := if g.has 'R' then
          ((orderedNames g names).map fun (name, e) =>
            if e.isDirectory && name != "." && name != ".." then
              directoryParts g fs fuel ((if endsInSlash path then path else path ++ "/") ++ name)
            else []).flatten
        else []
      (path, begun ++ nameLines g fs names) :: deeper

def ls (c : Call) : Report :=
  let args := c.args.map fun arg => if arg.startsWith "--color=" then "--color" else arg
  (c.withArgs args).withOptions lsTable 2 fun given operands =>
    let paths := if operands.isEmpty then ["."] else operands
    let looked := paths.map fun path =>
      let long := given.has 'l' || given.has 'd' || given.has 'F'
      let through := c.files.stat path
      let here := if long && !given.has 'L' && !given.has 'H' && !(endsInSlash path) then c.files.linkStat path
        else match through with
          | .ok e => .ok e
          | .error _ => c.files.linkStat path
      (path, here)
    let failed := looked.foldl (fun (r : Report) (path, e) => match e with
      | .ok _ => r
      | .error e => (r.complain c.name ("cannot access " ++ quoted path ++ ": " ++ reason e)).setStatus 2) (.quiet 0 c)
    let found := looked.filterMap fun (path, e) => e.toOption.map fun e => (path, e)
    let isListed (e : Entry) : Bool := e.isDirectory && !given.has 'd'
    let files := found.filter fun (_, e) => !isListed e
    let directories := orderedNames given (found.filter fun (_, e) => isListed e)
    let first := if files.isEmpty then "" else nameLines given c.files files
    let parts := (directories.map fun (path, _) => directoryParts given c.files 100 path).flatten
    let titled := 1 < paths.length || given.has 'R'
    let blocks := parts.map fun (path, text) => (if titled then path ++ ":\n" else "") ++ text
    failed.say (String.intercalate "\n" ((if first.isEmpty then [] else [first]) ++ blocks)).toList

/-! ### One file -/

/-- What stands for a letter in a format. -/
def statField (fs : Files) (path : String) (e : Entry) (c : Char) : Option String :=
  match c with
  | 'n' => some path
  | 'N' => some (quoted path ++ match e.content with
    | .link target => " -> " ++ quoted target
    | _ => "")
  | 's' => some (decimal (sizeOf e))
  | 'F' => some (kindName e)
  | 'a' => some (octal e.mode)
  | 'A' => some (modeLine e)
  | 'h' => some (decimal (linkCount fs e))
  | 'u' | 'g' => some "0"
  | 'U' | 'G' => some "root"
  | 'i' => some (decimal (100000 + e.node))
  | 'b' => some (decimal (blocksOf e))
  | 'B' => some "512"
  | 'o' => some "4096"
  | 'f' => some (hex (e.mode + match e.content with
    | .directory => 0x4000
    | .link _ => 0xa000
    | .socket _ => 0xc000
    | .void | .zeros _ | .terminal | .stream _ => 0x2000
    | _ => 0x8000))
  | 'x' | 'y' | 'z' => some "1970-01-01 00:00:00.000000000 +0000"
  | 'X' | 'Y' | 'Z' | 'W' => some "0"
  | 'w' | 'm' | 'C' => some "-"
  | 'd' | 't' | 'T' | 'D' => some "0"
  | _ => none

/-- A format with what is known about a file put in; at most `fuel` characters. -/
def statFormat (fs : Files) (path : String) (e : Entry) (escapes : Bool) : Nat → List Char → List Char
  | 0, _ | _, [] => []
  | fuel + 1, '%' :: '%' :: r => '%' :: statFormat fs path e escapes fuel r
  | fuel + 1, '%' :: cs =>
    let flags := cs.takeWhile ['-', '0', '+', ' ', '#'].contains
    let digits := (cs.drop flags.length).takeWhile isAsciiDigit
    match (cs.drop flags.length).drop digits.length with
    | [] => '%' :: cs
    | c :: r =>
      let l : Layout := ⟨flags, (readDigits? 10 digits).getD 0, none⟩
      let text := ((statField fs path e c).getD "?").toList
      l.fill (text.all isAsciiDigit) [] text ++ statFormat fs path e escapes fuel r
  | fuel + 1, '\\' :: r =>
    if escapes then
      let (piece, rest) := escapeIn r
      piece ++ statFormat fs path e escapes fuel rest
    else '\\' :: statFormat fs path e escapes fuel r
  | fuel + 1, c :: r => c :: statFormat fs path e escapes fuel r

def stat (c : Call) : Report :=
  c.withOptions (.of "c:fLtP:" [("format", 'c'), ("printf", 'P'), ("dereference", 'L'), ("terse", 't'),
      ("file-system", 'f')]) 1 fun given operands =>
    if operands.isEmpty then c.missing "operand"
    else operands.foldl (fun (r : Report) path =>
      match if given.has 'L' then r.files.stat path else r.files.linkStat path with
      | .error e => r.complain c.name ("cannot statx " ++ quoted path ++ ": " ++ reason e)
      | .ok e => match given.value? 'P', given.value? 'c' with
        | some f, _ => r.say (statFormat r.files path e true (f.length + 1) f.toList)
        | none, some f => r.say (statFormat r.files path e false (f.length + 1) f.toList ++ ['\n'])
        | none, none =>
          let f := "  File: %n\n  Size: %-10s\tBlocks: %-10b IO Block: %-6o %F\nAccess: (%04a/%A)  Uid: (%5u/%8U)   "
            ++ "Gid: (%5g/%8G)\n"
          r.say (statFormat r.files path e false (f.length + 1) f.toList)) (.quiet 0 c)

/-! ### Paths -/

def placePath (place : Place) : String := "/" ++ String.intercalate "/" place

/-- The place to which names lead when those that are missing are taken as directories that could be there; at most
    `fuel` links. -/
def imagined (fs : Files) : Nat → Place → List String → Place
  | _, place, [] => place
  | 0, place, names => place ++ names
  | fuel + 1, place, name :: names =>
    if name = "." then imagined fs fuel place names
    else if name = ".." then imagined fs fuel place.dropLast names
    else match fs.entry? (place ++ [name]) with
      | some ⟨.link target, _, _⟩ =>
        imagined fs fuel (if isAbsolute target then [] else place) (pathNames target ++ names)
      | _ => imagined fs fuel (place ++ [name]) names

/-- The path from the root, without links, to what a path means. Everything must be there, or all but the last name, or
    nothing. -/
def straight (fs : Files) (everything nothing : Bool) (path : String) : Except OsError String :=
  if path.isEmpty then .error .noEntry
  else if nothing then
    .ok (placePath (imagined fs (1000 + path.length) (if isAbsolute path then [] else fs.workplace) (pathNames path)))
  else match fs.resolve true path with
    | .error e => .error e
    | .ok t => match fs.entry? t.place with
      | none => if everything then .error .noEntry else .ok (placePath t.place)
      | some e => if t.slashed && !e.isDirectory then .error .notADirectory else .ok (placePath t.place)

def readlink (c : Call) : Report :=
  c.withOptions (.of "femnqsvz" [("canonicalize", 'f'), ("canonicalize-existing", 'e'), ("canonicalize-missing", 'm'),
      ("no-newline", 'n'), ("zero", 'z')]) 1 fun given operands =>
    let ended := if given.has 'n' && operands.length = 1 then "" else if given.has 'z' then "\x00" else "\n"
    if operands.isEmpty then c.missing "operand"
    else operands.foldl (fun (r : Report) path =>
      let answer : Except OsError String :=
        if given.has 'f' || given.has 'e' || given.has 'm' then straight c.files (given.has 'e') (given.has 'm') path
        else match c.files.linkStat path with
          | .ok ⟨.link target, _, _⟩ => .ok target
          | .ok _ => .error .invalidArgument
          | .error e => .error e
      match answer with
      | .ok text => r.say (text ++ ended).toList
      | .error e => if given.has 'v' then r.complain c.name (plainComplaint path e) else r.setStatus 1) (.quiet 0 c)

/-- A path to a place from another one. -/
def relativePath (start target : List String) : String :=
  let common := ((start.zip target).takeWhile fun (a, b) => a = b).length
  let names := List.replicate (start.length - common) ".." ++ target.drop common
  if names.isEmpty then "." else String.intercalate "/" names

def realpath (c : Call) : Report :=
  c.withOptions (.of "eLmPqszr:b:" [("canonicalize-existing", 'e'), ("canonicalize-missing", 'm'), ("strip", 's'),
      ("no-symlinks", 's'), ("relative-to", 'r'), ("relative-base", 'b'), ("quiet", 'q'), ("zero", 'z')]) 1
      fun given operands =>
    if operands.isEmpty then c.missing "operand"
    else operands.foldl (fun (r : Report) path =>
      let plain : Except OsError String :=
        if path.isEmpty then .error .noEntry
        else
          let names := (if isAbsolute path then [] else c.files.workplace) ++ pathNames path
          .ok (placePath (names.foldl (fun (done : List String) name =>
            if name = "." then done else if name = ".." then done.dropLast else done ++ [name]) []))
      let answer := if given.has 's' then plain else straight c.files (given.has 'e') (given.has 'm') path
      let shownFrom (text : String) : String := match (given.value? 'r').map (straight c.files false true) with
        | some (.ok start) => relativePath (pathNames start) (pathNames text)
        | _ => text
      match answer with
      | .ok text => r.say (shownFrom text ++ if given.has 'z' then "\x00" else "\n").toList
      | .error e => if given.has 'q' then r.setStatus 1 else r.complain c.name (plainComplaint path e)) (.quiet 0 c)

def withoutEnding (ending name : String) : String :=
  if name != ending && name.endsWith ending then String.ofList (name.toList.take (name.length - ending.length)) else name

def basename (c : Call) : Report :=
  c.withOptions { OptionTable.of "as:z" [("multiple", 'a'), ("suffix", 's'), ("zero", 'z')] with inOrder := true } 1
      fun given operands =>
    let ended := if given.has 'z' then "\x00" else "\n"
    let show_ (paths : List String) (ending : String) : Report :=
      .saying (String.join (paths.map fun path => withoutEnding ending (baseName path) ++ ended)) c
    match operands, given.has 'a' || given.has 's' with
    | [], _ => c.missing "operand"
    | paths, true => show_ paths ((given.value? 's').getD "")
    | [path], false => show_ [path] ""
    | [path, ending], false => show_ [path] ending
    | _ :: _ :: extra :: _, false => c.misused 1 ("extra operand " ++ quoted extra)

/-- The path without its last name. -/
def directoryName (path : String) : String :=
  let slashless (cs : List Char) : List Char := (cs.reverse.dropWhile (· = '/')).reverse
  let kept := slashless path.toList
  let before := slashless ((kept.reverse.dropWhile (· != '/')).reverse)
  if kept.isEmpty then (if path.isEmpty then "." else "/")
  else if !kept.contains '/' then "."
  else if before.isEmpty then "/"
  else String.ofList before

def dirname (c : Call) : Report :=
  c.withOptions { OptionTable.of "z" [("zero", 'z')] with inOrder := true } 1 fun given operands =>
    if operands.isEmpty then c.missing "operand"
    else .saying (String.join (operands.map fun path => directoryName path ++ if given.has 'z' then "\x00" else "\n")) c

def pwd (c : Call) : Report :=
  c.withOptions (.of "LP" [("logical", 'L'), ("physical", 'P')]) 1 fun given _ =>
    let physical := placePath c.files.workplace
    let logical := ((c.environment.find? (·.1 == "PWD")).map (·.2)).getD physical
    .saying ((if given.has 'L' then logical else physical) ++ "\n") c

end KeyFeed.Host.Programs
