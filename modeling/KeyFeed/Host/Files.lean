import KeyFeed.Host.OsError
import KeyFeed.Host.Path
import KeyFeed.Text.Utf8

/-! The tree of files. A place is the row of names that leads to it from the root; what is there is kept in one list,
    and every place but the root lies in a directory that is in the list too. Places can share what they show, and a
    thing that no place shows any more lives on for those who still have it open. Operations take paths and refuse as
    the system does: what is wrong nearest to the start of the path is found first. -/

namespace KeyFeed.Host
open Text

abbrev Place := List String

/-- What can be at a place. -/
inductive Content where
  | file (bytes : List UInt8)
  | directory
  /-- Leads on to another path, which is seen from the directory around it. -/
  | link (target : String)
  /-- The address of an endpoint that listens there, or once did. -/
  | socket (endpoint : Nat)
  /-- A device that takes everything and gives nothing. -/
  | void
  /-- A device that gives zeros without an end, and takes everything or nothing. -/
  | zeros (full : Bool)
  /-- A device that nobody can open. -/
  | terminal
  /-- Whatever the one who opens it has under this descriptor. -/
  | stream (descriptor : Nat)
  | program (name : String)
  deriving DecidableEq, Repr

/-- Something at a place, with its permission bits and the number by which it is known. -/
structure Entry where
  content : Content
  mode : Nat
  node : Nat
  deriving DecidableEq, Repr

namespace Entry

/-- The directory that everything lies in. -/
def root : Entry := ⟨.directory, 0o755, 0⟩

def isDirectory (e : Entry) : Bool := e.content == .directory

/-- Whether anyone may run it. -/
def isExecutable (e : Entry) : Bool := e.mode &&& 0o111 != 0

end Entry

structure Files where
  entries : List (Place × Entry)
  /-- What no place shows any more. -/
  lost : List Entry
  /-- The number that the next new thing gets. -/
  next : Nat
  workplace : Place
  /-- The permission bits that new things do not get. -/
  mask : Nat
  deriving DecidableEq, Repr

namespace Files

/-! ### Places -/

def entry? (fs : Files) (place : Place) : Option Entry :=
  if place.isEmpty then some .root else (fs.entries.find? (·.1 == place)).map (·.2)

/-- The thing with this number, wherever it is. -/
def node? (fs : Files) (node : Nat) : Option Entry :=
  match fs.entries.find? (·.2.node == node) with
  | some (_, e) => some e
  | none => fs.lost.find? (·.node == node)

/-- Shows a thing at a place. -/
def put (place : Place) (e : Entry) (fs : Files) : Files :=
  { fs with entries := fs.entries.filter (·.1 != place) ++ [(place, e)] }

/-- A new thing, not shown at any place yet. -/
def fresh (content : Content) (mode : Nat) (fs : Files) : Entry := ⟨content, mode - (mode &&& fs.mask), fs.next⟩

/-- Shows a new thing at a place. -/
def add (place : Place) (content : Content) (mode : Nat) (fs : Files) : Files :=
  { fs.put place (fs.fresh content mode) with next := fs.next + 1 }

/-- Changes a thing at all places that show it. -/
def change (node : Nat) (f : Entry → Entry) (fs : Files) : Files :=
  let changed (e : Entry) : Entry := if e.node = node then f e else e
  { fs with entries := fs.entries.map fun (p, e) => (p, changed e), lost := fs.lost.map changed }

/-- A place that shows nothing any more. -/
def remove (place : Place) (fs : Files) : Files :=
  { fs with
    entries := fs.entries.filter (·.1 != place)
    lost := (fs.entry? place).toList ++ fs.lost }

/-- What lies directly in a place. -/
def within (place : Place) (fs : Files) : List (String × Entry) :=
  fs.entries.filterMap fun (p, e) => match p.getLast? with
    | some name => if p.dropLast == place then some (name, e) else none
    | none => none

/-- The greatest length of a name, in bytes. -/
def maxName : Nat := 255

/-- The length from which on a path is refused, in bytes. -/
def pathLimit : Nat := 4096

/-- How many links a path may lead through. -/
def maxLinks : Nat := 40

/-- One name further down, or up, from a directory. -/
def childPlace (dir : Place) (name : String) : Except OsError Place :=
  if name = "." then .ok dir
  else if name = ".." then .ok dir.dropLast
  else if maxName < name.utf8ByteSize then .error .nameTooLong
  else .ok (dir ++ [name])

/-- The place to which names lead from a directory, through at most so many links. All but the last of them must be
    directories, or lead to one; whether a link is gone through at the very end, is told. -/
def walk (fs : Files) (follow : Bool) (links : Nat) (dir : Place) : List String → Except OsError Place
  | [] => .ok dir
  | name :: names => match childPlace dir name with
    | .error e => .error e
    | .ok place => match fs.entry? place with
      | none => if names.isEmpty then .ok place else .error .noEntry
      | some e => match e.content with
        | .link target =>
          if names.isEmpty && !follow then .ok place
          else match links with
            | 0 => .error .tooManyLinks
            | links + 1 => fs.walk follow links (if isAbsolute target then [] else dir) (pathNames target ++ names)
        | _ => if names.isEmpty || e.isDirectory then fs.walk follow links place names else .error .notADirectory
termination_by names => (links, names.length)

/-- Where a path leads. There need not be anything at the place, but the directory around it exists. -/
structure Target where
  place : Place
  /-- Whether the path ends in a name, and not in a step up or to the root. -/
  named : Bool
  /-- Whether the path can only mean a directory. -/
  slashed : Bool
  deriving DecidableEq, Repr

/-- Where a path leads; whether a link at its end is gone through, is told. -/
def resolve (follow : Bool) (fs : Files) (path : String) : Except OsError Target :=
  if holdsNul path then .error .nulInFileName
  else if pathLimit ≤ path.utf8ByteSize then .error .nameTooLong
  else
    let start := if isAbsolute path then [] else fs.workplace
    match pathNames path with
    | [] => if path.isEmpty then .error .noEntry else .ok ⟨start, false, true⟩
    | names =>
      let last := names.getLastD ""
      (fs.walk (follow || endsInSlash path) maxLinks start names).map fun place =>
        ⟨place, last != "." && last != "..", endsInSlash path⟩

/-- Where a path leads, with a link at its very end not gone through. -/
def locate (fs : Files) (path : String) : Except OsError Target := fs.resolve false path

/-! ### Looking -/

def entryAt (follow : Bool) (fs : Files) (path : String) : Except OsError Entry :=
  match fs.resolve follow path with
  | .error e => .error e
  | .ok t => match fs.entry? t.place with
    | none => .error .noEntry
    | some e => if t.slashed && !e.isDirectory then .error .notADirectory else .ok e

def stat (fs : Files) (path : String) : Except OsError Entry := fs.entryAt true path

/-- What a path shows when a link at its end is not gone through. -/
def linkStat (fs : Files) (path : String) : Except OsError Entry := fs.entryAt false path

def contains (fs : Files) (path : String) : Bool := (fs.stat path).toBool

def holdsDirectory (fs : Files) (path : String) : Bool := ((fs.stat path).map Entry.isDirectory).toOption.getD false

/-- As many zeros as anyone here asks for. -/
def enoughZeros : Nat := 100000

def bytesOf (e : Entry) : Except OsError (List UInt8) :=
  match e.content with
  | .file bytes => .ok bytes
  | .void | .stream _ | .program _ | .link _ => .ok []
  | .zeros _ => .ok (List.replicate enoughZeros 0)
  | .directory => .error .isADirectory
  | .socket _ | .terminal => .error .noDevice

def bytesAt (fs : Files) (path : String) : Except OsError (List UInt8) :=
  match fs.stat path with
  | .error e => .error e
  | .ok e => bytesOf e

/-- A file as text. -/
def textAt (fs : Files) (path : String) : Except OsError String :=
  match fs.bytesAt path with
  | .error e => .error e
  | .ok bytes => match ofBytes? bytes with
    | some s => .ok s
    | none => .error .invalidText

/-- The files that can be seen directly in the directory where the program works. -/
def ownFiles (fs : Files) : List (String × List UInt8) :=
  (fs.within fs.workplace).filterMap fun (name, e) => match (fs.stat name).toOption.getD e with
    | ⟨.file bytes, _, _⟩ => some (name, bytes)
    | _ => none

/-! ### Changing -/

def makeDirectory (path : String) (fs : Files) : Except OsError Files :=
  match fs.locate path with
  | .error e => .error e
  | .ok t => match fs.entry? t.place with
    | some _ => .error .fileExists
    | none => .ok (fs.add t.place .directory 0o777)

/-- Makes a directory, and before it those of its ancestors that are missing; at most `fuel` of them. A directory
    that is there already is no failure. -/
def makeDirectories : Nat → String → Files → Except OsError Unit × Files
  | 0, _, fs => (.error .wholeTreeMissing, fs)
  | fuel + 1, path, fs =>
    let again (fs : Files) : Except OsError Unit × Files := match fs.makeDirectory path with
      | .ok fs => (.ok (), fs)
      | .error e => if fs.holdsDirectory path then (.ok (), fs) else (.error e, fs)
    if path.isEmpty then (.ok (), fs)
    else match fs.makeDirectory path with
      | .ok fs => (.ok (), fs)
      | .error .noEntry => match parentPath? path with
        | none => (.error .wholeTreeMissing, fs)
        | some parent => match makeDirectories fuel parent fs with
          | (.error e, fs) => (.error e, fs)
          | (.ok (), fs) => again fs
      | .error e => if fs.holdsDirectory path then (.ok (), fs) else (.error e, fs)

/-- Takes away anything but a directory. -/
def unlink (path : String) (fs : Files) : Except OsError Files :=
  match fs.locate path with
  | .error e => .error e
  | .ok t =>
    if !t.named then .error .isADirectory
    else match fs.entry? t.place with
      | none => .error .noEntry
      | some e =>
        if e.isDirectory then .error .isADirectory
        else if t.slashed then .error .notADirectory
        else .ok (fs.remove t.place)

/-- Takes away an empty directory. -/
def removeDirectory (path : String) (fs : Files) : Except OsError Files :=
  match fs.locate path with
  | .error e => .error e
  | .ok t => match fs.entry? t.place with
    | none => .error .noEntry
    | some e =>
      if !e.isDirectory then .error .notADirectory
      else if !t.named then .error .invalidArgument
      else if (fs.within t.place).isEmpty then .ok (fs.remove t.place)
      else .error .notEmpty

/-- Takes away what is at a place, with everything below it. -/
def removeBelow (place : Place) (fs : Files) : Files :=
  { fs with
    entries := fs.entries.filter fun (p, _) => !place.isPrefixOf p
    lost := (fs.entries.filter fun (p, _) => place.isPrefixOf p).map (·.2) ++ fs.lost }

/-- Opens a path to write there; a file that is missing is made, and one that is there is emptied if that is asked
    for. -/
def openToWrite (emptied : Bool) (path : String) (fs : Files) : Except OsError (Entry × Files) :=
  match fs.resolve true path with
  | .error e => .error e
  | .ok t => match fs.entry? t.place with
    | none =>
      if t.slashed then .error .isADirectory
      else .ok (fs.fresh (.file []) 0o666, fs.add t.place (.file []) 0o666)
    | some e =>
      if e.isDirectory then .error .isADirectory
      else if t.slashed then .error .notADirectory
      else match e.content with
        | .file _ => .ok (e, if emptied then fs.change e.node fun e => { e with content := .file [] } else fs)
        | .socket _ | .terminal => .error .noDevice
        | _ => .ok (e, fs)

/-- Bytes put into a file from an offset on; what is missing before them is filled with zeros. -/
def overwrite (offset : Nat) (bytes old : List UInt8) : List UInt8 :=
  if offset = old.length then old ++ bytes
  else old.take offset ++ List.replicate (offset - old.length) 0 ++ bytes ++ old.drop (offset + bytes.length)

/-- Writes into a file that has been opened, from an offset or, without one, from its end on; the offset behind what was
    written comes back too. -/
def writeNode (node : Nat) (offset : Option Nat) (bytes : List UInt8) (fs : Files) : Nat × Files :=
  match fs.node? node with
  | some ⟨.file old, _, _⟩ =>
    let start := offset.getD old.length
    (start + bytes.length, if bytes.isEmpty then fs
      else fs.change node fun e => { e with content := .file (overwrite start bytes old) })
  | _ => (0, fs)

/-- Writes a file from its beginning or, to append, from its end; one that is missing is made. -/
def write (append : Bool) (path : String) (bytes : List UInt8) (fs : Files) : Except OsError Files :=
  (fs.openToWrite (!append) path).map fun (e, fs) => (fs.writeNode e.node none bytes).2

/-- A file at a path, with the directories that lead to it; what cannot be made is left as it is. -/
def plant (path : String) (bytes : List UInt8) (fs : Files) : Files :=
  let fs := match parentPath? path with
    | some parent => (fs.makeDirectories (parent.length + 1) parent).2
    | none => fs
  (fs.write false path bytes).toOption.getD fs

/-- A directory at a path, with those that lead to it. -/
def plantDirectory (path : String) (fs : Files) : Files := (fs.makeDirectories (path.length + 1) path).2

def setMode (path : String) (mode : Nat) (fs : Files) : Except OsError Files :=
  (fs.stat path).map fun e => fs.change e.node fun e => { e with mode := mode }

/-- Makes something at a path where nothing was before; a path that ends in no name is always taken. -/
def makeAt (path : String) (content : Content) (mode : Nat) (taken : OsError) (fs : Files) : Except OsError Files :=
  match fs.locate path with
  | .error e => .error e
  | .ok t =>
    if !t.named then .error taken
    else match fs.entry? t.place with
      | some _ => .error taken
      | none => if t.slashed then .error .noEntry else .ok (fs.add t.place content mode)

/-- Makes the address of an endpoint, where nothing was before. -/
def makeSocket (path : String) (endpoint : Nat) (fs : Files) : Except OsError Files :=
  fs.makeAt path (.socket endpoint) 0o777 .addressInUse

/-- Makes a link that leads to another path, whether anything is there or not. -/
def makeLink (target path : String) (fs : Files) : Except OsError Files :=
  (Files.makeAt path (.link target) 0o777 .fileExists { fs with mask := 0 }).map fun after =>
    { after with mask := fs.mask }

/-- Shows what is at one path at another one too. -/
def share (path other : String) (fs : Files) : Except OsError Files :=
  match fs.linkStat path, fs.locate other with
  | .error e, _ | _, .error e => .error e
  | .ok e, .ok t =>
    if e.isDirectory then .error .notPermitted
    else match fs.entry? t.place with
      | some _ => .error .fileExists
      | none => .ok (fs.put t.place e)

/-- Moves what is at one path to another, with everything below it, in place of what was there. -/
def rename (path other : String) (fs : Files) : Except OsError Files :=
  match fs.linkStat path, fs.locate path, fs.locate other with
  | .error e, _, _ | _, .error e, _ | _, _, .error e => .error e
  | .ok e, .ok old, .ok new =>
    let clash : Option OsError := match fs.entry? new.place with
      | none => if new.slashed && !e.isDirectory then some .notADirectory else none
      | some former =>
        if former.isDirectory && !e.isDirectory then some .isADirectory
        else if !former.isDirectory && e.isDirectory then some .notADirectory
        else if former.isDirectory && !(fs.within new.place).isEmpty then some .notEmpty
        else none
    if !old.named || !new.named then .error .busy
    else if old.place = new.place then .ok fs
    else if old.place.isPrefixOf new.place then .error .invalidArgument
    else match clash with
      | some refusal => .error refusal
      | none =>
        if (fs.entry? new.place).any (·.node = e.node) then .ok fs
        else
          let cleared := if (fs.entry? new.place).isSome then fs.remove new.place else fs
          .ok { cleared with entries := cleared.entries.map fun (p, e) =>
            if old.place.isPrefixOf p then (new.place ++ p.drop old.place.length, e) else (p, e) }

/-- The same files with each name, and each path that a link leads to, written in another way. -/
def mapNames (f : String → String) (fs : Files) : Files :=
  let renamed (e : Entry) : Entry := match e.content with
    | .link target => { e with content := .link (f target) }
    | _ => e
  { fs with
    entries := fs.entries.map fun (p, e) => (p.map f, renamed e)
    workplace := fs.workplace.map f }

end Files

end KeyFeed.Host
