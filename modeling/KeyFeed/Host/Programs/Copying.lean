import KeyFeed.Host.Programs.Making

/-! Programs that copy and move files, or directories with everything below them. -/

namespace KeyFeed.Host.Programs
open Text

/-- How copies are made. -/
structure CopyRules where
  deep : Bool
  /-- Whether links are gone through. -/
  follows : Bool
  keepsMode : Bool
  /-- Whether links are made in place of copies: to the file itself, or to its path. -/
  links : Bool
  symbolic : Bool
  /-- Whether what is at the target is left as it is. -/
  spares : Bool
  /-- Whether a target that is in the way is taken away first. -/
  forced : Bool
  told : Bool

/-- What is at a path, as the rules look at it. -/
def CopyRules.look (k : CopyRules) (fs : Files) (path : String) : Except OsError Entry :=
  if k.follows then fs.stat path else fs.linkStat path

/-- Whether a path leads to a place inside of a directory. -/
def leadsInto (fs : Files) (directory path : String) : Bool :=
  match fs.resolve true directory, fs.resolve true path with
  | .ok d, .ok t => d.place.isPrefixOf t.place
  | _, _ => false

/-- A link that leads nowhere. -/
def isDangling (fs : Files) (path : String) : Bool := (fs.linkStat path).toBool && !fs.contains path

/-- Puts a copy of the bytes of a file at a path. -/
def copyBytes (c : Call) (k : CopyRules) (e : Entry) (target : String) (fs : Files) : Except OsError Files :=
  let existed := fs.contains target
  let bytes : Except OsError (List UInt8) :=
    if e.content = .stream 0 then .ok (c.input.map toByte) else Files.bytesOf e
  match bytes with
  | .error e => .error e
  | .ok bytes => match fs.openToWrite true target with
    | .error refusal => .error refusal
    | .ok (made, fs) =>
      let fs := (fs.writeNode made.node none bytes).2
      let mode := if k.keepsMode then e.mode else withoutBits e.mode fs.mask
      let content (f : Entry) : Entry := match e.content with
        | .program _ => { f with content := e.content }
        | _ => f
      .ok (fs.change made.node fun f =>
        let f := content f
        if existed && !k.keepsMode then f else { f with mode := mode })

/-- Copies one thing to a path; what is below a directory is not copied with it. -/
def copyOne (c : Call) (k : CopyRules) (source target : String) (r : Report) : Report × Bool :=
  let said (r : Report) : Report :=
    if k.told then r.say (quoted source ++ " -> " ++ quoted target ++ "\n").toList else r
  let refuse (text : String) : Report × Bool := (r.complain c.name text, false)
  match k.look r.files source with
  | .error e => refuse ("cannot stat " ++ quoted source ++ ": " ++ reason e)
  | .ok e => match r.files.stat target with
    | .ok f =>
      if e.isDirectory && f.isDirectory then (r, true)
      else if e.isDirectory then
        refuse ("cannot overwrite non-directory " ++ quoted target ++ " with directory " ++ quoted source)
      else if f.isDirectory then refuse ("cannot overwrite directory " ++ quoted target ++ " with non-directory")
      else if e.node = f.node && !k.links then refuse (quoted source ++ " and " ++ quoted target ++ " are the same file")
      else if k.spares then (r, false)
      else
        let cleared := if k.forced && (k.links || k.symbolic) then (r.files.unlink target).toOption.getD r.files else r.files
        let done : Except OsError Files := if k.links then cleared.share source target
          else if k.symbolic then cleared.makeLink source target
          else match e.content with
            | .link path => ((r.files.unlink target).toOption.getD r.files).makeLink path target
            | _ => copyBytes c k e target r.files
        match done with
        | .ok fs => (said { r with files := fs }, true)
        | .error refusal => refuse ("cannot create regular file " ++ quoted target ++ ": " ++ reason refusal)
    | .error _ =>
      if e.isDirectory then match r.files.makeDirectory target with
        | .ok fs =>
          let fs := (fs.setMode target (withoutBits e.mode (if k.keepsMode then 0 else fs.mask))).toOption.getD fs
          (said { r with files := fs }, true)
        | .error refusal => refuse ("cannot create directory " ++ quoted target ++ ": " ++ reason refusal)
      else if isDangling r.files target && !k.links && !k.symbolic then
        refuse ("not writing through dangling symlink " ++ quoted target)
      else
        let done : Except OsError Files := if k.links then r.files.share source target
          else if k.symbolic then r.files.makeLink source target
          else match e.content with
            | .link path => r.files.makeLink path target
            | _ => copyBytes c k e target r.files
        match done with
        | .ok fs => (said { r with files := fs }, true)
        | .error refusal => refuse ("cannot create regular file " ++ quoted target ++ ": "
            ++ reason (if refusal = .isADirectory then .notADirectory else refusal))

/-- Copies a thing to a path, with everything below it. -/
def copyTree (c : Call) (k : CopyRules) (source target : String) (r : Report) : Report :=
  match k.look r.files source with
  | .ok e =>
    if e.isDirectory && !k.deep then r.complain c.name ("-r not specified; omitting directory " ++ quoted source)
    else if e.isDirectory && leadsInto r.files source target then
      let made := if r.files.contains target then r.files else (r.files.makeDirectory target).toOption.getD r.files
      { r with files := made }.complain c.name
        ("cannot copy a directory, " ++ quoted source ++ ", into itself, " ++ quoted target)
    else
      let (copied, going) := copyOne c k source target r
      match e.isDirectory && going, r.files.resolve true source with
      | true, .ok t =>
        ((pathsBelow r.files t.place "").reverse).foldl (fun (r : Report) (rest, _) =>
          (copyOne c { k with follows := false } (source ++ rest) (target ++ rest) r).1) copied
      | _, _ => copied
  | .error _ => (copyOne c k source target r).1

def cp (c : Call) : Report :=
  c.withOptions (.of "abdfHilLnprst:uvxPRTS:" [("recursive", 'r'), ("archive", 'a'), ("force", 'f'), ("no-clobber", 'n'),
      ("verbose", 'v'), ("target-directory", 't'), ("no-target-directory", 'T'), ("link", 'l'), ("symbolic-link", 's'),
      ("interactive", 'i'), ("update", 'u'), ("no-dereference", 'P'), ("dereference", 'L'), ("preserve", 'p')]) 1
      fun given operands =>
    let deep := given.has 'r' || given.has 'R' || given.has 'a'
    let followsLinks := match given.last? ['L', 'P', 'd', 'a', 'H'] with
      | some (d, _) => d = 'L' || d = 'H'
      | none => !deep
    let k : CopyRules := {
      deep := deep
      follows := followsLinks
      keepsMode := given.has 'p' || given.has 'a'
      links := given.has 'l'
      symbolic := given.has 's'
      spares := given.has 'n' || given.has 'i' || given.has 'u'
      forced := given.has 'f'
      told := given.has 'v' }
    let start : Report := .quiet 0 c
    match c.placing given true operands with
    | .wrong r => r
    | .toPath source target => copyTree c k source target start
    | .intoDirectory sources directory =>
      sources.foldl (fun r source => copyTree c k source
        (if baseName source = "." || baseName source = ".." then directory ++ "/." else inside directory source) r) start

/-- Moves one thing to a path. -/
def moveOne (c : Call) (given : Given) (source target : String) (r : Report) : Report :=
  let refuse (text : String) : Report := r.complain c.name text
  let between : String := quoted source ++ " to " ++ quoted target
  match r.files.linkStat source with
  | .error e => refuse ("cannot stat " ++ quoted source ++ ": " ++ reason e)
  | .ok e =>
    let former := (r.files.linkStat target).toOption
    let samePlace := match r.files.locate source, r.files.locate target with
      | .ok a, .ok b => a.place = b.place
      | _, _ => false
    if former.isSome && (given.has 'n' || given.has 'u') then r
    else if samePlace && !e.isDirectory then refuse (quoted source ++ " and " ++ quoted target ++ " are the same file")
    else if ["", ".", ".."].contains ((pathNames source).getLastD "") then
      refuse ("cannot move " ++ between ++ ": " ++ reason .busy)
    else if e.isDirectory && leadsInto r.files source target then
      refuse ("cannot move " ++ quoted source ++ " to a subdirectory of itself, " ++ quoted target)
    else match former with
      | some f =>
        if f.isDirectory && !e.isDirectory then
          refuse ("cannot overwrite directory " ++ quoted target ++ " with non-directory")
        else if !f.isDirectory && e.isDirectory then
          refuse ("cannot overwrite non-directory " ++ quoted target ++ " with directory " ++ quoted source)
        else
          let moved := if f.node = e.node then r.files.unlink source else r.files.rename source target
          match moved with
          | .ok fs => { r with files := fs }
          | .error e => refuse ("cannot move " ++ between ++ ": " ++ reason e)
      | none => match r.files.rename source target with
        | .ok fs =>
          let r := { r with files := fs }
          if given.has 'v' then r.say ("renamed " ++ quoted source ++ " -> " ++ quoted target ++ "\n").toList else r
        | .error e => refuse ("cannot move " ++ between ++ ": " ++ reason e)

def mv (c : Call) : Report :=
  c.withOptions (.of "bfint:uvTS:Z" [("force", 'f'), ("no-clobber", 'n'), ("interactive", 'i'), ("verbose", 'v'),
      ("target-directory", 't'), ("no-target-directory", 'T'), ("update", 'u')]) 1 fun given operands =>
    let start : Report := .quiet 0 c
    match c.placing given true operands with
    | .wrong r => r
    | .toPath source target => moveOne c given source target start
    | .intoDirectory sources directory =>
      sources.foldl (fun r source => moveOne c given source (inside directory source) r) start

/-- Copies files with permission bits of their own, or makes directories. -/
def install (c : Call) : Report :=
  c.withOptions (.of "bcCdDg:m:o:pst:Tv" [("directory", 'd'), ("mode", 'm'), ("target-directory", 't'), ("verbose", 'v')]) 1
      fun given operands =>
    let mode := ((given.value? 'm').map fun text => changedMode? false 0 text 0).getD (some 0o755)
    let k : CopyRules := ⟨false, true, false, false, false, false, true, given.has 'v'⟩
    let copy (source target : String) (r : Report) : Report :=
      let r := if given.has 'D' then match parentPath? target with
          | some parent => { r with files := r.files.plantDirectory parent }
          | none => r
        else r
      match k.look r.files source with
      | .ok e =>
        if e.isDirectory then r.complain c.name ("omitting directory " ++ quoted source)
        else
          let (r, going) := copyOne c k source target r
          if going then { r with files := (r.files.setMode target (mode.getD 0o755)).toOption.getD r.files } else r
      | .error _ => (copyOne c k source target r).1
    match mode with
    | none => c.refuse 1 ("invalid mode " ++ quoted ((given.value? 'm').getD ""))
    | some bits =>
      if given.has 'd' then
        if operands.isEmpty then c.missing "file operand"
        else operands.foldl (fun (r : Report) path => match r.files.makeDirectories (path.length + 1) path with
          | (.ok (), fs) => { r with files := (fs.setMode path bits).toOption.getD fs }
          | (.error e, fs) => { r with files := fs }.complain c.name
              ("cannot create directory " ++ quoted path ++ ": " ++ reason e)) (.quiet 0 c)
      else match c.placing given true operands with
        | .wrong r => r
        | .toPath source target => copy source target (.quiet 0 c)
        | .intoDirectory sources directory =>
          sources.foldl (fun r source => copy source (inside directory source) r) (.quiet 0 c)

end KeyFeed.Host.Programs
