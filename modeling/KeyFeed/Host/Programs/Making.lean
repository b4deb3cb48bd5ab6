import KeyFeed.Host.Programs.Mode
import KeyFeed.Host.Programs.Showing

/-! Programs that make files, directories and links, take them away, and change who may do what with them. -/

namespace KeyFeed.Host.Programs
open Text

/-- Does something with each operand that can add to what is said; a refusal is complained of in the words given. -/
def Call.eachOperand (c : Call) (operands : List String) (complaint : String → String)
    (act : String → Report → Except OsError Report) : Report :=
  operands.foldl (fun (r : Report) path => match act path r with
    | .ok r => r
    | .error e => r.complain c.name (complaint (quoted path) ++ ": " ++ reason e)) (.quiet 0 c)

/-- What a program says when it has too few operands. -/
def Call.missing (c : Call) (what : String) : Report := c.misused 1 ("missing " ++ what)

/-! ### Making -/

/-- Makes an empty file unless something is there already. -/
def touchFile (make : Bool) (path : String) (fs : Files) : Except OsError Files :=
  match fs.stat path with
  | .ok _ => .ok fs
  | .error .noEntry =>
    if !make then .ok fs
    else if endsInSlash path then .error .noEntry
    else (fs.openToWrite false path).map (·.2)
  | .error e => .error e

def touch (c : Call) : Report :=
  c.withOptions (.of "acd:fhmr:t:" [("no-create", 'c'), ("date", 'd'), ("reference", 'r'), ("time", 'T')]) 1
      fun given operands =>
    let stampWrong := (given.value? 't').any fun s =>
      let digits := s.toList.takeWhile isAsciiDigit
      digits.length != 8 && digits.length != 10 && digits.length != 12
    match given.value? 'r' with
    | some path => match c.files.stat path with
      | .error e => c.refuse 1 ("failed to get attributes of " ++ quoted path ++ ": " ++ reason e)
      | .ok _ => c.eachOperand operands ("cannot touch " ++ ·) fun path r =>
        (touchFile (!given.has 'c') path r.files).map fun fs => { r with files := fs }
    | none =>
      if stampWrong then c.refuse 1 ("invalid date format " ++ quoted ((given.value? 't').getD ""))
      else if operands.isEmpty then c.missing "file operand"
      else c.eachOperand operands ("cannot touch " ++ ·) fun path r =>
        if path = "-" then .ok r
        else if endsInSlash path && !given.has 'c' && r.files.stat path matches .error .noEntry then
          .ok (r.complain c.name ("setting times of " ++ quoted path ++ ": " ++ reason .noEntry))
        else (touchFile (!given.has 'c') path r.files).map fun fs => { r with files := fs }

/-- The paths from the first name of a path to the whole of it. -/
def pathsTo (path : String) : List String :=
  let names := pathNames path
  (List.range names.length).map fun i =>
    (if isAbsolute path then "/" else "") ++ String.intercalate "/" (names.take (i + 1))

def mkdir (c : Call) : Report :=
  c.withOptions (.of "m:pvZ" [("mode", 'm'), ("parents", 'p'), ("verbose", 'v')]) 1 fun given operands =>
    let mode := (given.value? 'm').map fun text => changedMode? true c.files.mask text (withoutBits 0o777 c.files.mask)
    let make (path : String) (r : Report) : Except OsError Report := (r.files.makeDirectory path).map fun fs =>
      let r := { r with files := fs }
      if given.has 'v' then r.say (c.name ++ ": created directory " ++ quoted path ++ "\n").toList else r
    let finish (path : String) (r : Report) : Report := match mode with
      | some (some bits) => { r with files := (r.files.setMode path bits).toOption.getD r.files }
      | _ => r
    if operands.isEmpty then c.missing "operand"
    else if mode = some none then c.refuse 1 ("invalid mode " ++ quoted ((given.value? 'm').getD ""))
    else operands.foldl (fun (r : Report) path =>
      let refused (path : String) (e : OsError) (r : Report) : Report :=
        r.complain c.name ("cannot create directory " ++ quoted path ++ ": " ++ reason e)
      if !given.has 'p' then match make path r with
        | .ok r => finish path r
        | .error e => refused path e r
      else if path.isEmpty then refused path .noEntry r
      else
        let existed := r.files.contains path
        let (r, going) := (pathsTo path).foldl (fun ((r, going) : Report × Bool) step =>
          if !going then (r, false)
          else if r.files.holdsDirectory step then (r, true)
          else match make step r with
            | .ok r => (r, true)
            | .error .fileExists =>
              (refused (if step.length < path.length then step else path)
                (if step.length < path.length then .notADirectory else .fileExists) r, false)
            | .error e => (refused step e r, false)) (r, true)
        if going && !existed then finish path r else r) (.quiet 0 c)

def link (c : Call) : Report :=
  c.withOptions (.of "" []) 1 fun _ operands => match operands with
  | [] => c.missing "operand"
  | [only] => c.misused 1 ("missing operand after " ++ quoted only)
  | [first, second] => match c.files.share first second with
    | .ok fs => { Report.quiet 0 c with files := fs }
    | .error e => c.refuse 1 ("cannot create link " ++ quoted second ++ " to " ++ quoted first ++ ": " ++ reason e)
  | _ :: _ :: extra :: _ => c.misused 1 ("extra operand " ++ quoted extra)

def baseName (path : String) : String := (pathNames path).getLastD (if isAbsolute path then "/" else "")

/-- The path of something of the same name in a directory. -/
def inside (directory path : String) : String :=
  (if endsInSlash directory then directory else directory ++ "/") ++ baseName path

/-- What operands say about where things go: the sources, and how the target of each of them is found. -/
inductive Placing where
  | toPath (source target : String)
  | intoDirectory (sources : List String) (directory : String)
  | wrong (report : Report)

/-- Reads where things go: to a path, or into the directory that is named last or by an option. -/
def Call.placing (c : Call) (given : Given) (plainDirectory : Bool) (operands : List String) : Placing :=
  let directoryRefusal (path : String) : Report :=
    c.refuse 1 ("target " ++ quoted path ++ ": " ++ match c.files.stat path with
      | .ok _ => "Not a directory"
      | .error e => reason e)
  match given.value? 't' with
  | some directory =>
    if operands.isEmpty then .wrong (c.missing "file operand")
    else if c.files.holdsDirectory directory then .intoDirectory operands directory
    else .wrong (directoryRefusal directory)
  | none => match operands with
    | [] => .wrong (c.missing "file operand")
    | [only] => .wrong (c.misused 1 ("missing destination file operand after " ++ quoted only))
    | [source, target] =>
      if given.has 'T' || !plainDirectory || !c.files.holdsDirectory target then .toPath source target
      else .intoDirectory [source] target
    | sources =>
      let directory := sources.getLastD ""
      if given.has 'T' then .wrong (c.misused 1 ("extra operand " ++ quoted ((sources.drop 2).headD "")))
      else if c.files.holdsDirectory directory then .intoDirectory sources.dropLast directory
      else .wrong (directoryRefusal directory)

/-- Makes one link. -/
def linkOne (c : Call) (given : Given) (source target : String) (r : Report) : Report :=
  let symbolic := given.has 's'
  let cleared : Report :=
    if given.has 'f' then { r with files := (r.files.unlink target).toOption.getD r.files } else r
  let said (r : Report) : Report :=
    if given.has 'v' then
      r.say (quoted target ++ (if symbolic then " -> " else " => ") ++ quoted source ++ "\n").toList
    else r
  if symbolic then match cleared.files.makeLink source target with
    | .ok fs => said { cleared with files := fs }
    | .error e => r.complain c.name ("failed to create symbolic link " ++ quoted target ++ ": " ++ reason e)
  else match r.files.linkStat source with
    | .error e => r.complain c.name ("failed to access " ++ quoted source ++ ": " ++ reason e)
    | .ok e =>
      if e.isDirectory then r.complain c.name (shown source ++ ": hard link not allowed for directory")
      else if given.has 'f' && ((r.files.linkStat target).map (·.node)).toOption = some e.node then
        if (r.files.locate source).toOption = (r.files.locate target).toOption then
          r.complain c.name (quoted source ++ " and " ++ quoted target ++ " are the same file")
        else r
      else match cleared.files.share source target with
        | .ok fs => said { cleared with files := fs }
        | .error e => r.complain c.name ("failed to create hard link " ++ quoted target ++ ": " ++ reason e)

def ln (c : Call) : Report :=
  c.withOptions (.of "bdfFiLnPrsS:t:Tv" [("symbolic", 's'), ("force", 'f'), ("no-dereference", 'n'), ("verbose", 'v'),
      ("target-directory", 't'), ("no-target-directory", 'T'), ("relative", 'r')]) 1 fun given operands =>
    let isLink (path : String) : Bool := match c.files.linkStat path with
      | .ok ⟨.link _, _, _⟩ => true
      | _ => false
    let start : Report := .quiet 0 c
    match operands, given.value? 't' with
    | [only], none => linkOne c given only (inside "." only) start
    | _, _ => match c.placing given (!(given.has 'n' && operands.getLast?.any isLink)) operands with
      | .wrong r => r
      | .toPath source target => linkOne c given source target start
      | .intoDirectory sources directory =>
        sources.foldl (fun r source => linkOne c given source (inside directory source) r) start

/-- The size that an option asks for, from the one that there was. -/
def newSize? (text : String) (old : Nat) : Option Nat :=
  let cs := text.toList
  let rounded (n : Nat) (up : Bool) : Nat := if n = 0 then old else if up then (old + n - 1) / n * n else old / n * n
  match cs with
  | '+' :: ds => (countOf? ds).map (old + ·)
  | '-' :: ds => (countOf? ds).map (old - ·)
  | '<' :: ds => (countOf? ds).map (min old ·)
  | '>' :: ds => (countOf? ds).map (max old ·)
  | '/' :: ds => (countOf? ds).map (rounded · false)
  | '%' :: ds => (countOf? ds).map (rounded · true)
  | ds => countOf? ds

def truncate (c : Call) : Report :=
  c.withOptions (.of "cor:s:" [("size", 's'), ("no-create", 'c'), ("reference", 'r')]) 1 fun given operands =>
    let reference := (given.value? 'r').map fun path => c.files.bytesAt path
    let size (old : Nat) : Option Nat := match given.value? 's', reference with
      | some text, _ => newSize? text old
      | none, some (.ok bytes) => some bytes.length
      | none, _ => none
    match given.value? 's', reference with
    | none, none => c.misused 1 "you must specify either '--size' or '--reference'"
    | _, some (.error e) => c.refuse 1 ("cannot stat " ++ quoted ((given.value? 'r').getD "") ++ ": " ++ reason e)
    | _, _ =>
      if (size 0).isNone then c.refuse 1 ("Invalid number: " ++ quoted ((given.value? 's').getD ""))
      else if operands.isEmpty then c.missing "file operand"
      else c.eachOperand operands (fun name => "cannot open " ++ name ++ " for writing") fun path r =>
        if given.has 'c' && !r.files.contains path then .ok r
        else match r.files.openToWrite false path with
          | .error e => .error e
          | .ok (e, fs) =>
            let resized (e : Entry) : Entry := match e.content with
              | .file bytes =>
                let n := (size bytes.length).getD 0
                { e with content := .file (bytes.take n ++ List.replicate (n - bytes.length) 0) }
              | _ => e
            .ok { r with files := fs.change e.node resized }

/-- Makes a file or directory of a name that is not taken yet. -/
def mktemp (c : Call) : Report :=
  c.withOptions (.of "dqup:tV" [("directory", 'd'), ("quiet", 'q'), ("dry-run", 'u'), ("tmpdir", 'p')]) 1
      fun given operands =>
    let home := (((given.value? 'p').filter (!·.isEmpty)).orElse fun _ =>
      (c.environment.find? (·.1 == "TMPDIR")).map (·.2)).getD "/tmp"
    let template := operands.headD "tmp.XXXXXXXXXX"
    let inHome := operands.isEmpty || given.has 'p' || given.has 't'
    let base := (template.toList.reverse.dropWhile (· = 'X')).reverse
    let marks := template.length - base.length
    if 1 < operands.length then c.misused 1 "too many templates"
    else if marks < 3 then c.refuse 1 ("too few X's in template " ++ quoted template)
    else
      let letters := "0123456789ABCDEFGHIJKLMNOPQRSTUVWXYZabcdefghijklmnopqrstuvwxyz".toList.toArray
      let name (seed : Nat) : String := String.ofList (base ++ (List.range marks).map fun i =>
        (letters[(seed / Nat.pow 62 (i % 5) + 7 * i) % 62]?).getD 'a')
      let path (seed : Nat) : String := if inHome then home ++ "/" ++ name seed else name seed
      let free := ((List.range 100).find? fun i => !(c.files.linkStat (path (7919 * (c.files.next + i)))).toBool).getD 0
      let chosen := path (7919 * (c.files.next + free))
      let made : Except OsError Files :=
        if given.has 'u' then .ok c.files
        else if given.has 'd' then (c.files.makeDirectory chosen).bind fun fs => fs.setMode chosen 0o700
        else (c.files.openToWrite false chosen).bind fun (_, fs) => fs.setMode chosen 0o600
      match made with
      | .ok fs => { Report.saying (chosen ++ "\n") c with files := fs }
      | .error e => c.refuse 1 ("failed to create " ++ (if given.has 'd' then "directory" else "file") ++ " via template "
          ++ quoted template ++ ": " ++ reason e)

/-! ### Taking away -/

def rmdir (c : Call) : Report :=
  c.withOptions (.of "pvI" [("parents", 'p'), ("verbose", 'v'), ("ignore-fail-on-non-empty", 'I')]) 1 fun given operands =>
    if operands.isEmpty then c.missing "operand"
    else operands.foldl (fun (r : Report) path =>
      let steps := if given.has 'p' then (pathsTo path).reverse else [path]
      (steps.foldl (fun ((r, going) : Report × Bool) step =>
        if !going then (r, false)
        else
          let r := if given.has 'v' then r.say (c.name ++ ": removing directory, " ++ quoted step ++ "\n").toList else r
          match r.files.removeDirectory step with
          | .ok fs => ({ r with files := fs }, true)
          | .error .notEmpty =>
            if given.has 'I' then (r, false)
            else (r.complain c.name ("failed to remove " ++ quoted step ++ ": " ++ reason .notEmpty), false)
          | .error e => (r.complain c.name ("failed to remove " ++ quoted step ++ ": " ++ reason e), false)) (r, true)).1)
      (.quiet 0 c)

def unlink (c : Call) : Report :=
  c.withOptions (.of "" []) 1 fun _ operands => match operands with
  | [] => c.missing "operand"
  | [path] => match c.files.unlink path with
    | .ok fs => { Report.quiet 0 c with files := fs }
    | .error e => c.refuse 1 ("cannot unlink " ++ quoted path ++ ": " ++ reason e)
  | _ :: extra :: _ => c.misused 1 ("extra operand " ++ quoted extra)

/-- What is below a place, the deepest first, as paths that begin with the one given. -/
def pathsBelow (fs : Files) (place : Place) (path : String) : List (String × Entry) :=
  let below := fs.entries.filter fun (p, _) => place.isPrefixOf p && place.length < p.length
  ((below.map fun (p, e) => (p.length, path ++ "/" ++ String.intercalate "/" (p.drop place.length), e)).mergeSort
    fun a b => b.1 ≤ a.1).map (·.2)

def rm (c : Call) : Report :=
  c.withOptions (.of "dfiIrRv" [("force", 'f'), ("recursive", 'r'), ("dir", 'd'), ("verbose", 'v'),
      ("interactive", 'i'), ("no-preserve-root", 'N')]) 1 fun given operands =>
    let deep := given.has 'r' || given.has 'R'
    let agreed : Bool := match given.last? ['i', 'f'] with
      | some ('i', _) => c.input.head?.any fun d => d = 'y' || d = 'Y'
      | _ => true
    let refused (path : String) (e : OsError) (r : Report) : Report :=
      r.complain c.name ("cannot remove " ++ quoted path ++ ": " ++ reason e)
    let told (path : String) (directory : Bool) (r : Report) : Report :=
      if given.has 'v' then r.say ("removed " ++ (if directory then "directory " else "") ++ quoted path ++ "\n").toList
      else r
    if operands.isEmpty then if given.has 'f' then .quiet 0 c else c.missing "operand"
    else operands.foldl (fun (r : Report) path =>
      let last := (pathNames path).getLastD ""
      match r.files.linkStat path, r.files.locate path with
      | .error e, _ | _, .error e =>
        if given.has 'f' && (e = .noEntry || e = .notADirectory) then r else refused path e r
      | .ok e, .ok t =>
        if !e.isDirectory then
          if !agreed then r
          else match r.files.unlink path with
            | .ok fs => told path false { r with files := fs }
            | .error e => refused path e r
        else if deep then
          if t.place.isEmpty then
            (r.complain c.name "it is dangerous to operate recursively on '/'").complain c.name
              "use --no-preserve-root to override this failsafe"
          else if last = "." || last = ".." then
            r.complain c.name ("refusing to remove '.' or '..' directory: skipping " ++ quoted path)
          else if !agreed then r
          else
            let r := (pathsBelow r.files t.place path).foldl (fun r (p, e) => told p e.isDirectory r) r
            told path true { r with files := r.files.removeBelow t.place }
        else if given.has 'd' then match r.files.removeDirectory path with
          | .ok fs => told path true { r with files := fs }
          | .error e => refused path e r
        else refused path .isADirectory r) (.quiet 0 c)

/-! ### Permissions -/

/-- All paths that an operand stands for when what is below it counts too. -/
def withBelow (fs : Files) (deep : Bool) (path : String) : List String :=
  match deep, fs.stat path, fs.resolve true path with
  | true, .ok e, .ok t => if e.isDirectory then path :: ((pathsBelow fs t.place path).map (·.1)) else [path]
  | _, _, _ => [path]

/-- Arguments in which a mode that begins with a hyphen does not look like an option. -/
def guardMode (args : List String) : List String :=
  let isMode (arg : String) : Bool := match arg.toList with
    | '-' :: d :: ds => (d :: ds).all fun d => "rwxXstugo,+-=".toList.contains d || isAsciiDigit d
    | _ => false
  match args.find? isMode with
  | some mode => (args.takeWhile (· != mode)) ++ "--" :: mode :: (args.dropWhile (· != mode)).drop 1
  | none => args

def chmod (c : Call) : Report :=
  (c.withArgs (guardMode c.args)).withOptions (.of "RcfvM:" [("recursive", 'R'), ("changes", 'c'), ("quiet", 'f'),
      ("silent", 'f'), ("verbose", 'v'), ("reference", 'M')]) 1 fun given operands =>
    let reference := (given.value? 'M').bind fun path => ((c.files.stat path).toOption).map (·.mode)
    let (mode, paths) := match reference with
      | some _ => (none, operands)
      | none => (operands.head?, operands.drop 1)
    match mode, paths, reference with
    | none, _, none => c.missing "operand"
    | some text, [], none => c.misused 1 ("missing operand after " ++ quoted text)
    | _, _, _ =>
      let bits (e : Entry) : Option Nat := match reference, mode with
        | some bits, _ => some bits
        | none, some text => changedMode? e.isDirectory c.files.mask text e.mode
        | none, none => none
      if (bits .root).isNone then c.misused 1 ("invalid mode: " ++ quoted (mode.getD ""))
      else ((paths.map (withBelow c.files (given.has 'R'))).flatten).foldl (fun (r : Report) path =>
        match r.files.stat path with
        | .error e =>
          if given.has 'f' then r.setStatus 1
          else r.complain c.name ("cannot access " ++ quoted path ++ ": " ++ reason e)
        | .ok e =>
          let new := (bits e).getD e.mode
          let r := { r with files := (r.files.setMode path new).toOption.getD r.files }
          let four (n : Nat) : String := String.ofList (padded 4 (Nat.toDigits 8 n)) ++ " (" ++ modeText n ++ ")"
          if given.has 'v' || (given.has 'c' && new != e.mode) then
            r.say ("mode of " ++ quoted path ++ (if new = e.mode then " retained as " ++ four new
              else " changed from " ++ four e.mode ++ " to " ++ four new) ++ "\n").toList
          else r) (.quiet 0 c)

/-- Gives files to another user or group; nothing here can tell whose they are. -/
def chown (users : Bool) (c : Call) : Report :=
  c.withOptions (.of "RcfhvHLPM:" [("recursive", 'R'), ("reference", 'M'), ("no-dereference", 'h')]) 1 fun given operands =>
    let isKnown (name : List Char) : Bool := name.isEmpty || String.ofList name = "root" || name.all isAsciiDigit
    match operands with
    | [] => c.missing "operand"
    | [only] => c.misused 1 ("missing operand after " ++ quoted only)
    | owner :: paths =>
      let parts := fields ':' owner.toList
      if !(parts.headD []).isEmpty && !isKnown (parts.headD []) then
        c.refuse 1 ("invalid " ++ (if users then "user: " else "group: ") ++ quoted owner)
      else if !isKnown ((parts.drop 1).headD []) then c.refuse 1 ("invalid group: " ++ quoted owner)
      else paths.foldl (fun (r : Report) path => match r.files.stat path with
        | .ok _ => r
        | .error e =>
          if given.has 'f' then r.setStatus 1
          else r.complain c.name ("cannot access " ++ quoted path ++ ": " ++ reason e)) (.quiet 0 c)

end KeyFeed.Host.Programs
