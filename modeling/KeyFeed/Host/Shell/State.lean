import KeyFeed.Host.Ending
import KeyFeed.Host.Scratch
import KeyFeed.Host.Shell.Expansion
import KeyFeed.Host.Shell.Script
import KeyFeed.Text.Digits
import KeyFeed.Text.Octets

/-! A shell between two commands: its files, where its descriptors lead, its parameters, and what it has been told to do.
    All text in a shell is bytes, each as the character of its number. -/

namespace KeyFeed.Host.Shell
open Text

/-- Where a descriptor leads. -/
inductive Channel where
  | void
  /-- Zeros without an end, and room for everything or for nothing. -/
  | zeros (full : Bool)
  /-- A file that has been opened, how far it has been read or written, and whether all is written at its end. -/
  | file (node offset : Nat) (appends : Bool)
  /-- What has been written and not yet read, and what was written after it, the last of it first. -/
  | pipe (content : List Char) (added : List (List Char))
  deriving DecidableEq, Repr

/-- A variable that is known, though perhaps without a value. -/
structure Variable where
  value : Option String
  exported : Bool
  /-- Whether its value can no longer be changed. -/
  fixed : Bool
  deriving DecidableEq, Repr

/-- Something started in the background. -/
structure Job where
  /-- The number of its process, and the one by which the shell that started it counts it. -/
  number : Nat
  slot : Nat
  /-- The process that started it, and the number of its shell. -/
  owner : Nat
  shell : Nat
  /-- When it began with the first of the commands that are left, and when that will have got to its end, in
      milliseconds. -/
  began : Nat
  due : Nat
  /-- How it ended, once it has. -/
  ending : Option Ending
  /-- Whether someone has waited for its end. -/
  awaited : Bool
  /-- The commands that are left. -/
  body : List Script
  /-- What it has taken over from the shell that started it. -/
  descriptors : List (Nat × Nat)
  bindings : List (String × Variable)
  arguments : List String
  functions : List (String × Script)
  workplace : Place
  mask : Nat
  traps : List (Nat × String)

structure State where
  files : Files
  channels : Array Channel
  /-- The channel of each descriptor that is open. -/
  descriptors : List (Nat × Nat)
  name : String
  /-- The number by which a script knows its own shell. -/
  number : Nat
  /-- The number of this process, which is another one in a copy of the shell. -/
  process : Nat
  /-- The number of the process that was started last. -/
  lastNumber : Nat
  arguments : List String
  bindings : List (String × Variable)
  /-- For each function that runs, the variables that it has hidden and that come back after it. -/
  hidden : List (List (String × Option Variable))
  functions : List (String × Script)
  aliases : List (String × String)
  /-- What is done when a signal arrives, by its number; number zero is the end of the script. -/
  traps : List (Nat × String)
  /-- The shells that wait for this one, and the signals that they have been sent in the meantime: to which shell, and
      which signal. -/
  waiting : List Nat
  sent : List (Nat × Nat)
  /-- The letters of the options that are on. -/
  options : List Char
  /-- Whether someone looks at the status of what runs now. -/
  tested : Bool
  status : Nat
  line : Nat
  /-- The command of the shell in whose name complaints are made. -/
  speaker : Option String
  /-- How many loops run one inside the other. -/
  loops : Nat
  /-- Whether this process does nothing after the command that runs now, so that a program can take its place. -/
  last : Bool
  /-- What was started in the background, the last of it first, and its number. -/
  jobs : List Job
  job : Option Nat
  /-- How much time has passed, in milliseconds. -/
  clock : Nat
  /-- How the last script ended whose output became part of a word of this command. -/
  lastOutput : Option Nat
  /-- Whether something could not be written by the command of the shell that runs now. -/
  unsaid : Bool
  /-- How far options have been read within one argument. -/
  optionOffset : Nat
  /-- Files that later stages of a pipeline open before a program of this one gets to run. -/
  early : List (RedirectKind × String)

/-- How a script goes on after a command. -/
inductive Flow where
  | onward
  /-- Out of so many loops. -/
  | leaving (loops : Nat)
  /-- To the next round of a loop, out of those inside it. -/
  | repeating (loops : Nat)
  /-- Out of the innermost function. -/
  | returning
  /-- A command of the shell was used in a wrong way. -/
  | failing
  | exiting
  /-- A signal has ended this process. -/
  | dying (signal : Nat)
  deriving DecidableEq, Repr

namespace State

def setStatus (n : Nat) (sh : State) : State := { sh with status := n }

def setLine (line : Nat) (sh : State) : State := { sh with line := line }

def has (sh : State) (option : Char) : Bool := sh.options.contains option

/-! ### Channels -/

def channel? (sh : State) (descriptor : Nat) : Option Channel :=
  match sh.descriptors.find? (·.1 == descriptor) with
  | some (_, n) => sh.channels[n]?
  | none => none

/-- Opens a new channel under a descriptor. -/
def attach (descriptor : Nat) (c : Channel) (sh : State) : State :=
  { sh with
    channels := sh.channels.push c
    descriptors := (descriptor, sh.channels.size) :: sh.descriptors.filter (·.1 != descriptor) }

def close (descriptor : Nat) (sh : State) : State :=
  { sh with descriptors := sh.descriptors.filter (·.1 != descriptor) }

/-- Lets a descriptor lead where another one leads; that must be open. -/
def duplicate (descriptor source : Nat) (sh : State) : Option State :=
  (sh.descriptors.find? (·.1 == source)).map fun (_, n) =>
    { sh with descriptors := (descriptor, n) :: sh.descriptors.filter (·.1 != descriptor) }

def setChannel (descriptor : Nat) (c : Channel) (sh : State) : State :=
  match sh.descriptors.find? (·.1 == descriptor) with
  | some (_, n) => { sh with channels := sh.channels.setIfInBounds n c }
  | none => sh

/-- All that can still be read from a descriptor. -/
def unread (sh : State) (descriptor : Nat) : List Char :=
  match sh.channel? descriptor with
  | some (.pipe content added) => content ++ added.reverse.flatten
  | some (.file node offset _) => match sh.files.node? node with
    | some ⟨.file bytes, _, _⟩ => ofBytesPlain (bytes.drop offset)
    | _ => []
  | some (.zeros _) => List.replicate Files.enoughZeros '\x00'
  | _ => []

/-- Passes so many characters of what can be read. -/
def take (descriptor n : Nat) (sh : State) : State :=
  match sh.channel? descriptor with
  | some (.pipe content added) => sh.setChannel descriptor (.pipe ((content ++ added.reverse.flatten).drop n) [])
  | some (.file node offset appends) => sh.setChannel descriptor (.file node (offset + n) appends)
  | _ => sh

/-- Writes to a descriptor; whether that is open and there is room. -/
def write (descriptor : Nat) (cs : List Char) (sh : State) : Bool × State :=
  match sh.channel? descriptor with
  | none => (cs.isEmpty, sh)
  | some .void => (true, sh)
  | some (.zeros full) => (!full || cs.isEmpty, sh)
  | some (.pipe content added) => (true, sh.setChannel descriptor (.pipe content (cs :: added)))
  | some (.file node offset appends) =>
    let (offset, files) := sh.files.writeNode node (if appends then none else some offset) (cs.map toByte)
    (true, { sh with files := files }.setChannel descriptor (.file node offset appends))

/-- Writes to the usual output, and notes when that fails. -/
def print (text : String) (sh : State) : State :=
  let (written, sh) := sh.write 1 text.toList
  { sh with unsaid := sh.unsaid || !written }

/-- Complains about something, in the name of the command that runs now. -/
def complain (text : String) (sh : State) : State :=
  let speaker := (sh.speaker.map (· ++ ": ")).getD ""
  (sh.write 2 (sh.name ++ ": " ++ decimal sh.line ++ ": " ++ speaker ++ text ++ "\n").toList).2

/-- Complains, and leaves the status of a mistake. -/
def mistake (text : String) (sh : State) : State := (sh.complain text).setStatus 2

/-! ### Variables -/

def variableOf? (sh : State) (name : String) : Option Variable := (sh.bindings.find? (·.1 == name)).map (·.2)

def setVariable (name : String) (v : Variable) (sh : State) : State :=
  if sh.bindings.any (·.1 == name) then
    { sh with bindings := sh.bindings.map fun (n, old) => if n = name then (n, v) else (n, old) }
  else { sh with bindings := sh.bindings ++ [(name, v)] }

/-- Gives a variable a value; one that is fixed keeps its own. -/
def assign (name value : String) (sh : State) : Except String State :=
  let old := (sh.variableOf? name).getD ⟨none, false, false⟩
  if old.fixed then .error (name ++ ": is read only")
  else
    let sh := if name = "OPTIND" then { sh with optionOffset := 0 } else sh
    .ok (sh.setVariable name { old with value := some value, exported := old.exported || sh.has 'a' })

/-- Gives a variable a value without asking. -/
def bind (name value : String) (sh : State) : State := (sh.assign name value).toOption.getD sh

def variableValue (sh : State) (name : String) : Option String := (sh.variableOf? name).bind Variable.value

/-- The characters at which values are divided. -/
def separators (sh : State) : List Char := ((sh.variableValue "IFS").getD " \t\n").toList

/-- The arguments with the first separator between them. -/
def joinedArguments (sh : State) : String :=
  let between := match sh.variableOf? "IFS" with
    | some ⟨some s, _, _⟩ => String.ofList (s.toList.take 1)
    | _ => " "
  String.intercalate between sh.arguments

/-- The letters of the options that are on, in the order in which they are shown. -/
def optionLetters (sh : State) : String := String.ofList ("pubaCEVvxsnmiIfe".toList.filter sh.options.contains)

def valueOf (sh : State) (name : String) : Option String :=
  match name with
  | "?" => some (decimal sh.status)
  | "$" => some (decimal sh.number)
  | "#" => some (decimal sh.arguments.length)
  | "@" | "*" => some sh.joinedArguments
  | "!" => sh.job.map decimal
  | "-" => some sh.optionLetters
  | "0" => some sh.name
  | _ => match readDigits? 10 name.toList with
    | some n => if n = 0 then some sh.name else sh.arguments[n - 1]?
    | none => sh.variableValue name

/-- The variables that programs see. -/
def environment (sh : State) : List (String × String) :=
  sh.bindings.filterMap fun (name, v) => if v.exported then v.value.map fun value => (name, value) else none

/-- Puts variables back to what they were. -/
def reveal (hidden : List (String × Option Variable)) (sh : State) : State :=
  hidden.foldl (fun (sh : State) (name, old) => match old with
    | some v => sh.setVariable name v
    | none => { sh with bindings := sh.bindings.filter (·.1 != name) }) sh

def functionOf? (sh : State) (name : String) : Option Script := (sh.functions.find? (·.1 == name)).map (·.2)

/-- Gives a name to a body; an earlier body of that name is forgotten. -/
def define (name : String) (body : Script) (sh : State) : State :=
  { sh with functions := (name, body) :: sh.functions.filter (·.1 != name), status := 0 }

/-- Shows what is about to be done. -/
def trace (words : List String) (sh : State) : State :=
  let begun := (sh.variableValue "PS4").getD ""
  (sh.write 2 (begun ++ String.intercalate " " words ++ "\n").toList).2

/-! ### Shells -/

/-- A shell that has just begun, with nothing to read and no one who reads. -/
def fresh (name : String) (fs : Files) : State :=
  let known (value : String) (exported : Bool) : Variable := ⟨some value, exported, false⟩
  let place := "/" ++ String.intercalate "/" fs.workplace
  { files := fs
    channels := #[.void, .void, .void]
    descriptors := [(0, 0), (1, 1), (2, 2)]
    name := name
    number := 4242
    process := 4242
    lastNumber := 4242
    arguments := []
    bindings :=
      [("PATH", known (String.intercalate ":" Files.programDirectories) true), ("HOME", known "/root" true),
       ("PWD", known place true), ("IFS", known " \t\n" false), ("OPTIND", known "1" false), ("PPID", known "4200" false),
       ("PS1", known "# " false), ("PS2", known "> " false), ("PS4", known "+ " false)]
    hidden := []
    functions := []
    aliases := []
    traps := []
    waiting := []
    sent := []
    options := []
    tested := false
    status := 0
    line := 1
    speaker := none
    loops := 0
    last := false
    jobs := []
    job := none
    clock := 0
    lastOutput := none
    unsaid := false
    optionOffset := 0
    early := [] }

/-- What a copy of the shell leaves to it. -/
def afterCopy (copy sh : State) : State :=
  { sh with
    files := { copy.files with workplace := sh.files.workplace, mask := sh.files.mask }
    channels := copy.channels
    lastNumber := copy.lastNumber
    sent := copy.sent
    jobs := copy.jobs
    clock := copy.clock
    status := copy.status }

/-- A copy of the shell, for a part of a script. -/
def copied (sh : State) : State :=
  { sh with
    process := sh.lastNumber + 1
    lastNumber := sh.lastNumber + 1
    traps := sh.traps.filter fun (_, action) => action.isEmpty
    last := true }

/-- A shell that a shell starts. -/
def nested (name : String) (args : List String) (sh : State) : State :=
  let begun := fresh name sh.files
  let inherited := sh.bindings.filter fun (_, v) => v.exported && v.value.isSome
  let kept := inherited.map fun (n, v) => (n, { v with fixed := false })
  { begun with
    channels := sh.channels
    descriptors := sh.descriptors
    number := sh.lastNumber + 1
    process := sh.lastNumber + 1
    lastNumber := sh.lastNumber + 1
    waiting := sh.number :: sh.waiting
    sent := sh.sent
    jobs := sh.jobs
    clock := sh.clock
    arguments := args
    traps := sh.traps.filter fun (_, action) => action.isEmpty
    bindings := (begun.bindings.filter fun (n, v) => (!v.exported || n = "PATH") && n != "IFS" && n != "PPID" && !kept.any (·.1 == n))
      ++ [("IFS", ⟨some " \t\n", false, false⟩), ("PPID", ⟨some (decimal sh.process), false, false⟩)]
      ++ kept.filter fun (n, _) => n != "IFS" && n != "PPID" }

/-! ### What runs in the background -/

/-- The things that this process has started in the background, the last of them first. -/
def ownJobs (sh : State) : List Job := sh.jobs.filter (·.owner == sh.process)

/-- The lowest number under which this process can count another thing, now that those are no longer counted that have
    ended and been waited for. -/
def nextSlot (sh : State) : Nat :=
  let taken := (sh.ownJobs.filter fun j => j.ending.isNone || !j.awaited).map Job.slot
  ((List.range (taken.length + 1)).find? fun n => !taken.contains (n + 1)).getD taken.length + 1

/-- Makes room for another process among those that are counted. -/
def makeRoom (sh : State) : State :=
  let slot := sh.nextSlot
  { sh with jobs := sh.jobs.filter fun j => j.owner != sh.process || j.slot != slot }

/-- Something that is about to be started in the background, by a process of that number. -/
def newJob (number duration : Nat) (body : List Script) (descriptors : List (Nat × Nat)) (sh : State) : Job where
  number := number
  slot := sh.nextSlot
  owner := sh.process
  shell := sh.number
  began := sh.clock
  due := sh.clock + duration
  ending := none
  awaited := false
  body := body
  descriptors := descriptors
  bindings := sh.bindings
  arguments := sh.arguments
  functions := sh.functions
  workplace := sh.files.workplace
  mask := sh.files.mask
  traps := sh.traps

/-- Notes how something in the background has ended. -/
def noteEnding (number : Nat) (e : Ending) (sh : State) : State :=
  { sh with jobs := sh.jobs.map fun j => if j.number = number then { j with ending := some e } else j }

def noteWaiting (number : Nat) (sh : State) : State :=
  { sh with jobs := sh.jobs.map fun j => if j.number = number then { j with awaited := true } else j }

/-- The thing in the background that a word with a percent sign means. -/
def jobNamed (word : String) (sh : State) : Except String Job :=
  let own := sh.ownJobs
  match word.toList.drop 1 with
  | [] | ['%'] | ['+'] => (own.head?.map .ok).getD (.error "No current job")
  | ['-'] => (own[1]?.map .ok).getD (.error "No previous job")
  | cs => (((readDigits? 10 cs).bind fun n => own.find? (·.slot == n)).map .ok).getD (.error ("No such job: " ++ word))

/-- Tells that a process was ended by a signal, unless that is one of the usual ways to end. -/
def tellSignal (signal : Nat) (sh : State) : State :=
  if signal = 2 || signal = 13 then sh else (sh.write 2 ((signalMeaning signal) ++ "\n").toList).2

/-! ### Redirections -/

/-- A channel to a file or device that has been opened. -/
def channelTo (e : Entry) (appends : Bool) (sh : State) : Channel :=
  match e.content with
  | .file _ => .file e.node 0 appends
  | .stream n => match sh.channel? n with
    | some (.file node _ _) => .file node 0 appends
    | some c => c
    | none => .void
  | .zeros full => .zeros full
  | _ => .void

/-- Whether a refusal to open a path for writing comes from there being no such directory. -/
def writeRefusal (path : String) (e : OsError) : String :=
  match e with
  | .noEntry => "cannot create " ++ path ++ ": Directory nonexistent"
  | .isADirectory => "cannot create " ++ path ++ ": Is a directory"
  | .notADirectory => "cannot create " ++ path ++ ": Not a directory"
  | .noDevice => "cannot create " ++ path ++ ": No such device or address"
  | .fileExists => "cannot create " ++ path ++ ": File exists"
  | .nameTooLong => "cannot create " ++ path ++ ": File name too long"
  | e => "cannot create " ++ path ++ ": " ++ e.message

def readRefusal (path : String) (e : OsError) : String :=
  match e with
  | .noEntry => "cannot open " ++ path ++ ": No such file"
  | .notADirectory => "cannot open " ++ path ++ ": Not a directory"
  | .noDevice => "cannot open " ++ path ++ ": No such device or address"
  | .nameTooLong => "cannot open " ++ path ++ ": File name too long"
  | e => "cannot open " ++ path ++ ": " ++ e.message

def openToWrite (emptied appends : Bool) (descriptor : Nat) (path : String) (sh : State) : Except String State :=
  match sh.files.openToWrite emptied path with
  | .error e => .error (writeRefusal path e)
  | .ok (e, fs) =>
    let sh := { sh with files := fs }
    match e.content with
    | .stream n => match sh.channel? n, sh.duplicate descriptor n with
      | some (.file node _ _), _ =>
        let fs := if emptied then sh.files.change node fun e => { e with content := .file [] } else sh.files
        .ok ({ sh with files := fs }.attach descriptor (.file node 0 appends))
      | _, some sh => .ok sh
      | _, none => .error (writeRefusal path .noEntry)
    | _ => .ok (sh.attach descriptor (sh.channelTo e appends))

/-- A redirection with its target expanded. -/
def redirect (kind : RedirectKind) (descriptor : Nat) (target : String) (sh : State) : Except String State :=
  match kind with
  | .read => match sh.files.stat target with
    | .error e => .error (readRefusal target e)
    | .ok e => match e.content with
      | .socket _ | .terminal => .error (readRefusal target .noDevice)
      | .stream n => match sh.channel? n, sh.duplicate descriptor n with
        | some (.file node _ _), _ => .ok (sh.attach descriptor (.file node 0 false))
        | _, some sh => .ok sh
        | _, none => .error (readRefusal target .noEntry)
      | _ => .ok (sh.attach descriptor (sh.channelTo e false))
  | .text _ => .ok (sh.attach descriptor (.pipe target.toList []))
  | .write =>
    let regular := match sh.files.stat target with
      | .ok ⟨.file _, _, _⟩ => true
      | _ => false
    if sh.has 'C' && regular then .error (writeRefusal target .fileExists)
    else sh.openToWrite true false descriptor target
  | .replace => sh.openToWrite true false descriptor target
  | .append => sh.openToWrite false true descriptor target
  | .both => sh.openToWrite false false descriptor target
  | .duplicate => match target.toList with
    | ['-'] => .ok (sh.close descriptor)
    | [c] =>
      if isAsciiDigit c then match sh.duplicate descriptor (c.toNat - 48) with
        | some sh => .ok sh
        | none => .error (target ++ ": Bad file descriptor")
      else .error "Syntax error: Bad fd number"
    | _ => .error "Syntax error: Bad fd number"

/-- The files that a part of a script opens to write there, as far as their names stand in it. -/
def openedFirst (s : Script) : List (RedirectKind × String) :=
  let redirects := match s with
    | .simple _ _ rs | .group _ _ rs | .subshell _ _ rs => rs
    | _ => []
  redirects.filterMap fun (r : Redirect) => match r with
    | .mk _ kind target => match kind with
      | .write | .replace | .append | .both => (literal? target).map fun path => (kind, path)
      | _ => none

/-- Opens the files that later stages open in the meantime. -/
def openEarly (sh : State) : State :=
  let opened := sh.early.foldl (fun (fs : Files) (kind, path) =>
    match fs.openToWrite (kind = .write || kind = .replace) path with
    | .ok (_, fs) => fs
    | .error _ => fs) sh.files
  { sh with files := opened, early := [] }

/-! ### Finding commands -/

/-- Whether a mistake in a command ends the script. -/
def isSpecial (name : String) : Bool := specialCommands.contains name

/-- Commands that the shell knows without looking for a program. -/
def isOwn (name : String) : Bool := ownCommands.contains name

/-- What a command name leads to. -/
inductive Found where
  | program (path name : String)
  | text (path : String) (content : List Char)
  /-- Nothing is there, or nothing that can be run. -/
  | nothing (refused : Bool) (status : Nat)

def Found.isSome : Found → Bool
  | .nothing _ _ => false
  | _ => true

/-- What can be run at a path. -/
def findAt (path : String) (fs : Files) : Found :=
  match fs.stat path with
  | .error .noEntry | .error .notADirectory => .nothing false 127
  | .error _ => .nothing true 126
  | .ok e => match e.isExecutable, e.content with
    | true, .program p => .program path p
    | true, .file bytes => .text path (ofBytesPlain bytes)
    | _, _ => .nothing true 126

/-- Looks for a command, at its path or in the directories that are named for that. -/
def find (name : String) (sh : State) : Found :=
  if name.toList.contains '/' then findAt name sh.files
  else if name.isEmpty then .nothing false 127
  else
    let directories := match sh.variableValue "PATH" with
      | none => []
      | some path => fields ':' path.toList
    let tried := directories.map fun d =>
      findAt (if d.isEmpty then name else String.ofList d ++ "/" ++ name) sh.files
    let refused := tried.any fun f => match f with
      | .nothing refused _ => refused
      | _ => false
    (tried.find? Found.isSome).getD (.nothing refused 127)

end State

end KeyFeed.Host.Shell
