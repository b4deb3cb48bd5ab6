import KeyFeed.Host.Programs.Start
import KeyFeed.Host.Shell.Arithmetic
import KeyFeed.Host.Shell.Duration
import KeyFeed.Host.Shell.OwnCommand
import KeyFeed.Host.Shell.Reader

/-! Running scripts: words are expanded, redirections are made, and commands are run one after the other, with their
    effects on the shell and its files. Each step takes some fuel, so that a script without an end has one here. -/

namespace KeyFeed.Host.Shell
open Text Programs

namespace State

/-- The value of a parameter that is used, unless it is missing and that is a mistake. -/
def used (name : String) (sh : State) : Except String String :=
  match sh.valueOf name with
  | some value => .ok value
  | none => if sh.has 'u' then .error (name ++ ": parameter not set") else .ok ""

/-- Whether a value counts as missing. -/
def isMissing (emptyToo : Bool) : Option String → Bool
  | none => true
  | some value => emptyToo && value.isEmpty

/-- The atoms of all arguments. Where words are divided each of them is a field of its own. -/
def argumentAtoms (all inQuotes divided : Bool) (sh : State) : List Atom :=
  if all && inQuotes then
    (sh.arguments.map fun arg => Atom.mark :: atomsOfValue true arg.toList).intersperse [.boundary] |>.flatten
  else if inQuotes || !divided then atomsOfValue inQuotes sh.joinedArguments.toList
  else ((sh.arguments.map fun arg => atomsOfValue false arg.toList).intersperse [.boundary]).flatten

/-- Atoms that may be divided, as those that stand in for a value that is not quoted. -/
def dividing (as : List Atom) : List Atom :=
  as.map fun (a : Atom) => match a with
    | .char c false _ => .char c false true
    | a => a

/-- The home of the user that a tilde and a name stand for. -/
def homeOf? (name : String) (sh : State) : Option String :=
  if name.isEmpty then sh.variableValue "HOME" else if name = "root" then some "/root" else none

/-- A tilde and a name at the beginning of a path, replaced by the home of that user. -/
def homeFirst (endsToo : Char → Bool) (w : Word) (sh : State) : Word :=
  match w with
  | .plain '~' :: r =>
    let name := r.takeWhile fun (p : Piece) => match p with
      | .plain c => c != '/' && !endsToo c
      | _ => false
    let rest := r.drop name.length
    let bounded := match rest with
      | [] | .plain _ :: _ => true
      | _ => false
    match bounded, (plainText? name).bind fun name => sh.homeOf? name with
    | true, some home => home.toList.map .guarded ++ rest
    | _, _ => w
  | w => w

/-- Tildes at the beginning of a value, and behind each colon in it. -/
def homesWithin (sh : State) : Nat → Word → Word
  | 0, w => w
  | fuel + 1, w =>
    let w := sh.homeFirst (· == ':') w
    let isColon (p : Piece) : Bool := match p with
      | .plain ':' => true
      | _ => false
    let first := w.takeWhile (!isColon ·)
    match w.drop first.length with
    | colon :: rest => first ++ colon :: homesWithin sh fuel rest
    | [] => first

/-- Adds what a program said to where its descriptors lead; whether there was room for all of it. -/
def sayAll (said : List (Nat × List Char)) (sh : State) : Bool × State :=
  said.foldl (fun ((all, sh) : Bool × State) (descriptor, cs) =>
    let (written, sh) := sh.write descriptor cs
    (all && (written || descriptor != 1), sh)) (true, sh)

/-- The file that what is written under a descriptor is added to the end of. -/
def endNode? (sh : State) (descriptor : Nat) : Option Nat :=
  match sh.channel? descriptor with
  | some (.file node offset appends) =>
    let size := match sh.files.node? node with
      | some ⟨.file bytes, _, _⟩ => bytes.length
      | _ => 0
    if appends || offset = size then some node else none
  | _ => none

/-- How a program is called from here. -/
def call (name : String) (args : List String) (sh : State) : Call where
  name := name
  args := args
  input := sh.unread 0
  inputIsFile := match sh.channel? 0 with
    | some (.file _ _ _) => true
    | _ => false
  files := sh.files
  environment := sh.environment
  outputNode := sh.endNode? 1

/-- Takes over what a program reports. -/
def afterReport (program : String) (report : Report) (sh : State) : State :=
  let sh := { sh with files := { report.files with workplace := sh.files.workplace, mask := sh.files.mask } }
  let (written, sh) := (sh.take 0 report.taken).sayAll report.said
  let why := if (sh.channel? 1).isSome then "No space left on device" else "Bad file descriptor"
  if written then sh.setStatus report.status
  else (sh.write 2 (program ++ ": write error: " ++ why ++ "\n").toList).2.setStatus
    (if ["grep", "sort", "ls", "diff", "cmp"].contains program then 2 else 1)

/-- The interpreter that the first line of a text names, with an argument for it. -/
def interpreter? (text : List Char) : Option (String × List String) :=
  match text with
  | '#' :: '!' :: r =>
    let line := trimChars (r.takeWhile (· != '\n'))
    let path := line.takeWhile fun c => c != ' ' && c != '\t'
    let rest := trimChars (line.drop path.length)
    if path.isEmpty then none
    else some (String.ofList path, if rest.isEmpty then [] else [String.ofList rest])
  | _ => none

/-- So many functions can run one inside the other. -/
def deepest : Nat := 1000

/-- How a shell goes on after a copy of it, or after a process whose end it waits for. What ended that by force is told. -/
def afterEnd (sh : State) : Outcome → Outcome
  | (.dying n, copy) => (.onward, ((copy.afterCopy sh).tellSignal n).setStatus (128 + n))
  | (_, copy) => (.onward, (copy.afterCopy sh).setStatus (copy.status % 256))

/-- What a nested shell is told by the words behind its name. -/
structure ShellOrder where
  options : List Char
  /-- Whether the first operand is the script itself. -/
  command : Bool
  /-- Whether the script comes from the input. -/
  fromInput : Bool
  operands : List String

/-- Reads the words behind the name of a shell; at most `fuel` of them. -/
def readOrder : Nat → List String → ShellOrder → Except String ShellOrder
  | 0, args, o => .ok { o with operands := args }
  | _ + 1, [], o => .ok o
  | fuel + 1, arg :: args, o =>
    let letters (on : Bool) (cs : List Char) : Except String ShellOrder :=
      let known := cs.filter fun c => !(['c', 's', 'l', 'o'].contains c)
      match known.find? fun c => !optionNames.any (·.2 == c) with
      | some c => .error ("Illegal option " ++ (if on then "-" else "+") ++ String.singleton c)
      | none =>
        let (named, args) := if cs.contains 'o' then
            ((optionNames.filter fun (n, _) => args.head? = some n).map (·.2), args.drop 1)
          else ([], args)
        let all := known ++ named
        readOrder fuel args { o with
          options := if on then all ++ o.options else o.options.filter (!all.contains ·)
          command := o.command || cs.contains 'c'
          fromInput := o.fromInput || cs.contains 's' }
    match arg.toList with
    | ['-'] | ['-', '-'] => .ok { o with operands := args }
    | '-' :: '-' :: _ => .error "Illegal option --"
    | '-' :: cs => letters true cs
    | '+' :: cs => letters false cs
    | _ => .ok { o with operands := arg :: args }

mutual

/-- The atoms of a word; nothing comes back if there is a mistake in it. Whether the word will be divided, is told. -/
def expandPieces : Nat → Bool → Word → State → Option (List Atom) × State
  | 0, _, _, sh => (none, sh)
  | _ + 1, _, [], sh => (some [], sh)
  | fuel + 1, divided, p :: ps, sh =>
    let (here, sh) : Option (List Atom) × State := match p with
      | .plain c => (some [.char c false false], sh)
      | .guarded c => (some [.char c true false], sh)
      | .quotes =>
        let onlyArguments := sh.arguments.isEmpty && match ps with
          | .parameter "@" true :: _ => true
          | _ => false
        (some (if onlyArguments then [] else [.mark]), sh)
      | .parameter name inQuotes =>
        if name = "@" || name = "*" then (some (sh.argumentAtoms (name = "@") inQuotes divided), sh)
        else match sh.used name with
          | .ok value => (some (atomsOfValue inQuotes value.toList), sh)
          | .error text => (none, sh.mistake text)
      | .ruled name rule word inQuotes => applyRule fuel divided name rule word inQuotes sh
      | .arithmetic expression inQuotes => match expandPieces fuel false expression sh with
        | (none, sh) => (none, sh)
        | (some as, sh) => match evaluate sh.valueOf (textOf as) with
          | .error e => (none, sh.mistake (e.message (textOf as)))
          | .ok (n, set) =>
            let assigned := set.foldl (fun (r : Except String State) (name, n) =>
              r.bind fun sh => sh.assign name (toString n)) (.ok sh)
            match assigned with
            | .error text => (none, sh.mistake text)
            | .ok sh => (some (atomsOfValue inQuotes (toString n).toList), sh)
      | .output script inQuotes =>
        let (value, sh) := capture fuel script sh
        (some (atomsOfValue inQuotes value), sh)
    match here with
    | none => (none, sh)
    | some first => match expandPieces fuel divided ps sh with
      | (none, sh) => (none, sh)
      | (some others, sh) => (some (first ++ others), sh)
termination_by structural fuel => fuel

/-- What a rule makes of the value of a parameter. -/
def applyRule : Nat → Bool → String → Rule → Word → Bool → State → Option (List Atom) × State
  | 0, _, _, _, _, _, sh => (none, sh)
  | fuel + 1, divided, name, rule, word, inQuotes, sh =>
    let value := sh.valueOf name
    let missing (emptyToo : Bool) : Bool :=
      if name = "@" || name = "*" then sh.arguments.isEmpty && emptyToo || isMissing emptyToo value
      else isMissing emptyToo value
    let given : List Atom := if name = "@" || name = "*" then sh.argumentAtoms (name = "@") inQuotes divided
      else atomsOfValue inQuotes (value.getD "").toList
    let substitute : Option (List Atom) × State := match expandPieces fuel divided (sh.homeFirst (fun _ => false) word) sh with
      | (none, sh) => (none, sh)
      | (some as, sh) => (some (if inQuotes then as else dividing as), sh)
    match rule with
    | .fallback emptyToo => if missing emptyToo then substitute else (some given, sh)
    | .instead emptyToo => if missing emptyToo then (some [], sh) else substitute
    | .assign emptyToo =>
      if !missing emptyToo then (some given, sh)
      else match expandPieces fuel false (sh.homeFirst (fun _ => false) word) sh with
        | (none, sh) => (none, sh)
        | (some as, sh) =>
          if !isName name then (none, sh.mistake (name ++ ": bad variable name"))
          else match sh.assign name (textOf as) with
            | .ok sh => (some (atomsOfValue inQuotes (textOf as).toList), sh)
            | .error text => (none, sh.mistake text)
    | .demand emptyToo =>
      if !missing emptyToo then (some given, sh)
      else if word.isEmpty then
        (none, sh.mistake (name ++ ": parameter not set" ++ if emptyToo then " or null" else ""))
      else match expandPieces fuel false word sh with
        | (none, sh) => (none, sh)
        | (some as, sh) => (none, sh.mistake (name ++ ": " ++ textOf as))
    | .length => match sh.used name with
      | .ok value => (some (atomsOfValue inQuotes (decimal value.length).toList), sh)
      | .error text => (none, sh.mistake text)
    | .without atEnd longest => match sh.used name with
      | .error text => (none, sh.mistake text)
      | .ok value => match expandPieces fuel false (sh.homeFirst (fun _ => false) word) sh with
        | (none, sh) => (none, sh)
        | (some as, sh) => (some (atomsOfValue inQuotes (trimmed atEnd longest (fieldOf as) value.toList)), sh)
    | .unknown => (none, sh.mistake "Bad substitution")
termination_by structural fuel => fuel

/-- What a script writes, without the line ends at its end. -/
def capture : Nat → List Script → State → List Char × State
  | 0, _, sh => ([], sh)
  | fuel + 1, script, sh =>
    let sh := sh.makeRoom
    let ended := runCopy fuel script (sh.copied.attach 1 (.pipe [] []))
    let written := (ended.2.unread 1).filter (· != '\x00')
    let (_, after) := sh.afterEnd ended
    (withoutLineEnds written, { after with status := sh.status, lastOutput := some after.status })
termination_by structural fuel => fuel

/-- The fields that words come to. -/
def expandWords : Nat → List Word → State → Option (List String) × State
  | 0, _, sh => (none, sh)
  | _ + 1, [], sh => (some [], sh)
  | fuel + 1, w :: ws, sh => match expandPieces fuel true (sh.homeFirst (fun _ => false) w) sh with
    | (none, sh) => (none, sh)
    | (some as, sh) =>
      let fields := fieldsOf sh.separators as
      let here := if sh.has 'f' then fields.map fieldText else (fields.map (expandField sh.files)).flatten
      match expandWords fuel ws sh with
      | (none, sh) => (none, sh)
      | (some others, sh) => (some (here ++ others), sh)
termination_by structural fuel => fuel

/-- The words of a command: those up to its name, and the others. To some commands, a word that sets a variable comes
    undivided. -/
def expandCommand : Nat → List Word → State → Option (List String) × State
  | 0, _, sh => (none, sh)
  | _ + 1, [], sh => (some [], sh)
  | fuel + 1, w :: ws, sh => match expandWords fuel [w] sh with
    | (none, sh) => (none, sh)
    | (some [], sh) => expandCommand fuel ws sh
    | (some here, sh) =>
      let name := match here, ws with
        | ["command"], w :: _ => (plainText? w).getD ""
        | _, _ => here.headD ""
      let rest := if takesAssignments name && ((sh.functionOf? name).isNone || isSpecial name)
        then expandArguments fuel ws sh else expandWords fuel ws sh
      match rest with
      | (none, sh) => (none, sh)
      | (some others, sh) => (some (here ++ others), sh)
termination_by structural fuel => fuel

/-- Words of which those that set a variable stay undivided. -/
def expandArguments : Nat → List Word → State → Option (List String) × State
  | 0, _, sh => (none, sh)
  | _ + 1, [], sh => (some [], sh)
  | fuel + 1, w :: ws, sh =>
    let here := match assignment? w with
      | none => expandWords fuel [w] sh
      | some (name, value) => match expandText fuel (sh.homesWithin (value.length + 1) value) sh with
        | (none, sh) => (none, sh)
        | (some text, sh) => (some [name ++ "=" ++ text], sh)
    match here with
    | (none, sh) => (none, sh)
    | (some first, sh) => match expandArguments fuel ws sh with
      | (none, sh) => (none, sh)
      | (some others, sh) => (some (first ++ others), sh)
termination_by structural fuel => fuel

/-- The text of a word that is not divided. -/
def expandText : Nat → Word → State → Option String × State
  | 0, _, sh => (none, sh)
  | fuel + 1, w, sh => match expandPieces fuel false w sh with
    | (none, sh) => (none, sh)
    | (some as, sh) => (some (textOf as), sh)
termination_by structural fuel => fuel

/-- Makes redirections one after the other; whether all could be made, and whether a mistake ends the script. -/
def applyRedirects : Nat → List Redirect → State → Except Bool Unit × State
  | 0, _, sh => (.error true, sh)
  | _ + 1, [], sh => (.ok (), sh)
  | fuel + 1, .mk descriptor kind target :: rs, sh =>
    let w := match kind with
      | .text _ => target
      | _ => sh.homeFirst (fun _ => false) target
    match expandText fuel w sh with
    | (none, sh) => (.error true, sh)
    | (some text, sh) => match sh.redirect kind descriptor text with
      | .error e => (.error (e.startsWith "Syntax error"), sh.mistake e)
      | .ok sh => applyRedirects fuel rs sh
termination_by structural fuel => fuel

/-- Sets variables one after the other; what stands in front of a command is marked for the programs that it runs. -/
def assignAll : Nat → Bool → List (String × Word) → State → Option (List String) × State
  | 0, _, _, sh => (none, sh)
  | _ + 1, _, [], sh => (some [], sh)
  | fuel + 1, marked, (name, w) :: rest, sh =>
    match expandText fuel (sh.homesWithin (w.length + 1) w) sh with
    | (none, sh) => (none, sh)
    | (some value, sh) => match sh.assign name value with
      | .error text => (none, sh.mistake text)
      | .ok sh =>
        let sh := if marked then
            sh.setVariable name { (sh.variableOf? name).getD ⟨none, false, false⟩ with exported := true }
          else sh
        match assignAll fuel marked rest sh with
        | (none, sh) => (none, sh)
        | (some shown, sh) => (some ((name ++ "=" ++ value) :: shown), sh)
termination_by structural fuel => fuel

/-- Calls a function. -/
def callFunction : Nat → Script → List String → State → Outcome
  | 0, _, _, sh => (.exiting, sh.setStatus 2)
  | fuel + 1, body, args, sh =>
    if deepest ≤ sh.hidden.length then
      (.exiting, { sh with speaker := none }.mistake
        ("Maximum function recursion depth (" ++ decimal deepest ++ ") reached"))
    else
    let begun := { sh with arguments := args, hidden := [] :: sh.hidden, loops := 0, last := false }
    let (flow, after) := runScript fuel body begun
    let after := after.reveal (after.hidden.headD [])
    (if flow = .returning then .onward else flow,
      { after with arguments := sh.arguments, hidden := sh.hidden, loops := sh.loops, last := sh.last })
termination_by structural fuel => fuel

/-- Runs a command by its name. -/
def runCommand : Nat → String → List String → State → Outcome
  | 0, _, _, sh => (.exiting, sh.setStatus 2)
  | fuel + 1, name, args, sh =>
    match if isSpecial name then none else sh.functionOf? name with
    | some body => callFunction fuel body args sh
    | none =>
      if isOwn name then
        let (flow, after) := runBuiltIn fuel name args { sh with speaker := some name, unsaid := false }
        let after := if after.unsaid then
            ({ after with speaker := some name }.complain (name ++ ": I/O error")).setStatus (max after.status 1)
          else after
        let after := { after with speaker := sh.speaker, unsaid := false }
        (if flow = .failing then (if isSpecial name then .exiting else .onward) else flow, after)
      else runExternal fuel name args sh
termination_by structural fuel => fuel

/-- Runs a command that belongs to the shell. -/
def runBuiltIn : Nat → String → List String → State → Outcome
  | 0, _, _, sh => (.exiting, sh.setStatus 2)
  | fuel + 1, name, args, sh => match sh.runOwn name args with
    | some result => result
    | none => match name with
      | "kill" => runKill fuel args sh
      | "wait" => sh.withLetters "" args fun _ names sh => runWait fuel names sh
      | "eval" =>
        let text := (String.intercalate " " args).toList
        if text.all isBlank then sh.done else runText fuel text sh
      | "." => sh.withLetters "" args fun _ args sh => match args with
        | [] => sh.done
        | path :: _ =>
          let paths := if path.toList.contains '/' then [path]
            else (fields ':' ((sh.variableValue "PATH").getD "").toList).map fun d =>
              if d.isEmpty then path else String.ofList d ++ "/" ++ path
          match paths.filterMap fun p => (sh.files.bytesAt p).toOption.map fun bytes => (p, bytes) with
          | [] => sh.misused (if path.toList.contains '/' then readRefusal path .noEntry else path ++ ": not found")
          | (found, bytes) :: _ =>
            if bytes.isEmpty then sh.done
            else match runText fuel (ofBytesPlain bytes) { sh with speaker := some found } with
              | (.returning, sh) => (.onward, sh)
              | result => result
      | "exec" =>
        let args := if args.head? = some "--" then args.drop 1 else args
        match args with
        | [] => sh.done
        | program :: rest => match sh.find program with
          | .nothing refused status =>
            (.exiting, (sh.complain (program ++ if refused then ": Permission denied" else ": not found")).setStatus status)
          | _ => match runFound fuel program rest { sh with speaker := none } with
            | (.dying n, sh) => (.dying n, sh)
            | (_, sh) => (.exiting, { sh with traps := [] })
      | "command" => match args.dropWhile (· = "-p") with
        | [] => sh.done
        | "-v" :: rest => (rest.head?.map fun name => sh.showCommand name).getD sh.done
        | "-V" :: rest => (rest.head?.map fun name => sh.describeNames [name]).getD sh.done
        | "--" :: program :: rest | program :: rest =>
          let sh := { sh with speaker := none }
          if program.startsWith "-" && program.length = 2 then
            { sh with speaker := some "command" }.misused ("Illegal option " ++ program)
          else if isOwn program then
            let (flow, after) := runBuiltIn fuel program rest { sh with speaker := some program }
            (if flow = .failing then .onward else flow, after)
          else runExternal fuel program rest sh
      | _ => sh.doneWith 127
termination_by structural fuel => fuel

/-- Sends signals. Only the shell itself and what it started are known. -/
def runKill : Nat → List String → State → Outcome
  | 0, _, sh => (.exiting, sh.setStatus 2)
  | fuel + 1, args, sh => match aim args with
    | .wrong text => sh.misused text
    | .list number => sh.listSignals number
    | .send signal targets => sendAll fuel signal targets (sh.setStatus 0)
termination_by structural fuel => fuel

def sendAll : Nat → Nat → List String → State → Outcome
  | 0, _, _, sh => (.exiting, sh.setStatus 2)
  | _ + 1, _, [], sh => (.onward, sh)
  | fuel + 1, signal, target :: targets, sh =>
    let number := String.ofList (target.toList.dropWhile (· = '-'))
    let unknown (sh : State) : State := (sh.complain "No such process\n").setStatus 1
    match if target.startsWith "%" then (sh.jobNamed target).map fun _ => none else (wholeNumber number).map some with
    | .error text => sh.misused text
    | .ok none => sendAll fuel signal targets (unknown sh)
    | .ok (some n) =>
      if n = sh.process || n = 0 then match if signal = 0 then (.onward, sh) else receive fuel signal sh with
        | (.onward, sh) => sendAll fuel signal targets sh
        | stopped => stopped
      else if n = sh.number || sh.waiting.contains n then
        sendAll fuel signal targets (if signal = 0 then sh else { sh with sent := sh.sent ++ [(n, signal)] })
      else match sh.jobs.find? (·.number == n) with
        | some j =>
          if j.ending.isSome && (j.awaited || j.due < sh.clock) then sendAll fuel signal targets (unknown sh)
          else
            let sh := if isDeadly signal && j.ending.isNone then sh.noteEnding n (.killed signal) else sh
            sendAll fuel signal targets sh
        | none => sendAll fuel signal targets (unknown sh)
termination_by structural fuel => fuel

/-- What a signal does to this process. -/
def receive : Nat → Nat → State → Outcome
  | 0, _, sh => (.exiting, sh.setStatus 2)
  | fuel + 1, signal, sh => match sh.trapOf? signal with
    | none => if isDeadly signal then (.dying signal, sh) else (.onward, sh)
    | some action => match runText fuel action.toList { sh with speaker := none } with
      | (.onward, after) => (.onward, { after with speaker := sh.speaker }.setStatus sh.status)
      | stopped => stopped
termination_by structural fuel => fuel

/-- What the signals do to this process that it has been sent in the meantime. -/
def receiveAll : Nat → State → Outcome
  | 0, sh => (.exiting, sh.setStatus 2)
  | fuel + 1, sh => match sh.sent.find? (·.1 == sh.process) with
    | none => (.onward, sh)
    | some (target, signal) => match receive fuel signal { sh with sent := sh.sent.erase (target, signal) } with
      | (.onward, sh) => receiveAll fuel sh
      | stopped => stopped
termination_by structural fuel => fuel

/-- Looks for a command outside of the shell, and runs it. -/
def runExternal : Nat → String → List String → State → Outcome
  | 0, _, _, sh => (.exiting, sh.setStatus 2)
  | fuel + 1, name, args, sh => match runFound fuel name args sh.makeRoom with
    | (.dying n, after) =>
      if sh.last then (.dying n, after) else (.onward, (after.tellSignal n).setStatus (128 + n))
    | (_, after) => (.onward, after)
termination_by structural fuel => fuel

/-- Runs what a name leads to outside of the shell, and tells how that ended. -/
def runFound : Nat → String → List String → State → Outcome
  | 0, _, _, sh => (.exiting, sh.setStatus 2)
  | fuel + 1, name, args, sh =>
    let found := sh.find name
    let sh := if found.isSome then sh.openEarly else sh
    match found with
    | .nothing refused status =>
      (.onward, (sh.complain (name ++ if refused then ": Permission denied" else ": not found")).setStatus status)
    | .text path content => match interpreter? content with
      | some (interpreter, options) => match findAt interpreter sh.files with
        | .nothing refused _ =>
          (.onward, (sh.complain (name ++ if refused then ": Permission denied" else ": not found")).setStatus
            (if refused then 126 else 127))
        | _ => runFound fuel interpreter (options ++ path :: args) sh
      | none => match runWhole fuel content (sh.nested path args) with
        | (flow, copy) => (flow, (copy.afterCopy sh).setStatus (copy.status % 256))
    | .program _ program =>
      if ["sh", "dash", "bash"].contains program then
        match runNested fuel name args sh with
        | (flow, copy) => (flow, (copy.afterCopy sh).setStatus (copy.status % 256))
      else match start program (sh.call name args) with
        | .instead order => runInstead fuel program order sh
        | .each commands taken combine => runCommands fuel program commands [] combine (sh.take 0 taken)
        | .report r =>
          let after := sh.afterReport program r
          if program = "sleep" && after.status = 0 then
            runDue fuel { after with clock := after.clock + (args.filterMap milliseconds?).foldl (· + ·) 0 }
          else (.onward, after)
termination_by structural fuel => fuel

/-- Runs a program in the place of another one that was asked to start it. -/
def runInstead : Nat → String → Instead → State → Outcome
  | 0, _, _, sh => (.exiting, sh.setStatus 2)
  | fuel + 1, starter, order, sh =>
    let base := if order.cleared then { sh with bindings := sh.bindings.filter fun (_, v) => !v.exported } else sh
    let begun := order.settings.foldl (fun (sh : State) setting => match setting with
      | (name, some value) => sh.setVariable name ⟨some value, true, false⟩
      | (name, none) => { sh with bindings := sh.bindings.filter (·.1 != name) }) base
    let wrongDirectory := order.directory.filter fun path => !sh.files.holdsDirectory path
    let begun := match order.directory.map fun path => begun.files.resolve true path with
      | some (.ok t) => { begun with files := { begun.files with workplace := t.place } }
      | _ => begun
    if let some path := wrongDirectory then
      let text := starter ++ ": cannot change directory to " ++ Programs.quoted path ++ ": No such file or directory\n"
      (.onward, (sh.write 2 text.toList).2.setStatus 125)
    else
    let begun := if (begun.variableValue "PATH").isSome then begun
      else begun.setVariable "PATH" ⟨some "/bin:/usr/bin", false, false⟩
    match begun.find order.command with
    | .nothing refused _ =>
      let why := if refused then "Permission denied" else "No such file or directory"
      let shownName := if order.quotes then Programs.quoted order.command else order.command
      let text := starter ++ ": " ++ order.refusal ++ shownName ++ ": " ++ why ++ "\n"
      (.onward, (sh.write 2 text.toList).2.setStatus (if refused then 126 else 127))
    | _ =>
      let (flow, after) := runFound fuel order.command order.args begun
      let after := { after with bindings := sh.bindings, files := { after.files with workplace := sh.files.workplace } }
      match order.limit with
      | none => (flow, after)
      | some (limit, status) =>
        if sh.clock + limit < after.clock then
          (if status = 137 then .dying 9 else .onward,
            { sh with clock := sh.clock + limit, channels := after.channels }.setStatus status)
        else (flow, after)
termination_by structural fuel => fuel

/-- Runs programs one after the other for a program that was asked to start them. -/
def runCommands : Nat → String → List (List String) → List Nat → (List Nat → Nat) → State → Outcome
  | 0, _, _, _, _, sh => (.exiting, sh.setStatus 2)
  | _ + 1, _, [], statuses, combine, sh => (.onward, sh.setStatus (combine statuses.reverse))
  | fuel + 1, starter, [] :: rest, statuses, combine, sh => runCommands fuel starter rest statuses combine sh
  | fuel + 1, starter, (command :: args) :: rest, statuses, combine, sh => match sh.find command with
    | .nothing refused status =>
      let why := if refused then "Permission denied" else "No such file or directory"
      (.onward, ((sh.write 2 (starter ++ ": " ++ command ++ ": " ++ why ++ "\n").toList).2).setStatus status)
    | _ => match runFound fuel command args sh with
      | (.dying n, sh) =>
        if starter = "xargs" then
          let text := starter ++ ": " ++ command ++ ": terminated by signal " ++ decimal n ++ "\n"
          (.onward, (sh.write 2 text.toList).2.setStatus 125)
        else runCommands fuel starter rest (1 :: statuses) combine sh
      | (_, sh) =>
        if sh.status = 255 && starter = "xargs" then
          let text := starter ++ ": " ++ command ++ ": exited with status 255; aborting\n"
          (.onward, (sh.write 2 text.toList).2.setStatus 124)
        else runCommands fuel starter rest (sh.status :: statuses) combine sh
termination_by structural fuel => fuel

/-- Runs the shell as a program: with a script in an argument, in a file, or in its input. -/
def runNested : Nat → String → List String → State → Outcome
  | 0, _, _, sh => (.exiting, sh.setStatus 2)
  | fuel + 1, name, args, sh => match readOrder (args.length + 1) args ⟨[], false, false, []⟩ with
    | .error text => (.exiting, ((sh.nested name []).setLine 0).mistake text)
    | .ok order =>
      let begin (zero : String) (args : List String) (sh : State) : State :=
        { sh.nested zero args with options := order.options }
      match order.command, order.fromInput, order.operands with
      | true, _, [] => (.exiting, ((sh.nested name []).setLine 0).mistake "-c requires an argument")
      | true, _, [script] => runWhole fuel script.toList (begin name [] sh)
      | true, _, script :: zero :: args => runWhole fuel script.toList (begin zero args sh)
      | false, true, args =>
        let text := sh.unread 0
        runWhole fuel text (begin name args (sh.take 0 text.length))
      | false, false, [] =>
        let text := sh.unread 0
        runWhole fuel text (begin name [] (sh.take 0 text.length))
      | false, false, path :: args => match sh.files.bytesAt path with
        | .ok bytes => runWhole fuel (ofBytesPlain bytes) (begin path args sh)
        | .error e => (.exiting, ((sh.nested name []).setLine 0).mistake (readRefusal path e))
termination_by structural fuel => fuel

/-- Runs what was started in the background and is due by now. -/
def runDue : Nat → State → Outcome
  | 0, sh => (.exiting, sh.setStatus 2)
  | fuel + 1, sh =>
    match ((sh.jobs.filter (·.ending.isNone)).mergeSort fun a b => a.due ≤ b.due).find? (·.due ≤ sh.clock) with
    | none => (.onward, sh)
    | some j =>
      let now := j.body.take 1 ++ (j.body.drop 1).takeWhile fun s => duration s = 0
      let later := j.body.drop now.length
      let copy := { sh.noteEnding j.number (.exited 0) with
        files := { sh.files with workplace := j.workplace, mask := j.mask }
        number := j.shell, process := j.number, clock := j.began, descriptors := j.descriptors
        arguments := j.arguments, bindings := j.bindings, functions := j.functions
        traps := j.traps.filter fun (_, action) => action.isEmpty
        hidden := [], tested := false, speaker := none, loops := 0, last := later.isEmpty }
      let (flow, copy) := runList fuel now copy
      let left := { copy.afterCopy sh with status := sh.status, clock := sh.clock }
      match flow, later with
      | .onward, next :: _ =>
        let rest := { j with
          began := j.due, due := j.due + duration next, body := later, descriptors := copy.descriptors
          bindings := copy.bindings, functions := copy.functions, workplace := copy.files.workplace
          mask := copy.files.mask, traps := copy.traps }
        runDue fuel { left with jobs := left.jobs.map fun k => if k.number = j.number then rest else k }
      | _, _ =>
        let (flow, copy) := finish fuel (flow, copy)
        let left := { copy.afterCopy sh with status := sh.status, clock := sh.clock }
        runDue fuel (left.noteEnding j.number (match flow with
          | .dying n => .killed n
          | _ => .exited (copy.status % 256)))
termination_by structural fuel => fuel

/-- Lets time pass until what is awaited has ended, or until a signal comes. -/
def passTime : Nat → List Nat → State → Outcome
  | 0, _, sh => (.exiting, sh.setStatus 2)
  | fuel + 1, awaited, sh =>
    if sh.sent.any (·.1 == sh.process) then (.onward, sh)
    else if !sh.jobs.any fun j => j.ending.isNone && awaited.contains j.number then (.onward, sh)
    else
      let next := (sh.jobs.filter (·.ending.isNone)).foldl (fun t j => min t j.due) endlessly
      if endlessly ≤ next then (.onward, sh)
      else match runDue fuel { sh with clock := max sh.clock next } with
        | (.onward, sh) => passTime fuel awaited sh
        | stopped => stopped
termination_by structural fuel => fuel

/-- Waits until what was started in the background has ended. -/
def runWait : Nat → List String → State → Outcome
  | 0, _, sh => (.exiting, sh.setStatus 2)
  | fuel + 1, args, sh =>
    let named := args.filterMap fun arg => (sh.backgroundNamed arg).toOption.join
    let awaited := (if args.isEmpty then sh.ownJobs else named).map Job.number
    match passTime fuel awaited sh with
    | (.onward, sh) => match sh.sent.find? (·.1 == sh.process) with
      | some (_, signal) =>
        if (sh.trapOf? signal).any (·.isEmpty) || !(isDeadly signal || (sh.trapOf? signal).isSome) then
          runWait fuel args { sh with sent := sh.sent.erase (sh.process, signal) }
        else sh.doneWith (128 + signal)
      | none =>
        if args.isEmpty then (awaited.foldl (fun (sh : State) n => sh.noteWaiting n) sh).done
        else sh.tellEndings args 127
    | stopped => stopped
termination_by structural fuel => fuel

def runSimple : Nat → Nat → List Word → List Redirect → State → Outcome
  | 0, _, _, _, sh => (.exiting, sh.setStatus 2)
  | fuel + 1, line, words, redirects, sh =>
    let assignments := (words.takeWhile fun w => (assignment? w).isSome).filterMap assignment?
    if sh.has 'n' then (.onward, sh) else
    match expandCommand fuel (words.drop assignments.length) { sh.setLine line with lastOutput := none } with
    | (none, sh) => (.exiting, sh.setStatus 2)
    | (some expanded, sh) =>
      let name := expanded.headD ""
      let plain := expanded.isEmpty
      match applyRedirects fuel redirects sh with
      | (.error fatal, after) =>
        (if fatal || (!plain && isSpecial name) then .exiting else .onward,
          { after with descriptors := sh.descriptors }.setStatus 2)
      | (.ok (), redirected) =>
        let former := assignments.map fun (n, _) => (n, redirected.variableOf? n)
        match assignAll fuel (!plain) assignments redirected with
        | (none, after) => (.exiting, after.setStatus 2)
        | (some shown, begun) =>
          let words := shown ++ expanded
          let begun := if sh.has 'x' && !words.isEmpty then
              { (trace words { begun with descriptors := sh.descriptors }) with descriptors := begun.descriptors }
            else begun
          if plain then (.onward, { begun with descriptors := sh.descriptors }.setStatus (begun.lastOutput.getD 0))
          else
            let (flow, after) := runCommand fuel name (expanded.drop 1) begun
            let kept := if isSpecial name then after else after.reveal former
            if name = "exec" && expanded.length = 1 then (flow, kept)
            else (flow, { kept with descriptors := sh.descriptors })
termination_by structural fuel => fuel

/-- Runs the stages of a pipeline, each on what the one before it wrote. -/
def runStages : Nat → List Script → State → Outcome
  | 0, _, sh => (.exiting, sh.setStatus 2)
  | _ + 1, [], sh => (.onward, sh)
  | fuel + 1, [last], sh => sh.afterEnd (runCopy fuel [last] sh.copied)
  | fuel + 1, stage :: stages, sh =>
    let begun := { sh.copied.attach 1 (.pipe [] []) with early := sh.early ++ (stages.map openedFirst).flatten }
    let ended := runCopy fuel [stage] begun
    let pipe := (begun.descriptors.find? (·.1 == 1)).map (·.2)
    let (_, after) := sh.afterEnd ended
    let next := { after with
      descriptors := (pipe.toList.map fun n => (0, n)) ++ sh.descriptors.filter (·.1 != 0) }
    let (flow, after) := runStages fuel stages next
    (flow, { after with descriptors := sh.descriptors })
termination_by structural fuel => fuel

/-- Runs a part of a script in a copy of the shell, and at its end what the copy has arranged for that. -/
def runCopy : Nat → List Script → State → Outcome
  | 0, _, sh => (.exiting, sh.setStatus 2)
  | fuel + 1, body, copy => finish fuel (runList fuel body copy)
termination_by structural fuel => fuel

/-- Does at the end of a shell what was arranged for that. -/
def finish : Nat → Outcome → Outcome
  | 0, result => result
  | fuel + 1, (flow, after) => match flow, after.trapOf? 0 with
    | .dying n, _ => (.dying n, after)
    | _, none => (.onward, after)
    | _, some action => match runText fuel action.toList { after with traps := after.traps.filter (·.1 != 0) } with
      | (.onward, last) => (.onward, last.setStatus after.status)
      | (.dying n, last) => (.dying n, last)
      | (_, last) => (.onward, last)
termination_by structural fuel => fuel

def runList : Nat → List Script → State → Outcome
  | 0, _, sh => (.exiting, sh.setStatus 2)
  | _ + 1, [], sh => (.onward, sh)
  | fuel + 1, s :: ss, sh => match runScript fuel s { sh with last := sh.last && ss.isEmpty } with
    | (.onward, after) => match receiveAll fuel { after with last := sh.last } with
      | (.onward, sh) => runList fuel ss sh
      | stopped => stopped
    | stopped => stopped
termination_by structural fuel => fuel

/-- Runs commands of which someone looks at the status. -/
def runTest : Nat → List Script → State → Outcome
  | 0, _, sh => (.exiting, sh.setStatus 2)
  | fuel + 1, test, sh => match runList fuel test { sh with tested := true, last := false } with
    | (flow, after) => (flow, { after with tested := sh.tested, last := sh.last })
termination_by structural fuel => fuel

/-- Rounds of a loop, as long as its test goes the right way. -/
def runLoop : Nat → Bool → List Script → List Script → Nat → State → Outcome
  | 0, _, _, _, _, sh => (.exiting, sh.setStatus 2)
  | fuel + 1, turned, test, body, status, sh => match runTest fuel test sh with
    | (.onward, tested) =>
      if (tested.status = 0) = turned then (.onward, tested.setStatus status)
      else match runList fuel body tested with
        | (.onward, sh) | (.repeating 1, sh) => runLoop fuel turned test body sh.status sh
        | (.leaving 1, sh) => (.onward, sh)
        | (.leaving n, sh) => (.leaving (n - 1), sh)
        | (.repeating n, sh) => (.repeating (n - 1), sh)
        | stopped => stopped
    | (.leaving 1, sh) => (.onward, sh)
    | (.repeating 1, sh) => runLoop fuel turned test body sh.status sh
    | (.leaving n, sh) => (.leaving (n - 1), sh)
    | (.repeating n, sh) => (.repeating (n - 1), sh)
    | stopped => stopped
termination_by structural fuel => fuel

def runEach : Nat → String → List String → List Script → State → Outcome
  | 0, _, _, _, sh => (.exiting, sh.setStatus 2)
  | _ + 1, _, [], _, sh => (.onward, sh)
  | fuel + 1, name, value :: values, body, sh => match sh.assign name value with
    | .error text => (.exiting, sh.mistake text)
    | .ok sh => match runList fuel body sh with
      | (.onward, sh) | (.repeating 1, sh) => runEach fuel name values body sh
      | (.leaving 1, sh) => (.onward, sh)
      | (.leaving n, sh) => (.leaving (n - 1), sh)
      | (.repeating n, sh) => (.repeating (n - 1), sh)
      | stopped => stopped
termination_by structural fuel => fuel

/-- Whether one of the patterns matches the subject; nothing comes back if there is a mistake in them. -/
def matchesAny : Nat → List Word → List Char → State → Option Bool × State
  | 0, _, _, sh => (none, sh)
  | _ + 1, [], _, sh => (some false, sh)
  | fuel + 1, w :: ws, subject, sh => match expandPieces fuel false (sh.homeFirst (fun _ => false) w) sh with
    | (none, sh) => (none, sh)
    | (some as, sh) =>
      if fits (marks (fieldOf as)) subject then (some true, sh) else matchesAny fuel ws subject sh
termination_by structural fuel => fuel

def runCases : Nat → List (List Word × List Script) → List Char → State → Outcome
  | 0, _, _, sh => (.exiting, sh.setStatus 2)
  | _ + 1, [], _, sh => (.onward, sh.setStatus 0)
  | fuel + 1, (patterns, body) :: branches, subject, sh => match matchesAny fuel patterns subject sh with
    | (none, sh) => (.exiting, sh.setStatus 2)
    | (some true, sh) => runList fuel body (if body.isEmpty then sh.setStatus 0 else sh)
    | (some false, sh) => runCases fuel branches subject sh
termination_by structural fuel => fuel

/-- Starts something in the background. What sleeps there gets to its end only when someone waits for it. -/
def runBackground : Nat → Script → State → Outcome
  | 0, _, sh => (.exiting, sh.setStatus 2)
  | fuel + 1, body, sh =>
    let sh := sh.makeRoom
    let begun := sh.copied.attach 0 .void
    let body := steps body
    let first := (body.head?.map duration).getD 0
    let j := sh.newJob begun.process first body begun.descriptors
    let started := { sh with
      lastNumber := begun.lastNumber, channels := begun.channels, jobs := j :: sh.jobs, job := some j.number, status := 0 }
    if 0 < first then (.onward, started) else runDue fuel started
termination_by structural fuel => fuel

def runScript : Nat → Script → State → Outcome
  | 0, _, sh => (.exiting, sh.setStatus 2)
  | fuel + 1, .simple line words redirects, sh => runSimple fuel line words redirects sh
  | fuel + 1, .group line body redirects, sh =>
    match applyRedirects fuel redirects (if redirects.isEmpty then sh else sh.setLine line) with
    | (.error fatal, after) =>
      (if fatal then .exiting else .onward, { after with descriptors := sh.descriptors }.setStatus 2)
    | (.ok (), redirected) =>
      let (flow, after) := runList fuel body { redirected with last := sh.last && redirects.isEmpty }
      (flow, if redirects.isEmpty then after else { after with descriptors := sh.descriptors, last := sh.last })
  | fuel + 1, .subshell line body redirects, sh => match applyRedirects fuel redirects (sh.setLine line) with
    | (.error fatal, after) =>
      (if fatal then .exiting else .onward, { after with descriptors := sh.descriptors }.setStatus 2)
    | (.ok (), redirected) =>
      let sh := { sh with channels := redirected.channels, files := redirected.files }.makeRoom
      if sh.last then match runCopy fuel body { redirected.copied with process := sh.process } with
        | (.dying n, copy) => (.dying n, copy.afterCopy sh)
        | (_, copy) => (.onward, copy.afterCopy sh)
      else sh.afterEnd (runCopy fuel body redirected.copied)
  | fuel + 1, .pipeline negated stages, sh =>
    let begun := if negated then { sh with tested := true, last := false } else sh
    let (flow, after) := match stages with
      | [stage] => runScript fuel stage begun
      | stages => runStages fuel stages { begun.makeRoom with last := false }
    let after := { after with tested := sh.tested, last := sh.last }
    let counts := match stages with
      | [.simple _ _ _] | [.subshell _ _ _] => true
      | [_] => false
      | _ => true
    if negated then (flow, if flow = .onward then after.setStatus (if after.status = 0 then 1 else 0) else after)
    else if flow = .onward && counts && after.has 'e' && !after.tested && after.status != 0 then (.exiting, after)
    else (flow, after)
  | fuel + 1, .both first second, sh => match runTest fuel [first] sh with
    | (.onward, sh) => if sh.status = 0 then runScript fuel second sh else (.onward, sh)
    | stopped => stopped
  | fuel + 1, .either first second, sh => match runTest fuel [first] sh with
    | (.onward, sh) => if sh.status = 0 then (.onward, sh) else runScript fuel second sh
    | stopped => stopped
  | fuel + 1, .background body, sh => runBackground fuel body sh
  | fuel + 1, .choice test yes no, sh => match runTest fuel test sh with
    | (.onward, tested) =>
      if tested.status = 0 then runList fuel yes tested
      else if no.isEmpty then (.onward, tested.setStatus 0)
      else runList fuel no tested
    | stopped => stopped
  | fuel + 1, .loop turned test body, sh =>
    let (flow, after) := runLoop fuel turned test body 0 { sh with loops := sh.loops + 1, last := false }
    (flow, { after with loops := sh.loops, last := sh.last })
  | fuel + 1, .forEach line name words body, sh => match expandWords fuel words (sh.setLine line) with
    | (none, sh) => (.exiting, sh.setStatus 2)
    | (some values, sh) =>
      let (flow, after) := runEach fuel name values body { sh with
        loops := sh.loops + 1, last := false, status := if values.isEmpty then 0 else sh.status }
      (flow, { after with loops := sh.loops, last := sh.last })
  | fuel + 1, .cases line subject branches, sh =>
    match expandText fuel (sh.homeFirst (fun _ => false) subject) (sh.setLine line) with
    | (none, sh) => (.exiting, sh.setStatus 2)
    | (some text, sh) => runCases fuel branches text.toList sh
  | _ + 1, .define name body, sh => (.onward, sh.define name body)
termination_by structural fuel => fuel

/-- Runs the lines of a script one after the other. A line that cannot be read ends it. -/
def runLines : Nat → Reading → State → Outcome
  | 0, _, sh => (.exiting, sh.setStatus 2)
  | fuel + 1, r, sh => match readScriptLine { r with aliases := sh.aliases } with
    | .error e => (.exiting, (sh.setLine e.line).mistake e.text)
    | .ok (none, _) => (.onward, sh)
    | .ok (some line, r) => match if sh.has 'n' then (.onward, sh) else runList fuel line sh with
      | (.onward, sh) => runLines fuel r sh
      | stopped => stopped
termination_by structural fuel => fuel

def runText : Nat → List Char → State → Outcome
  | 0, _, sh => (.exiting, sh.setStatus 2)
  | fuel + 1, text, sh => match runLines fuel (.begin text sh.aliases) { sh with last := false } with
    | (flow, after) => (flow, { after with last := sh.last })
termination_by structural fuel => fuel

/-- Runs a whole script, and at its end what was arranged for that. -/
def runWhole : Nat → List Char → State → Outcome
  | 0, _, sh => (.exiting, sh.setStatus 2)
  | fuel + 1, text, sh => finish fuel (runText fuel text sh)
termination_by structural fuel => fuel

end

end State

/-- More steps than a sensible command takes. -/
def patience : Nat := 200000

/-- Runs a program of the machine to its end, without input and with no one who reads its output. -/
def runAlone (path : String) (args : List String) (fs : Files) : Ending × Files :=
  let inside := fs.mapNames octets
  let (flow, after) := State.runFound patience (octets path) (args.map octets) (.fresh (octets path) inside)
  let files := after.files.mapNames ofOctets
  let files := { files with workplace := fs.workplace, mask := fs.mask }
  match flow with
  | .dying signal => (.killed signal, files)
  | _ => (.exited (after.status % 256), files)

/-- The length from which on an argument is refused, in bytes. -/
def argumentLimit : Nat := 131072

/-- What a program name leads to, at its path or in the usual directories. What is found but cannot be run decides only
    when nothing else is found. -/
def findProgram (name : String) (fs : Files) : Except OsError Entry :=
  let runnable (path : String) : Except OsError Entry := match fs.stat path with
    | .ok e => if e.isDirectory || !e.isExecutable then .error .permissionDenied else .ok e
    | .error e => .error e
  if name.isEmpty then .error .noEntry
  else if name.toList.contains '/' then runnable name
  else if Files.maxName < name.utf8ByteSize then .error .nameTooLong
  else Files.programDirectories.foldl (fun (found : Except OsError Entry) directory => match found with
    | .ok e => .ok e
    | .error before => match runnable (directory ++ "/" ++ name) with
      | .ok e => .ok e
      | .error .permissionDenied => .error .permissionDenied
      | .error _ => .error before) (.error .noEntry)

/-- Starts a shell by its name and has it run a command line. -/
def runCommandLine (shell command : String) (fs : Files) : Except OsError Ending × Files :=
  if holdsNul shell || holdsNul command then (.error .nulInArgument, fs)
  else
    match findProgram shell fs with
    | .error e => (.error e, fs)
    | .ok e =>
      if argumentLimit ≤ command.utf8ByteSize + 1 then (.error .argumentListTooLong, fs)
      else
        let ran : Except OsError Ending × Files :=
          let (ending, files) := runAlone shell ["-c", command] fs
          (.ok ending, files)
        match e.content with
        | .program _ => ran
        | .file bytes => match State.interpreter? (ofBytesPlain bytes) with
          | none => (.error .notExecutable, fs)
          | some (path, _) => match findProgram path fs with
            | .ok _ => ran
            | .error e => (.error e, fs)
        | _ => (.error .notExecutable, fs)

end KeyFeed.Host.Shell
