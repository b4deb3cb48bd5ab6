import KeyFeed.Host.Programs.Call
import KeyFeed.Host.Programs.Mode
import KeyFeed.Host.Programs.Printing
import KeyFeed.Host.Programs.Tests
import KeyFeed.Host.Shell.State

/-! The commands that belong to the shell itself and need nothing but its state. What they are told to do with a wrong
    argument is a mistake, of which they complain in their own name. -/

namespace KeyFeed.Host.Shell
open Text Programs

/-- A text in quotes that a script can read again. -/
def quotedForScript (s : String) : String :=
  let quoted := s.toList.map fun c => if c = '\x27' then ['\x27', '"', '\x27', '"', '\x27'] else [c]
  String.ofList ('\x27' :: quoted.flatten ++ ['\x27'])

namespace State

abbrev Outcome := Flow × State

def done (sh : State) : Outcome := (.onward, sh.setStatus 0)

def doneWith (status : Nat) (sh : State) : Outcome := (.onward, sh.setStatus status)

/-- A mistake in the use of a command. -/
def misused (text : String) (sh : State) : Outcome := (.failing, sh.mistake text)

/-- Does something for each argument until one of them is a mistake. -/
def eachArgument (act : String → State → Except String State) (args : List String) (sh : State) : Outcome :=
  match args.foldl (fun (r : Except (String × State) State) arg => match r with
    | .error e => .error e
    | .ok sh => (act arg sh).mapError fun text => (text, sh)) (.ok (sh.setStatus 0)) with
  | .ok sh => (.onward, sh)
  | .error (text, sh) => sh.misused text

/-- Reads the letters of options in front of the operands of a command. -/
def withLetters (letters : String) (args : List String) (sh : State)
    (act : List (Char × String) → List String → State → Outcome) : Outcome :=
  match readOptions ⟨(OptionTable.of letters []).letters, [], true⟩ args with
  | .ok (options, operands) => act options operands sh
  | .error (.needsArgument c) => sh.misused ("No arg for -" ++ String.singleton c ++ " option")
  | .error (.invalid c) => sh.misused ("Illegal option -" ++ String.singleton c)
  | .error _ => sh.misused "Illegal option --"

/-! ### Variables -/

/-- The name and, behind an equals sign, the value that an argument gives. -/
def namedValue (arg : String) : String × Option String :=
  match cut? '=' arg.toList with
  | some (name, value) => (String.ofList name, some (String.ofList value))
  | none => (arg, none)

/-- Changes how a variable is treated, and sets it where a value is given. -/
def declare (mark : Variable → Variable) (arg : String) (sh : State) : Except String State :=
  let (name, value) := namedValue arg
  if !isName name then .error (name ++ ": bad variable name")
  else
    let assigned := match value with
      | some value => sh.assign name value
      | none => .ok sh
    assigned.map fun sh => sh.setVariable name (mark ((sh.variableOf? name).getD ⟨none, false, false⟩))

/-- The variables that are treated in some way, as commands that would make them so. -/
def listDeclared (word : String) (p : Variable → Bool) (sh : State) : Outcome :=
  let chosen := (sh.bindings.filter fun (_, v) => p v).mergeSort fun a b => a.1 ≤ b.1
  done (sh.print (String.join (chosen.map fun (name, v) =>
    word ++ " " ++ name ++ ((v.value.map fun value => "=" ++ quotedForScript value).getD "") ++ "\n")))

def declareAll (word : String) (p : Variable → Bool) (mark : Variable → Variable) (args : List String)
    (sh : State) : Outcome :=
  sh.withLetters "p" args fun options names sh =>
    if options.isEmpty && !names.isEmpty then sh.eachArgument (declare mark) names else sh.listDeclared word p

def unsetOne (functionsOnly : Bool) (name : String) (sh : State) : Except String State :=
  if functionsOnly then .ok { sh with functions := sh.functions.filter (·.1 != name) }
  else if !isName name then .error (name ++ ": bad variable name")
  else match sh.variableOf? name with
    | some ⟨_, _, true⟩ => .error (name ++ ": is read only")
    | _ => .ok { sh with bindings := sh.bindings.filter (·.1 != name) }

def unset (args : List String) (sh : State) : Outcome :=
  sh.withLetters "vf" args fun options names sh =>
    sh.eachArgument (unsetOne ((options.getLast?.map (·.1)) = some 'f')) names

/-- Hides a variable until the function that runs now ends, and sets it where a value is given. -/
def localize (arg : String) (sh : State) : Except String State :=
  let (name, value) := namedValue arg
  match sh.hidden with
  | [] => .error "not in a function"
  | frame :: frames =>
    if !isName name then .error (name ++ ": bad variable name")
    else
      let old := sh.variableOf? name
      let frame := if frame.any (·.1 == name) then frame else (name, old) :: frame
      let sh := { sh with hidden := frame :: frames }
      match value with
      | some value => sh.assign name value
      | none => .ok (if old.isSome then sh else sh.setVariable name ⟨none, false, false⟩)

def listVariables (sh : State) : Outcome :=
  let shown := sh.bindings.filterMap fun (name, v) => v.value.map fun value => (name, value)
  done (sh.print (String.join ((shown.mergeSort fun a b => a.1 ≤ b.1).map fun (name, value) =>
    name ++ "=" ++ quotedForScript value ++ "\n")))

/-! ### Options and arguments -/

/-- The names of the options, and their letters. -/
def optionNames : List (String × Char) :=
  [("errexit", 'e'), ("noglob", 'f'), ("ignoreeof", 'I'), ("interactive", 'i'), ("monitor", 'm'), ("noexec", 'n'),
   ("stdin", 's'), ("xtrace", 'x'), ("verbose", 'v'), ("vi", 'V'), ("emacs", 'E'), ("noclobber", 'C'), ("allexport", 'a'),
   ("notify", 'b'), ("nounset", 'u'), ("privileged", 'p'), ("nolog", '\x01'), ("debug", '\x02')]

/-- Shows which options are on, or the commands that would make them so. -/
def listOptions (asCommands : Bool) (sh : State) : State :=
  let line (name : String) (c : Char) : String :=
    if asCommands then "set " ++ (if sh.has c then "-" else "+") ++ "o " ++ name ++ "\n"
    else name ++ String.ofList (List.replicate (16 - name.length) ' ') ++ (if sh.has c then "on" else "off") ++ "\n"
  sh.print ((if asCommands then "" else "Current option settings\n")
    ++ String.join (optionNames.map fun (name, c) => line name c))

def setOption (on : Bool) (c : Char) (sh : State) : State :=
  let others := sh.options.filter (· != c)
  { sh with options := if on then c :: others else others }

/-- Turns options on or off by the letters of an argument; a letter may ask for a name instead. -/
def setLetters (on : Bool) : List Char → List String → State → Except String (List String × State)
  | [], args, sh => .ok (args, sh)
  | 'o' :: cs, args, sh => match args with
    | [] => setLetters on cs [] (sh.listOptions (!on))
    | name :: args => match optionNames.find? (·.1 == name) with
      | some (_, c) => setLetters on cs args (sh.setOption on c)
      | none => .error ("Illegal option " ++ (if on then "-" else "+") ++ "o " ++ name)
  | c :: cs, args, sh =>
    if optionNames.any (·.2 == c) then setLetters on cs args (sh.setOption on c)
    else .error ("Illegal option " ++ (if on then "-" else "+") ++ String.singleton c)

/-- Reads options in front of the arguments; at most `fuel` of them. The arguments are set if there are any, or if it is
    said that there are none. -/
def setOptions : Nat → List String → State → Except String State
  | 0, _, sh | _, [], sh => .ok sh
  | fuel + 1, arg :: args, sh => match arg.toList with
    | ['-', '-'] => .ok { sh with arguments := args }
    | ['-'] => .ok (if args.isEmpty then sh else { sh with arguments := args })
    | '-' :: cs => match setLetters true cs args sh with
      | .ok (args, sh) => setOptions fuel args sh
      | .error e => .error e
    | '+' :: cs => match setLetters false cs args sh with
      | .ok (args, sh) => setOptions fuel args sh
      | .error e => .error e
    | _ => .ok { sh with arguments := arg :: args }

def setCommand (args : List String) (sh : State) : Outcome :=
  if args.isEmpty then sh.listVariables
  else match setOptions (args.length + 1) args sh with
    | .ok sh => sh.done
    | .error text => sh.misused text

/-- A number that is an argument. -/
def wholeNumber (arg : String) : Except String Nat :=
  match (readDigits? 10 arg.toList).filter (· ≤ 2147483647) with
  | some n => .ok n
  | none => .error ("Illegal number: " ++ arg)

def shift (args : List String) (sh : State) : Outcome :=
  match (args.head?.map wholeNumber).getD (.ok 1) with
  | .error text => sh.misused text
  | .ok n =>
    if sh.arguments.length < n then sh.misused "can't shift that many"
    else { sh with arguments := sh.arguments.drop n }.done

/-- Where reading options has got to: the number of the next argument, and what is left of the current one. -/
structure OptionPlace where
  index : Nat
  current : Option (List Char)

/-- Passes on to the next argument when nothing is left of the current one; nothing comes back where the options end,
    but the number of the next argument. -/
def OptionPlace.advance (args : List String) (p : OptionPlace) : Except Nat (Nat × Char × List Char) :=
  match p.current with
  | some (c :: cs) => .ok (p.index, c, cs)
  | _ => match (args[p.index - 1]?).map String.toList with
    | some ['-', '-'] => .error (p.index + 1)
    | some ('-' :: c :: cs) => .ok (p.index + 1, c, cs)
    | _ => .error p.index

/-- One option out of the arguments; nothing is left to be found where no option stands. -/
def nextOption (letters : String) (name : String) (args : List String) (sh : State) : Outcome :=
  let silent := letters.startsWith ":"
  let index := ((readDigits? 10 ((sh.variableValue "OPTIND").getD "1").toList).getD 1)
  let current := if sh.optionOffset = 0 || index < 2 then none
    else (args[index - 2]?).map fun arg => arg.toList.drop sh.optionOffset
  let finish (status index : Nat) (left : Option (List Char)) (letter : String) (sh : State) : Outcome :=
    let offset := match left, args[index - 2]? with
      | some cs, some arg => arg.length - cs.length
      | _, _ => 0
    let sh := { (sh.bind "OPTIND" (decimal index)).bind name letter with optionOffset := offset }
    sh.doneWith status
  let wrong (index : Nat) (left : Option (List Char)) (c : Char) (sign text : String) : Outcome :=
    if silent then finish 0 index left sign (sh.bind "OPTARG" (String.singleton c))
    else
      let sh := (sh.write 2 (text ++ "\n").toList).2
      finish 0 index left "?" { sh with bindings := sh.bindings.filter (·.1 != "OPTARG") }
  match OptionPlace.advance args ⟨index, current⟩ with
  | .error index => finish 1 index none "?" sh
  | .ok (index, c, cs) => match letters.toList.dropWhile (· != c), c with
    | [], _ | _, ':' => wrong index (some cs) c "?" ("Illegal option -" ++ String.singleton c)
    | _ :: ':' :: _, _ => match cs, args[index - 1]? with
      | _ :: _, _ => finish 0 index none (String.singleton c) (sh.bind "OPTARG" (String.ofList cs))
      | [], some value => finish 0 (index + 1) none (String.singleton c) (sh.bind "OPTARG" value)
      | [], none => wrong index none c ":" ("No arg for -" ++ String.singleton c ++ " option")
    | _, _ => finish 0 index (some cs) (String.singleton c) (sh.bind "OPTARG" "")

def getOptions (args : List String) (sh : State) : Outcome :=
  match args with
  | [] | [_] => sh.misused "Usage: getopts optstring var [arg...]"
  | [letters, name] => sh.nextOption letters name sh.arguments
  | letters :: name :: args => sh.nextOption letters name args

/-! ### Reading -/

/-- The first field of a text, and what stands behind it and one separator. -/
def cutField (separators : List Char) (f : Field) : Option (Field × Field) :=
  let isSeparator (x : Char × Bool) : Bool := !x.2 && separators.contains x.1
  let isBlankHere (x : Char × Bool) : Bool := !x.2 && isBlankSeparator separators x.1
  match f.dropWhile isBlankHere with
  | [] => none
  | g =>
    let field := g.takeWhile (!isSeparator ·)
    let rest := (g.drop field.length).dropWhile isBlankHere
    some (field, match rest with
      | x :: r => if isSeparator x then r.dropWhile isBlankHere else rest
      | [] => [])

/-- Gives the fields of a line to variables; the last of them takes what is left. -/
def assignFields (separators : List Char) : List String → Field → State → Except String State
  | [], _, sh => .ok sh
  | [name], f, sh =>
    let isBlankHere (x : Char × Bool) : Bool := !x.2 && isBlankSeparator separators x.1
    sh.assign name (fieldText (match cutField separators f with
      | none => []
      | some (field, []) => field
      | some _ => ((f.dropWhile isBlankHere).reverse.dropWhile isBlankHere).reverse))
  | name :: names, f, sh => match cutField separators f with
    | none => (sh.assign name "").bind (assignFields separators names [])
    | some (field, rest) => (sh.assign name (fieldText field)).bind (assignFields separators names rest)

/-- The characters of one line, those behind a backslash guarded, how many were read, and whether the line has an
    end. -/
def readLine (raw : Bool) : List Char → Field × Nat × Bool
  | [] => ([], 0, false)
  | '\n' :: _ => ([], 1, true)
  | '\x00' :: cs =>
    let (f, n, ended) := readLine raw cs
    (f, n + 1, ended)
  | '\\' :: c :: cs =>
    if raw then
      let (f, n, ended) := readLine raw (c :: cs)
      (('\\', false) :: f, n + 1, ended)
    else
      let (f, n, ended) := readLine raw cs
      (if c = '\n' then f else (c, true) :: f, n + 2, ended)
  | c :: cs =>
    let (f, n, ended) := readLine raw cs
    (if c = '\\' && !raw then f else (c, false) :: f, n + 1, ended)

def read (args : List String) (sh : State) : Outcome :=
  let table : OptionTable := ⟨[('r', false), ('p', true)], [], true⟩
  match readOptions table args with
  | .error (.invalid c) => sh.misused ("Illegal option -" ++ String.singleton c)
  | .error _ => sh.misused "No arg for -p option"
  | .ok (_, []) => sh.misused "arg count"
  | .ok (options, names) =>
    let (line, n, ended) := readLine (options.any (·.1 == 'r')) (sh.unread 0)
    match names.find? fun name => !isName name with
    | some name => sh.misused (name ++ ": bad variable name")
    | none => match assignFields sh.separators names line (sh.take 0 n) with
      | .ok sh => sh.doneWith (if ended then 0 else 1)
      | .error text => sh.misused text

/-! ### Directories -/

/-- A path from the root, with the steps up in it taken. Two slashes in front are kept. -/
def straightPath (current path : String) : String :=
  let names := (if isAbsolute path then [] else pathNames current) ++ pathNames path
  let straight := names.foldl (fun (done : List String) name =>
    if name = "." then done else if name = ".." then done.dropLast else done ++ [name]) []
  let twice := match (if isAbsolute path then path else current).toList with
    | '/' :: '/' :: c :: _ => c != '/'
    | ['/', '/'] => true
    | _ => false
  (if twice then "//" else "/") ++ String.intercalate "/" straight

/-- The paths at which a directory is looked for, and whether it is told that it was found there. -/
def directoryChoices (wanted : String) (sh : State) : List (String × Bool) :=
  let fixed := match wanted.toList with
    | '/' :: _ | ['.'] | '.' :: '/' :: _ | ['.', '.'] | '.' :: '.' :: '/' :: _ => true
    | _ => false
  let wanted := if wanted.isEmpty then "." else wanted
  let listed := if fixed then [] else ((sh.variableValue "CDPATH").map fun path => fields ':' path.toList).getD []
  let places := listed.map fun d => (if d.isEmpty then wanted else String.ofList d ++ "/" ++ wanted, !d.isEmpty)
  (places.filter fun (path, _) => sh.files.holdsDirectory path) ++ [(wanted, false)]

def changeDirectory (args : List String) (sh : State) : Outcome :=
  sh.withLetters "LP" args fun options args sh =>
    let physical := (options.getLast?.map (·.1)) = some 'P'
    let back := args.head? = some "-"
    let wanted := match args with
      | [] => (sh.variableValue "HOME").getD ""
      | path :: _ => if back then (sh.variableValue "OLDPWD").getD "" else path
    let current := (sh.variableValue "PWD").getD "/"
    let (found, told) := ((sh.directoryChoices wanted).head?).getD (wanted, false)
    let path := if physical then found else straightPath current found
    match sh.files.resolve true path, sh.files.holdsDirectory path with
    | .ok t, true =>
      let place := if physical then "/" ++ String.intercalate "/" t.place else path
      let exported (value : String) : Variable := ⟨some value, true, false⟩
      let sh := (sh.setVariable "OLDPWD" (exported current)).setVariable "PWD" (exported place)
      let sh := { sh with files := { sh.files with workplace := t.place } }
      (if back || told then sh.print (place ++ "\n") else sh).done
    | _, _ => sh.misused ("can't cd to " ++ wanted)

def printDirectory (args : List String) (sh : State) : Outcome :=
  sh.withLetters "LP" args fun options _ sh =>
    let physical := "/" ++ String.intercalate "/" sh.files.workplace
    let inside := (options.getLast?.map (·.1)) = some 'P'
    done (sh.print ((if inside then physical else (sh.variableValue "PWD").getD physical) ++ "\n"))

/-- Shows or sets the permission bits that new files do not get. -/
def setMask (args : List String) (sh : State) : Outcome :=
  sh.withLetters "S" args fun options args sh =>
  let given := withoutBits 0o777 sh.files.mask
  match args with
  | [] =>
    if options.isEmpty then done (sh.print ("0" ++ String.ofList (padded 3 (Nat.toDigits 8 sh.files.mask)) ++ "\n"))
    else
      let part (who : String) (n : Nat) : String := who ++ "=" ++ String.ofList (modeLetters (n % 8))
      done (sh.print (String.intercalate "," [part "u" (given / 64), part "g" (given / 8), part "o" given] ++ "\n"))
  | arg :: _ =>
    let digits := arg.toList.head?.any isAsciiDigit
    let mask := if digits then (readDigits? 8 arg.toList).filter (· ≤ 0o777)
      else (changedMode? true 0 arg given).map fun mode => withoutBits 0o777 mode
    match mask with
    | some mask => done { sh with files := { sh.files with mask := mask } }
    | none => sh.misused ((if digits then "Illegal number: " else "Illegal mode: ") ++ arg)

/-! ### Names -/

/-- What a command name means to the shell. -/
inductive Meaning where
  | keyword
  | alias (text : String)
  | function
  | own
  | program (path : String)
  | unknown

def meaningOf (name : String) (sh : State) : Meaning :=
  if reservedWords.contains name then .keyword
  else match sh.aliases.find? (·.1 == name) with
    | some (_, text) => .alias text
    | none =>
      if isSpecial name then .own
      else if (sh.functionOf? name).isSome then .function
      else if isOwn name then .own
      else match sh.find name with
        | .program path _ | .text path _ => .program path
        | .nothing _ _ => .unknown

/-- How the shell would tell what a name means; whether it means anything. -/
def describeName (name : String) (sh : State) : Bool × State :=
  match sh.meaningOf name with
  | .keyword => (true, sh.print (name ++ " is a shell keyword\n"))
  | .alias text => (true, sh.print (name ++ " is an alias for " ++ text ++ "\n"))
  | .function => (true, sh.print (name ++ " is a shell function\n"))
  | .own => (true, sh.print (name ++ (if isSpecial name then " is a special shell builtin\n" else " is a shell builtin\n")))
  | .program path => (true, sh.print (name ++ " is " ++ path ++ "\n"))
  | .unknown => (false, sh.print (name ++ ": not found\n"))

def describeNames (names : List String) (sh : State) : Outcome :=
  let (known, sh) := names.foldl (fun (all, sh) name =>
    let (known, sh) := describeName name sh
    (all && known, sh)) (true, sh)
  sh.doneWith (if known then 0 else 127)

/-- The command that a name stands for, as it could be used. -/
def showCommand (name : String) (sh : State) : Outcome :=
  match sh.meaningOf name with
  | .alias text => done (sh.print ("alias " ++ name ++ "=" ++ quotedForScript text ++ "\n"))
  | .program path => done (sh.print (path ++ "\n"))
  | .unknown => sh.doneWith 127
  | _ => done (sh.print (name ++ "\n"))

def setAliases (args : List String) (sh : State) : Outcome :=
  let shown (name text : String) : String := name ++ "=" ++ quotedForScript text ++ "\n"
  if args.isEmpty then done (sh.print (String.join (sh.aliases.map fun (name, text) => shown name text)))
  else args.foldl (fun (r : Outcome) arg =>
    let sh := r.2
    match namedValue arg with
    | (name, some text) =>
      if name.isEmpty then (.onward, sh)
      else (.onward, { sh with aliases := (name, text) :: sh.aliases.filter (·.1 != name) })
    | (name, none) => match sh.aliases.find? (·.1 == name) with
      | some (_, text) => (.onward, sh.print (shown name text))
      | none => ((.onward, (sh.write 2 ("alias: " ++ name ++ " not found\n").toList).2.setStatus 1))) sh.done

def removeAliases (args : List String) (sh : State) : Outcome :=
  sh.withLetters "a" args fun options names sh =>
  if !options.isEmpty then done { sh with aliases := [] }
  else names.foldl (fun (r : Outcome) name =>
    let sh := r.2
    if sh.aliases.any (·.1 == name) then (.onward, { sh with aliases := sh.aliases.filter (·.1 != name) })
    else (.onward, (sh.write 2 ("unalias: " ++ name ++ " not found\n").toList).2.setStatus 1)) sh.done

/-! ### Signals -/

/-- What a shell calls a signal. Some have no names but their numbers. -/
def nameOfSignal (n : Nat) : String :=
  if n = 16 || n = 32 || n = 33 then decimal n
  else if n = 34 then "RTMIN"
  else if n = 64 then "RTMAX"
  else if 34 < n && n < 50 then "RTMIN+" ++ decimal (n - 34)
  else if 50 ≤ n then "RTMAX-" ++ decimal (64 - n)
  else (signalName? n).getD (decimal n)

/-- The signal that a number or a name, in letters of either case, stands for. -/
def signalOf? (arg : String) : Option Nat :=
  match readDigits? 10 arg.toList with
  | some n => if n < 65 then some n else none
  | none =>
    let name := String.ofList (arg.toList.map Char.toUpper)
    (List.range' 1 64).find? fun n => nameOfSignal n = name

/-- The condition, by its name or number, for which something can be arranged. -/
def condition? (name : String) : Option Nat :=
  if name.toList.map Char.toUpper = "EXIT".toList then some 0 else signalOf? name

def conditionName (n : Nat) : String := if n = 0 then "EXIT" else nameOfSignal n

/-- Arranges what is done when a signal arrives, or that nothing is arranged any more. -/
def arrange (args : List String) (sh : State) : Outcome :=
  sh.withLetters "" args fun _ args sh =>
  let (action, names) := match args with
    | [] => (none, [])
    | [name] => (none, [name])
    | action :: names =>
      if (condition? action).isSome then (none, action :: names)
      else if action = "-" then (none, names)
      else (some action, names)
  if args.isEmpty then
    let traps := sh.traps.mergeSort fun a b => a.1 ≤ b.1
    done (sh.print (String.join (traps.map fun (n, action) =>
      "trap -- " ++ quotedForScript action ++ " " ++ conditionName n ++ "\n")))
  else names.foldl (fun (r : Outcome) name =>
    let sh := r.2
    if r.2.status != 0 then r
    else match condition? name with
      | none => (.onward, (sh.write 2 ("trap: " ++ name ++ ": bad trap\n").toList).2.setStatus 1)
      | some n =>
        let others := sh.traps.filter (·.1 != n)
        (.onward, { sh with traps := (action.toList.map fun action => (n, action)) ++ others })) sh.done

/-- What is arranged for a signal; one of them cannot be caught. -/
def trapOf? (sh : State) (condition : Nat) : Option String :=
  if condition = 9 then none else (sh.traps.find? (·.1 == condition)).map (·.2)

/-- What `kill` is asked to do. -/
inductive Aim where
  | list (number : Option String)
  | send (signal : Nat) (targets : List String)
  | wrong (text : String)
  deriving DecidableEq, Repr

def killUsage : String := "Usage: kill [-s sigspec | -signum | -sigspec] [pid | job]... or\nkill -l [exitstatus]"

def aim (args : List String) : Aim :=
  let sent (signal : Nat) (targets : List String) : Aim := if targets.isEmpty then .wrong killUsage else .send signal targets
  match args with
  | [] => .wrong killUsage
  | "-l" :: rest => .list rest.head?
  | "--" :: targets => sent 15 targets
  | "-s" :: name :: targets => match signalOf? name with
    | some n => sent n (if targets.head? = some "--" then targets.drop 1 else targets)
    | none => .wrong ("invalid signal number or name: " ++ name)
  | arg :: targets => match arg.toList with
    | '-' :: c :: cs => match signalOf? (String.ofList (c :: cs)) with
      | some n => sent n targets
      | none => .wrong ("Illegal option -" ++ String.singleton c)
    | _ => sent 15 (arg :: targets)

/-- The names of all signals, or of one. -/
def listSignals (number : Option String) (sh : State) : Outcome :=
  match number with
  | none =>
    let names := (List.range' 1 64).map nameOfSignal
    done (sh.print (String.join (("0" :: names).map (· ++ "\n"))))
  | some arg => match wholeNumber arg with
    | .error text => sh.misused text
    | .ok n =>
      let n' := if 128 < n then n - 128 else n
      if 0 < n' && n' < 65 then done (sh.print (nameOfSignal n' ++ "\n"))
      else sh.misused ("invalid signal number or exit status: " ++ arg)

/-- The status that an ending leaves. -/
def statusOf : Ending → Nat
  | .exited status => status
  | .killed signal => 128 + signal

/-- What an argument that names something in the background means: a process by its number, known or not. -/
def backgroundNamed (arg : String) (sh : State) : Except String (Option Job) :=
  if arg.startsWith "%" then (sh.jobNamed arg).map some
  else (wholeNumber arg).map fun n => sh.ownJobs.find? (·.number == n)

/-- Tells how things in the background ended that have been waited for by name; the last of them that is known decides. -/
def tellEndings : List String → Nat → State → Outcome
  | [], status, sh => sh.doneWith status
  | arg :: args, status, sh => match sh.backgroundNamed arg with
    | .error text => sh.misused text
    | .ok none => tellEndings args status sh
    | .ok (some j) =>
      let e := j.ending.getD (.exited 0)
      let told := match e with
        | .killed signal => if j.awaited then sh else sh.tellSignal signal
        | .exited _ => sh
      tellEndings args (statusOf e) (told.noteWaiting j.number)

/-- What is known about something in the background, as a line. -/
def jobLine (numbered : Bool) (j : Job) (sh : State) : String :=
  let mark := match sh.ownJobs with
    | first :: second :: _ => if first.number = j.number then "+" else if second.number = j.number then "-" else " "
    | _ => "+"
  let state := match j.ending with
    | none => "Running"
    | some (.exited 0) => "Done"
    | some (.exited n) => "Done(" ++ decimal n ++ ")"
    | some (.killed signal) => signalMeaning signal
  let text := "[" ++ decimal j.slot ++ "] " ++ mark ++ " " ++ (if numbered then decimal j.number ++ " " else "") ++ state
  text ++ String.ofList (List.replicate (33 - text.length) ' ') ++ "\n"

/-- Shows what was started in the background. What has ended is forgotten with that. -/
def listJobs (args : List String) (sh : State) : Outcome :=
  sh.withLetters "lp" args fun options args sh =>
    let chosen : Except String (List Job) := if args.isEmpty then .ok sh.ownJobs else args.mapM fun arg => sh.jobNamed arg
    match chosen, (options.getLast?.map (·.1)) with
    | .error text, _ => sh.misused text
    | .ok jobs, some 'p' => done (sh.print (String.join (jobs.map fun j => decimal j.number ++ "\n")))
    | .ok jobs, option =>
      let shown := jobs.foldl (fun (sh : State) j =>
        let sh := sh.print (sh.jobLine option.isSome j)
        if j.ending.isSome then { sh with jobs := sh.jobs.filter (·.number != j.number) } else sh) sh
      shown.done

/-- Nothing comes back from the background here. -/
def reclaim (args : List String) (sh : State) : Outcome :=
  sh.withLetters "" args fun _ args sh => match sh.jobNamed (args.headD "%") with
    | .error text => sh.misused text
    | .ok _ => sh.misused ("job " ++ args.headD "(null)" ++ " not created under job control")

/-! ### All of them -/

def printFormat (args : List String) (sh : State) : Outcome :=
  let option := args.head?.bind fun arg => match arg.toList with
    | ['-', '-'] => none
    | '-' :: c :: _ => some c
    | _ => none
  match option, if args.head? = some "--" then args.drop 1 else args with
  | some c, _ => sh.misused ("Illegal option -" ++ String.singleton c)
  | none, [] => sh.misused "usage: printf format [arg ...]"
  | none, format :: args =>
    let f := printf format args
    let sh := f.wrong.foldl (fun sh text => sh.complain text) sh
    let sh := sh.print (String.ofList f.output)
    if f.mistaken then (.failing, sh.setStatus 2) else sh.doneWith (if f.wrong.isEmpty then 0 else 1)

def testWords (words : List String) (sh : State) : Outcome :=
  match test sh.files words with
  | .ok truth => sh.doneWith (if truth then 0 else 1)
  | .error e => sh.misused e.message

/-- Runs a command of the shell that needs nothing but its state. -/
def runOwn (name : String) (args : List String) (sh : State) : Option Outcome :=
  match name with
  | ":" | "true" => some sh.done
  | "false" => some (sh.doneWith 1)
  | "echo" => some (done (sh.print (String.ofList (echo args))))
  | "printf" => some (sh.printFormat args)
  | "test" => some (sh.testWords args)
  | "[" => some (if args.getLast? = some "]" then sh.testWords args.dropLast else sh.misused "missing ]")
  | "pwd" => some (sh.printDirectory args)
  | "cd" | "chdir" => some (sh.changeDirectory args)
  | "read" => some (sh.read args)
  | "export" => some (sh.declareAll "export" Variable.exported (fun v => { v with exported := true }) args)
  | "readonly" => some (sh.declareAll "readonly" Variable.fixed (fun v => { v with fixed := true }) args)
  | "local" => some (if sh.hidden.isEmpty then sh.misused "not in a function" else sh.eachArgument localize args)
  | "unset" => some (sh.unset args)
  | "set" => some (sh.setCommand args)
  | "shift" => some (sh.shift args)
  | "getopts" => some (sh.getOptions args)
  | "trap" => some (sh.arrange args)
  | "umask" => some (sh.setMask args)
  | "ulimit" => some (done (if args.all (·.startsWith "-") then sh.print "unlimited\n" else sh))
  | "times" => some (done (sh.print "0m0.00s 0m0.00s\n0m0.00s 0m0.00s\n"))
  | "type" => some (sh.describeNames args)
  | "hash" => some (sh.withLetters "rv" args fun _ names sh =>
    let missing := names.filter fun name => match sh.meaningOf name with
      | .unknown => true
      | _ => false
    (missing.foldl (fun sh name => sh.complain (name ++ ": not found")) sh).doneWith (if missing.isEmpty then 0 else 1))
  | "alias" => some (sh.setAliases args)
  | "unalias" => some (sh.removeAliases args)
  | "jobs" => some (sh.listJobs args)
  | "fg" | "bg" => some (sh.reclaim args)
  | "exit" => some (match (args.head?.map wholeNumber).getD (.ok sh.status) with
    | .ok n => (.exiting, sh.setStatus n)
    | .error text => sh.misused text)
  | "return" => some (match (args.head?.map wholeNumber).getD (.ok sh.status) with
    | .ok n => (.returning, sh.setStatus n)
    | .error text => sh.misused text)
  | "break" | "continue" => some (match (args.head?.map wholeNumber).getD (.ok 1) with
    | .error text => sh.misused text
    | .ok 0 => sh.misused "Illegal number: 0"
    | .ok n =>
      let n := min n sh.loops
      if n = 0 then sh.done
      else (if name = "break" then .leaving n else .repeating n, sh.setStatus 0))
  | _ => none

end State

end KeyFeed.Host.Shell
