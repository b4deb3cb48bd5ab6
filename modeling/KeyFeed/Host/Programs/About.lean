import KeyFeed.Host.Programs.Decimal
import KeyFeed.Host.Programs.Listing
import KeyFeed.Host.Programs.Tests

/-! Small programs: those that print their arguments or something about the machine, and those that only wait or end. -/

namespace KeyFeed.Host.Programs
open Text

/-- A program that prints something and takes no operands. -/
def telling (text : String) (letters : String) (c : Call) : Report :=
  c.withOptions (.of letters []) 1 fun _ operands => match operands with
    | [] => .saying (text ++ "\n") c
    | extra :: _ => c.misused 1 ("extra operand " ++ quoted extra)

def printenv (c : Call) : Report :=
  c.withOptions { OptionTable.of "0" [("null", '0')] with inOrder := true } 2 fun given operands =>
    let ended := if given.has '0' then "\x00" else "\n"
    if operands.isEmpty then
      .saying (String.join (c.environment.map fun (name, value) => name ++ "=" ++ value ++ ended)) c
    else
      let values := operands.map fun name => (c.environment.find? (·.1 == name)).map (·.2)
      (Report.saying (String.join (values.filterMap fun v => v.map (· ++ ended))) c).setStatus
        (if values.all Option.isSome then 0 else 1)

/-- Where programs are found by their names. -/
def which (c : Call) : Report :=
  let directories := fields ':' (((c.environment.find? (·.1 == "PATH")).map (·.2)).getD "").toList
  let all := c.args.head? = some "-a"
  let operands := if all || c.args.head? = some "-s" || c.args.head? = some "--" then c.args.drop 1 else c.args
  match operands.find? (·.startsWith "-") with
  | some word => { Report.quiet 2 c with said :=
      [(2, ("Illegal option " ++ String.ofList (word.toList.take 2) ++ "\nUsage: /usr/bin/which [-as] args\n").toList)] }
  | none =>
    let runs (path : String) : Bool := match c.files.stat path with
      | .ok e => !e.isDirectory && e.isExecutable
      | .error _ => false
    let found (name : String) : List String :=
      if name.toList.contains '/' then (if runs name then [name] else [])
      else
        let paths := (directories.map fun d => (if d.isEmpty then "." else String.ofList d) ++ "/" ++ name).filter runs
        if all then paths else paths.take 1
    let answers := operands.map found
    (Report.saying (String.join (answers.flatten.map (· ++ "\n"))) c).setStatus
      (if answers.all (!·.isEmpty) && !operands.isEmpty then 0 else 1)

def sleep (c : Call) : Report :=
  c.withOptions (.of "" []) 1 fun _ operands =>
    let isTime (arg : String) : Bool :=
      match readDecimal arg.toList with
      | some (_, unit) => [[], ['s'], ['m'], ['h'], ['d']].contains unit
      | none => arg = "infinity" || arg = "inf"
    if operands.isEmpty then c.missing "operand"
    else match operands.filter (!isTime ·) with
      | [] => .quiet 0 c
      | wrong =>
        let r := wrong.foldl (fun (r : Report) arg => r.complain c.name ("invalid time interval " ++ quoted arg)) (.quiet 0 c)
        { r with said := r.said ++ [(2, ("Try '" ++ c.name ++ " --help' for more information.\n").toList)] }

/-- The same line again and again; whoever reads it takes no more than this. -/
def yes (c : Call) : Report :=
  c.withOptions (.of "" []) 1 fun _ operands =>
    let line := if operands.isEmpty then "y" else String.intercalate " " operands
    .saying (String.join (List.replicate 2000 (line ++ "\n"))) c

def id (c : Call) : Report :=
  c.withOptions (.of "agGnruzZ" [("user", 'u'), ("group", 'g'), ("groups", 'G'), ("name", 'n'), ("real", 'r')]) 1
      fun given operands => match operands.find? fun name => name != "root" && name != "0" with
    | some name => c.refuse 1 (quoted name ++ ": no such user")
    | none =>
      let single := given.has 'u' || given.has 'g' || given.has 'G'
      if given.has 'n' && !single then c.refuse 1 "cannot print only names or real IDs in default format"
      else .saying (if !single then "uid=0(root) gid=0(root) groups=0(root)\n"
        else if given.has 'n' then "root\n" else "0\n") c

def uname (c : Call) : Report :=
  c.withOptions (.of "asnrvmpio" [("all", 'a'), ("kernel-name", 's'), ("nodename", 'n'), ("machine", 'm'),
      ("operating-system", 'o'), ("kernel-release", 'r'), ("kernel-version", 'v')]) 1 fun given operands => match operands with
    | extra :: _ => c.misused 1 ("extra operand " ++ quoted extra)
    | [] =>
      let parts : List (Char × String) :=
        [('s', "Linux"), ('n', "localhost"), ('r', "6.1.0"), ('v', "#1 SMP"), ('m', "x86_64"), ('o', "GNU/Linux")]
      let asked := if given.has 'a' then parts
        else if given.options.isEmpty then parts.take 1
        else parts.filter fun (o, _) => given.has o
      .saying (String.intercalate " " (asked.map (·.2)) ++ "\n") c

/-- The time at which everything here happens, in the format that is asked for. -/
def date (c : Call) : Report :=
  c.withOptions (.of "d:f:I::r:Rs:u" [("date", 'd'), ("utc", 'u'), ("universal", 'u'), ("rfc-3339", 'f'), ("iso-8601", 'I')]) 1
      fun given operands =>
    let part (c : Char) : String := match c with
      | 'Y' => "1970"
      | 'm' | 'd' | 'j' => "01"
      | 'H' | 'M' | 'S' => "00"
      | 's' => "0"
      | 'y' => "70"
      | 'N' => "000000000"
      | 'F' => "1970-01-01"
      | 'T' => "00:00:00"
      | 'n' => "\n"
      | 't' => "\t"
      | '%' => "%"
      | 'Z' => "UTC"
      | 'z' => "+0000"
      | 'a' => "Thu"
      | 'A' => "Thursday"
      | 'b' | 'h' => "Jan"
      | 'B' => "January"
      | _ => ""
    let rec format : List Char → List Char
      | '%' :: c :: r => (part c).toList ++ format r
      | c :: r => c :: format r
      | [] => []
    match operands with
    | [] => if given.has 'd' && ((given.value? 'd').getD "").toList.any (fun c => c = '!' || c = '?') then
        c.refuse 1 ("invalid date " ++ quoted ((given.value? 'd').getD ""))
      else .saying "Thu Jan  1 00:00:00 UTC 1970\n" c
    | [only] => match only.toList with
      | '+' :: f => (Report.quiet 0 c).say (format f ++ ['\n'])
      | _ => c.refuse 1 ("invalid date " ++ quoted only)
    | _ :: extra :: _ => c.misused 1 ("extra operand " ++ quoted extra)

/-- Prints its arguments as a format says. -/
def printFormat (c : Call) : Report :=
  match if c.args.head? = some "--" then c.args.drop 1 else c.args with
  | [] => c.missing "operand"
  | f :: args =>
    let printed := printf f args
    let r := printed.wrong.foldl (fun (r : Report) text => r.complain c.name text) (.quiet 0 c)
    r.say printed.output

/-- The truth of a test as a status. -/
def testStatus (words : List String) (c : Call) : Report :=
  match test c.files words with
  | .ok truth => .quiet (if truth then 0 else 1) c
  | .error e => c.refuse 2 e.message

def bracket (c : Call) : Report :=
  if c.args.getLast? = some "]" then testStatus c.args.dropLast c else c.refuse 2 "missing ']'"

/-- Factors of a number that is greater than one, from a divisor on; at most `fuel` steps. -/
def factorsFrom : Nat → Nat → Nat → List Nat
  | 0, _, n => [n]
  | fuel + 1, d, n =>
    if n < 2 then [] else if n < d * d then [n]
    else if n % d = 0 then d :: factorsFrom fuel d (n / d) else factorsFrom fuel (d + 1) n

def factor (c : Call) : Report :=
  c.withOptions (.of "h" []) 1 fun _ operands =>
    let words := if operands.isEmpty then
        ((fields '\n' (c.input.map fun d => if d = ' ' || d = '\t' then '\n' else d)).filter (!·.isEmpty)).map String.ofList
      else operands
    let start := if operands.isEmpty then (Report.quiet 0 c).drained c else .quiet 0 c
    words.foldl (fun (r : Report) word => match readDigits? 10 word.toList with
      | some n => r.say (decimal n ++ ":" ++ String.join ((factorsFrom 100000 2 n).map fun d => " " ++ decimal d)
          ++ "\n").toList
      | none => r.complain c.name (quoted word ++ " is not a valid positive integer")) start

/-! ### Sixty-four letters -/

def base64Letters : Array Char := "ABCDEFGHIJKLMNOPQRSTUVWXYZabcdefghijklmnopqrstuvwxyz0123456789+/".toList.toArray

/-- Each three bytes as four letters. -/
def encodeBase64 : List Char → List Char
  | [] => []
  | a :: r =>
    let letter (n : Nat) : Char := (base64Letters[n % 64]?).getD '='
    match r with
    | [] => [letter (a.toNat / 4), letter (a.toNat * 16), '=', '=']
    | [b] => [letter (a.toNat / 4), letter (a.toNat * 16 + b.toNat / 16), letter (b.toNat * 4), '=']
    | b :: c :: rest =>
      letter (a.toNat / 4) :: letter (a.toNat % 4 * 16 + b.toNat / 16) :: letter (b.toNat % 16 * 4 + c.toNat / 64)
        :: letter c.toNat :: encodeBase64 rest

/-- The bytes that letters stand for; nothing if other letters are among them. -/
def decodeBase64 (cs : List Char) : Option (List Char) :=
  let letters := (cs.reverse.dropWhile (· = '=')).reverse
  (letters.mapM fun c => base64Letters.findIdx? (· == c)).map fun values =>
    let bits := (values.map fun n => padded 6 (Nat.toDigits 2 n)).flatten
    (List.range (bits.length / 8)).map fun i =>
      Char.ofNat ((readDigits? 2 ((bits.drop (8 * i)).take 8)).getD 0)

def base64 (c : Call) : Report :=
  c.withOptions (.of "diw:" [("decode", 'd'), ("wrap", 'w'), ("ignore-garbage", 'i')]) 1 fun given operands =>
    let (text, r) := c.gather (operands.take 1) plainComplaint
    if r.status != 0 then r
    else if given.has 'd' then match decodeBase64 (text.filter (· != '\n')) with
      | some cs => r.say cs
      | none => r.complain c.name "invalid input"
    else
      let width := ((given.value? 'w').bind fun n => readDigits? 10 n.toList).getD 76
      let letters := encodeBase64 text
      if letters.isEmpty then r
      else if width = 0 then r.say letters
      else r.say (ofLines ((List.range ((letters.length + width - 1) / width)).map fun i => (letters.drop (i * width)).take width))

end KeyFeed.Host.Programs
