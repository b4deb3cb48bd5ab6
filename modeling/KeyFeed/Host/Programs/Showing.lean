import KeyFeed.Host.Programs.Call
import KeyFeed.Host.Shell.Pattern

/-! Programs that show what files hold: all of it, its beginning or end, its lines turned round or numbered, its bytes as
    numbers, or how much of it there is. -/

namespace KeyFeed.Host.Programs
open Text Shell

/-- A text brought to a width with blanks on its left. -/
def toRight (width : Nat) (cs : List Char) : List Char := List.replicate (width - cs.length) ' ' ++ cs

/-- A text brought to a width with blanks on its right. -/
def toLeft (width : Nat) (cs : List Char) : List Char := cs ++ List.replicate (width - cs.length) ' '

/-- A number of things, with a letter for a multiple. -/
def countOf? (cs : List Char) : Option Nat :=
  let digits := cs.takeWhile isAsciiDigit
  let factor := match String.ofList (cs.drop digits.length) with
    | "" => some 1
    | "b" => some 512
    | "k" | "K" | "KiB" => some 1024
    | "kB" | "KB" => some 1000
    | "M" | "MiB" => some (1024 * 1024)
    | "MB" => some 1000000
    | _ => none
  match readDigits? 10 digits, factor with
  | some n, some k => some (n * k)
  | _, _ => none

/-! ### Everything -/

/-- A byte in a form that can be seen. -/
def visible (keepTabs : Bool) (c : Char) : List Char :=
  let low (n : Nat) : List Char :=
    if n < 32 then ['^', Char.ofNat (n + 64)] else if n = 127 then ['^', '?'] else [Char.ofNat n]
  if c = '\n' || (c = '\t' && keepTabs) then [c]
  else if c.toNat < 128 then low c.toNat
  else ['M', '-'] ++ low (c.toNat - 128)

/-- How lines are shown, how many have been counted, and whether the last line shown was empty. -/
structure Numbering where
  count : Nat
  wasEmpty : Bool
  atStart : Bool

def showLine (g : Given) (n : Numbering) (line : List Char) : List Char × Numbering :=
  let isEmpty := line = ['\n'] && n.atStart
  if isEmpty && g.has 's' && n.wasEmpty then ([], n)
  else
    let counted := n.atStart && (g.has 'n' || g.has 'b') && !(g.has 'b' && isEmpty)
    let count := if counted then n.count + 1 else n.count
    let number := if counted then toRight 6 (decimalDigits count) ++ ['\t'] else []
    let seen := if g.has 'v' || g.has 'T' then
        (line.map fun c => if c = '\t' && g.has 'T' then ['^', 'I'] else if g.has 'v' then visible true c else [c]).flatten
      else line
    let seen := if g.has 'E' && seen.getLast? = some '\n' then seen.dropLast ++ ['$', '\n'] else seen
    (number ++ seen, ⟨count, isEmpty, line.getLast? = some '\n'⟩)

def cat (c : Call) : Report :=
  c.withOptions (.of "AbeEnstTuv" [("number", 'n'), ("number-nonblank", 'b'), ("show-all", 'A'), ("show-ends", 'E'),
      ("squeeze-blank", 's'), ("show-tabs", 'T'), ("show-nonprinting", 'v')]) 1 fun given operands =>
    let implied : List (Char × String) := (given.options.map fun (d, _) => match d with
      | 'A' => [('v', ""), ('E', ""), ('T', "")]
      | 'e' => [('v', ""), ('E', "")]
      | 't' => [('v', ""), ('T', "")]
      | d => [(d, "")]).flatten
    let g : Given := ⟨implied⟩
    let plain := g.options.all (·.1 = 'u')
    let isOutput (path : String) (r : Report) : Bool :=
      match c.outputNode, c.files.stat path with
      | some node, .ok e => path != "-" && e.node = node
          && (r.said.any (fun (d, cs) => d = 1 && !cs.isEmpty) || (Files.bytesOf e).toOption.getD [] != [])
      | _, _ => false
    ((if operands.isEmpty then ["-"] else operands).foldl (fun ((r, n) : Report × Numbering) path =>
      if isOutput path r then (r.complain c.name (shown path ++ ": input file is output file"), n)
      else
        let here := if c.isInput path then .ok (c.input.drop r.taken) else c.contentOf r.files path
        let r := if c.isInput path then r.drained c else r
        match here with
        | .error e => (r.complain c.name (plainComplaint path e), n)
        | .ok cs =>
          if plain then (r.say cs, n)
          else
            let (out, n) := (linesOf cs).foldl (fun ((out, n) : List (List Char) × Numbering) line =>
              let (text, n) := showLine g n line
              (text :: out, n)) ([], n)
            (r.say out.reverse.flatten, n)) (.quiet 0 c, ⟨0, false, true⟩)).1

/-- Writes to a file, or under the descriptor that the path stands for. -/
def writeTo (append : Bool) (path : String) (cs : List Char) (r : Report) : Except OsError Report :=
  match r.files.stat path with
  | .ok ⟨.stream n, _, _⟩ => .ok { r with said := r.said ++ [(n, cs)] }
  | _ => (r.files.write append path (cs.map toByte)).map fun fs => { r with files := fs }

def tee (c : Call) : Report :=
  c.withOptions (.of "aip" [("append", 'a'), ("ignore-interrupts", 'i')]) 1 fun given operands =>
    operands.foldl (fun (r : Report) path => match writeTo (given.has 'a') path c.input r with
      | .ok r => r
      | .error e => r.complain c.name (plainComplaint path e)) (((Report.quiet 0 c).say c.input).drained c)

/-! ### Parts -/

/-- Turns an option that is a number into one with a letter. -/
def spellCount (letters : List Char) (args : List String) : List String :=
  match args with
  | arg :: rest => match arg.toList with
    | '-' :: d :: ds =>
      let cs := d :: ds
      let digits := cs.takeWhile isAsciiDigit
      let kept := cs.drop digits.length
      if isAsciiDigit d && kept.all letters.contains then
        let unit := if kept.contains 'c' then "-c" else "-n"
        unit :: String.ofList digits :: ((kept.filter (· != 'c')).map fun f => String.ofList ['-', f]) ++ rest
      else args
    | _ => args
  | [] => []

/-- The part of a text at its beginning that is asked for. -/
def headOf (byBytes : Bool) (count : List Char) (cs : List Char) : Option (List Char) :=
  let (fromEnd, digits) := match count with
    | '-' :: ds => (true, ds)
    | '+' :: ds => (false, ds)
    | ds => (false, ds)
  (countOf? digits).map fun n =>
    if byBytes then cs.take (if fromEnd then cs.length - n else n)
    else
      let lines := linesOf cs
      (lines.take (if fromEnd then lines.length - n else n)).flatten

/-- The part of a text at its end that is asked for. -/
def tailOf (byBytes : Bool) (count : List Char) (cs : List Char) : Option (List Char) :=
  let (fromStart, digits) := match count with
    | '+' :: ds => (true, ds)
    | '-' :: ds => (false, ds)
    | ds => (false, ds)
  (countOf? digits).map fun n =>
    if byBytes then cs.drop (if fromStart then n - 1 else cs.length - n)
    else
      let lines := linesOf cs
      (lines.drop (if fromStart then n - 1 else lines.length - n)).flatten

/-- A program that shows a part of each operand. -/
def showParts (part : Bool → List Char → List Char → Option (List Char)) (rewinds : Bool) (args : List String) (c : Call) :
    Report :=
  let table := OptionTable.of "c:n:qvzf" [("bytes", 'c'), ("lines", 'n'), ("quiet", 'q'), ("silent", 'q'), ("verbose", 'v'),
    ("follow", 'f')]
  (c.withArgs args).withOptions table 1 fun given operands =>
    let (byBytes, count) : Bool × String := match given.last? ['c', 'n'] with
      | some (d, n) => (d == 'c', n)
      | none => (false, "10")
    if (part byBytes count.toList []).isNone then
      c.refuse 1 ("invalid number of " ++ (if byBytes then "bytes" else "lines") ++ ": " ++ quoted
        (String.ofList (count.toList.dropWhile fun c => c = '-')))
    else
      let headed := (1 < operands.length || given.has 'v') && !given.has 'q'
      let complaint (path : String) (e : OsError) : String := match e with
        | .isADirectory => "error reading " ++ quoted path ++ ": " ++ reason e
        | e => "cannot open " ++ quoted path ++ " for reading: " ++ reason e
      c.forContents operands complaint fun path cs r =>
        let title := if path = "-" then "standard input" else path
        let first := !(r.said.any (·.1 = 1))
        let heading := if headed then (if first then "" else "\n") ++ "==> " ++ title ++ " <==\n" else ""
        let chosen := (part byBytes count.toList cs).getD []
        let taken := if rewinds && c.inputIsFile && c.isInput path then chosen.length else r.taken
        { r.say (heading.toList ++ chosen) with taken := taken }

def head (c : Call) : Report := showParts headOf true (spellCount ['c', 'q', 'v'] c.args) c

def tail (c : Call) : Report :=
  let args := match c.args with
    | arg :: rest => match arg.toList with
      | '+' :: d :: _ => if isAsciiDigit d then "-n" :: arg :: rest else c.args
      | '-' :: d :: _ => if isAsciiDigit d then spellCount ['c', 'f'] c.args else c.args
      | _ => c.args
    | [] => []
  showParts tailOf false args c

/-! ### Counts -/

/-- The number of words: rows of characters that can be seen. -/
def wordsIn (cs : List Char) : Nat :=
  (cs.foldl (fun ((n, inside) : Nat × Bool) c =>
    if isInClass "space" c then (n, false)
    else if inside || c < '!' || '~' < c then (n, inside)
    else (n + 1, true)) (0, false)).1

/-- How far the characters of a line reach. -/
def reachOf (line : List Char) : Nat :=
  line.foldl (fun n c => if c = '\t' then (n / 8 + 1) * 8 else if ' ' ≤ c && c ≤ '~' then n + 1 else n) 0

/-- Counts of lines, words, characters, bytes, and the length of the longest line. -/
def countsOf (cs : List Char) : List Nat :=
  [cs.count '\n', wordsIn cs, cs.length, cs.length, ((bareLines cs).map reachOf).foldl max 0]

def wc (c : Call) : Report :=
  c.withOptions (.of "clLmw" [("bytes", 'c'), ("chars", 'm'), ("lines", 'l'), ("words", 'w'), ("max-line-length", 'L')]) 1
      fun given operands =>
    let asked := if given.options.isEmpty then [true, true, false, true, false]
      else [given.has 'l', given.has 'w', given.has 'm', given.has 'c', given.has 'L']
    let single := (asked.filter id).length = 1 && operands.length ≤ 1
    let paths := if operands.isEmpty then ["-"] else operands
    let sizes : List (Option Nat) := paths.filterMap fun path =>
      if c.isInput path then some (if c.inputIsFile then some c.input.length else none)
      else match c.files.stat path with
        | .ok ⟨.file bytes, _, _⟩ => some (some bytes.length)
        | .ok _ => some none
        | .error _ => none
    let digits := (decimalDigits ((sizes.filterMap id).foldl (· + ·) 0)).length
    let width := if single then 1 else if sizes.contains none then max 7 digits else digits
    let show_ (counts : List Nat) (name : List Char) : List Char :=
      let chosen := (counts.zip asked).filterMap fun (n, wanted) => if wanted then some (toRight width (decimalDigits n)) else none
      join [' '] chosen ++ (if name.isEmpty then [] else ' ' :: name) ++ ['\n']
    let (r, totals) := paths.foldl (fun ((r, totals) : Report × List Nat) path =>
      let name := if operands.isEmpty then [] else path.toList
      let counted (cs : List Char) (r : Report) : Report × List Nat :=
        let counts := countsOf cs
        (r.say (show_ counts name),
          (totals.zip counts).zipIdx.map fun ((a, b), i) => if i = 4 then max a b else a + b)
      if c.isInput path then counted (c.input.drop r.taken) (r.drained c)
      else match c.contentOf r.files path with
        | .ok cs => counted cs r
        | .error e =>
          let r := r.complain c.name (plainComplaint path e)
          if e = .isADirectory then (r.say (show_ [0, 0, 0, 0, 0] name), totals) else (r, totals)) (.quiet 0 c, [0, 0, 0, 0, 0])
    if 1 < operands.length then r.say (show_ totals "total".toList) else r

/-! ### Lines -/

/-- A program that changes the lines of each operand by themselves. -/
def overContents (complaint : String → OsError → String) (change : List Char → List Char) (operands : List String)
    (c : Call) : Report :=
  c.forContents operands complaint fun _ cs r => r.say (change cs)

def tac (c : Call) : Report :=
  c.withOptions (.of "brs:" []) 1 fun _ operands =>
    (overContents (fun path e => match e with
      | .isADirectory => shown path ++ ": read error: " ++ reason e
      | e => "failed to open " ++ quoted path ++ " for reading: " ++ reason e)
      (fun cs => (linesOf cs).reverse.flatten) operands c).complaintsFirst

def rev (c : Call) : Report :=
  c.withOptions (.of "0" []) 1 fun _ operands =>
    overContents (fun path e => "cannot open " ++ path ++ ": " ++ reason e)
      (fun cs => ((linesOf cs).map fun line => (bare line).reverse ++ line.drop (bare line).length).flatten) operands c

/-- Lines with numbers in front of those that a style chooses. -/
def numberLines (c : Call) : Report :=
  c.withOptions (.of "b:d:f:h:i:l:n:ps:v:w:" [("body-numbering", 'b'), ("number-format", 'n'), ("number-separator", 's'),
      ("starting-line-number", 'v'), ("number-width", 'w'), ("line-increment", 'i')]) 1 fun given operands =>
    let number (option : Char) (default : Nat) : Nat := ((given.value? option).bind fun n => readDigits? 10 n.toList).getD default
    let width := number 'w' 6
    let separator := ((given.value? 's').map String.toList).getD ['\t']
    let style := (given.value? 'b').getD "t"
    let (text, r) := c.gather operands plainComplaint
    let (lines, _) := (bareLines text).foldl (fun ((done, n) : List (List Char) × Nat) line =>
      if style = "a" || (style = "t" && !line.isEmpty) then
        let digits := decimalDigits n
        let shown := match given.value? 'n' with
          | some "ln" => toLeft width digits
          | some "rz" => padded width digits
          | _ => toRight width digits
        ((shown ++ separator ++ line ++ ['\n']) :: done, n + number 'i' 1)
      else ((List.replicate (width + separator.length) ' ' ++ line ++ ['\n']) :: done, n)) ([], number 'v' 1)
    let said := (lines.reverse.flatten)
    { r with said := (1, said) :: r.said }

/-! ### Bytes as numbers -/

/-- How units of bytes are shown: how many bytes are one, how wide it is, and its text. -/
structure UnitStyle where
  size : Nat
  width : Nat
  text : List Char → List Char

/-- The number that bytes stand for, the first of them being the least. -/
def numberOfBytes (cs : List Char) : Nat := cs.foldr (fun c n => 256 * n + c.toNat) 0

def signedOf (size n : Nat) : List Char :=
  if Nat.pow 2 (8 * size - 1) ≤ n then '-' :: decimalDigits (Nat.pow 2 (8 * size) - n) else decimalDigits n

/-- A byte as a letter or as an escape. -/
def byteLetter (cs : List Char) : List Char :=
  match cs with
  | ['\x00'] => ['\\', '0']
  | ['\x07'] => ['\\', 'a']
  | ['\x08'] => ['\\', 'b']
  | ['\t'] => ['\\', 't']
  | ['\n'] => ['\\', 'n']
  | ['\x0b'] => ['\\', 'v']
  | ['\x0c'] => ['\\', 'f']
  | ['\r'] => ['\\', 'r']
  | [c] => if ' ' ≤ c && c ≤ '~' then [c] else padded 3 (Nat.toDigits 8 c.toNat)
  | cs => cs

def octalStyle (size width : Nat) : UnitStyle := ⟨size, width, fun cs => padded width (Nat.toDigits 8 (numberOfBytes cs))⟩

def hexStyle (size : Nat) : UnitStyle := ⟨size, 2 * size, fun cs => padded (2 * size) (hexDigits (numberOfBytes cs))⟩

def unsignedStyle (size width : Nat) : UnitStyle := ⟨size, width, fun cs => decimalDigits (numberOfBytes cs)⟩

def signedStyle (size width : Nat) : UnitStyle := ⟨size, width, fun cs => signedOf size (numberOfBytes cs)⟩

/-- The style that a letter and a size name. -/
def unitStyle? (text : String) : Option UnitStyle :=
  match text with
  | "c" => some ⟨1, 3, byteLetter⟩
  | "a" => some ⟨1, 3, byteLetter⟩
  | "x1" | "xC" => some (hexStyle 1)
  | "x" | "x4" | "xI" => some (hexStyle 4)
  | "x2" | "xS" => some (hexStyle 2)
  | "x8" | "xL" => some (hexStyle 8)
  | "o1" | "oC" => some (octalStyle 1 3)
  | "o2" | "oS" => some (octalStyle 2 6)
  | "o" | "o4" | "oI" => some (octalStyle 4 11)
  | "u1" | "uC" => some (unsignedStyle 1 3)
  | "u2" | "uS" => some (unsignedStyle 2 5)
  | "u" | "u4" | "uI" => some (unsignedStyle 4 10)
  | "d1" | "dC" => some (signedStyle 1 4)
  | "d2" | "dS" => some (signedStyle 2 6)
  | "d" | "d4" | "dI" => some (signedStyle 4 11)
  | _ => none

/-- The bytes of a text as numbers in rows of sixteen, with the offset in front of each row. -/
def od (c : Call) : Report :=
  c.withOptions (.of "A:t:N:j:vbcdxosw:i" [("address-radix", 'A'), ("format", 't'), ("read-bytes", 'N')]) 1 fun given operands =>
    let named := given.options.filterMap fun (o, value) => match o with
      | 't' => some value
      | 'b' => some "o1"
      | 'c' => some "c"
      | 'd' => some "u2"
      | 'o' => some "o2"
      | 'x' => some "x2"
      | 's' => some "d2"
      | 'i' => some "d4"
      | _ => none
    match (if named.isEmpty then ["o2"] else named).mapM unitStyle? with
    | none => c.refuse 1 ("invalid type string " ++ quoted (named.headD ""))
    | some styles =>
      let (text, r) := c.gather operands plainComplaint
      let skipped := ((given.value? 'j').bind fun n => countOf? n.toList).getD 0
      let text := text.drop skipped
      let text := match (given.value? 'N').bind fun n => countOf? n.toList with
        | some n => text.take n
        | none => text
      let row := ((given.value? 'w').bind fun n => readDigits? 10 n.toList).getD 16
      let address (n : Nat) : List Char := match given.value? 'A' with
        | some "n" => []
        | some "x" => padded 6 (hexDigits n)
        | some "d" => padded 7 (decimalDigits n)
        | _ => padded 7 (Nat.toDigits 8 n)
      let greatest := styles.foldl (fun n s => max n s.size) 1
      let perGreatest := styles.foldl (fun n s => max n ((greatest / s.size) * (s.width + 1))) 0
      let rowText (cs : List Char) (s : UnitStyle) : List Char :=
        let cellWidth := perGreatest / (greatest / s.size)
        let units := (List.range ((cs.length + s.size - 1) / s.size)).map fun i => (cs.drop (i * s.size)).take s.size
        (units.map fun u => toRight cellWidth (s.text u)).flatten
      let rows := (List.range ((text.length + row - 1) / max row 1)).map fun i => ((i * row), (text.drop (i * row)).take row)
      let shown := rows.foldl (fun ((done, before, starred) : List (List Char) × List Char × Bool) (i, cs) =>
        if cs = before && cs.length = row && !given.has 'v' then
          (if starred then done else done ++ ["*\n".toList], cs, true)
        else
          let begun := address (skipped + i)
          let lines := styles.zipIdx.map fun (s, k) =>
            (if k = 0 then begun else List.replicate begun.length ' ') ++ rowText cs s ++ ['\n']
          (done ++ lines, cs, false)) ([], [], false)
      let last := address (skipped + text.length)
      let nothing := !operands.isEmpty && r.said.length = operands.length && r.status != 0
      if nothing then r else r.say (shown.1.flatten ++ if last.isEmpty then [] else last ++ ['\n'])

end KeyFeed.Host.Programs
