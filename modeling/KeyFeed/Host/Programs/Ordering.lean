import KeyFeed.Host.Programs.Decimal
import KeyFeed.Host.Programs.Showing

/-! Programs that put lines in order, and those that count on such an order: they leave out repeated lines, or compare two
    files line by line. -/

namespace KeyFeed.Host.Programs
open Text Shell

/-! ### Keys -/

/-- One end of a key: how many fields are passed, and how many characters behind them. -/
structure KeyEnd where
  fields : Nat
  chars : Nat
  skipsBlanks : Bool
  deriving DecidableEq, Repr

/-- The part of a line by which it is put in order, and how it is compared. -/
structure SortKey where
  start : KeyEnd
  stop : Option KeyEnd
  options : List Char
  deriving DecidableEq, Repr

def isSpaceOrTab (c : Char) : Bool := c = ' ' || c = '\t' || c = '\n'

/-- What is left of a line behind so many fields. -/
def afterFields (tab : Option Char) : Nat → List Char → List Char
  | 0, cs => cs
  | n + 1, cs => match tab with
    | some t => afterFields tab n ((cs.dropWhile (· != t)).drop 1)
    | none => afterFields tab n ((cs.dropWhile isSpaceOrTab).dropWhile (!isSpaceOrTab ·))

/-- How long a line is up to the end of so many fields. -/
def lengthToFieldEnd (tab : Option Char) (n : Nat) (cs : List Char) : Nat :=
  match tab, n with
  | _, 0 => 0
  | some t, n + 1 =>
    let rest := afterFields tab n cs
    cs.length - (rest.dropWhile (· != t)).length
  | none, n => cs.length - (afterFields none n cs).length

/-- The part of a line that a key chooses. -/
def SortKey.part (tab : Option Char) (k : SortKey) (line : List Char) : List Char :=
  let rest := afterFields tab k.start.fields line
  let rest := if k.start.skipsBlanks then rest.dropWhile isSpaceOrTab else rest
  let rest := rest.drop k.start.chars
  let begun := line.length - rest.length
  let ended := match k.stop with
    | none => line.length
    | some e =>
      if e.chars = 0 then lengthToFieldEnd tab (e.fields + 1) line
      else
        let rest := afterFields tab e.fields line
        let rest := if e.skipsBlanks then rest.dropWhile isSpaceOrTab else rest
        min line.length (line.length - rest.length + e.chars)
  (line.take ended).drop begun

/-! ### Comparing -/

/-- A number at the beginning of a text, as a sign and a quotient. -/
def numberAtStart (cs : List Char) : Int × Nat × List Char :=
  let cs := cs.dropWhile isSpaceOrTab
  let (negative, digits) := match cs with
    | '-' :: ds => (true, ds)
    | ds => (false, ds)
  let whole := digits.takeWhile isAsciiDigit
  let rest := digits.drop whole.length
  let (fraction, rest) := match rest with
    | '.' :: ds => (ds.takeWhile isAsciiDigit, ds.dropWhile isAsciiDigit)
    | r => ([], r)
  let n := Int.ofNat ((readDigits? 10 (whole ++ fraction)).getD 0)
  (if negative then -n else n, Nat.pow 10 fraction.length, rest)

def compareQuotients (a b : Int × Nat) : Ordering := compare (a.1 * Int.ofNat b.2) (b.1 * Int.ofNat a.2)

def compareNumbers (a b : List Char) : Ordering :=
  let (m, k, _) := numberAtStart a
  let (n, l, _) := numberAtStart b
  compareQuotients (m, k) (n, l)

/-- A number with an exponent; texts without one come before all numbers. -/
def generalNumber (cs : List Char) : Int × Int × Nat :=
  let cs := cs.dropWhile (isInClass "space")
  let (negative, digits) := match cs with
    | '-' :: ds => (true, ds)
    | '+' :: ds => (false, ds)
    | ds => (false, ds)
  match readDecimal digits with
  | some (q, _) => (1, if negative then -Int.ofNat q.numerator else Int.ofNat q.numerator, q.denominator)
  | none => (0, 0, 1)

def compareGeneral (a b : List Char) : Ordering :=
  let (m, x) := generalNumber a
  let (n, y) := generalNumber b
  (compare m n).then (compareQuotients x y)

/-- A number with a letter that says how great its unit is. -/
def compareSizes (a b : List Char) : Ordering :=
  let unit (x : Int × Nat × List Char) : Int :=
    let order := match x.2.2.head? with
      | some c => (("KMGTPEZY".toList.idxOf? c.toUpper).map fun i => Int.ofNat (i + 1)).getD 0
      | none => 0
    if x.1 < 0 then -order else order
  let (x, y) := (numberAtStart a, numberAtStart b)
  (compare (unit x) (unit y)).then (compareQuotients (x.1, x.2.1) (y.1, y.2.1))

def monthOf (cs : List Char) : Nat :=
  let name := String.ofList (((cs.dropWhile isSpaceOrTab).take 3).map Char.toUpper)
  ((["JAN", "FEB", "MAR", "APR", "MAY", "JUN", "JUL", "AUG", "SEP", "OCT", "NOV", "DEC"].idxOf? name).map (· + 1)).getD 0

def compareTexts (a b : List Char) : Ordering := compare (String.ofList a) (String.ofList b)

/-- Texts in which rows of digits count as numbers; at most `fuel` rows. -/
def compareVersions : Nat → List Char → List Char → Ordering
  | 0, _, _ => .eq
  | fuel + 1, a, b =>
    let order (c : Char) : Nat := if c = '~' then 0 else if c.isAlpha then c.toNat + 1 else c.toNat + 256
    let key (cs : List Char) : List Nat := (cs.takeWhile (!isAsciiDigit ·)).map order ++ [1]
    let rest (cs : List Char) : List Char := cs.dropWhile (!isAsciiDigit ·)
    let number (cs : List Char) : Nat := (readDigits? 10 (cs.takeWhile isAsciiDigit)).getD 0
    if a.isEmpty && b.isEmpty then .eq
    else
      let (m, n) := (rest a, rest b)
      ((compareOfLessAndEq (key a) (key b)).then (compare (number m) (number n))).then
        (compareVersions fuel (m.dropWhile isAsciiDigit) (n.dropWhile isAsciiDigit))

/-- Compares two parts of lines as options say. -/
def compareBy (options : List Char) (a b : List Char) : Ordering :=
  let has (c : Char) : Bool := options.contains c
  let seen (cs : List Char) : List Char :=
    let kept := cs.filter fun c =>
      (!has 'd' || isSpaceOrTab c || isInClass "alnum" c) && (!has 'i' || isInClass "print" c)
    if has 'f' then kept.map Char.toUpper else kept
  let order :=
    if has 'n' then compareNumbers a b
    else if has 'g' then compareGeneral a b
    else if has 'h' then compareSizes a b
    else if has 'M' then compare (monthOf a) (monthOf b)
    else if has 'V' then compareVersions (a.length + b.length + 1) a b
    else compareTexts (seen a) (seen b)
  if has 'r' then order.swap else order

/-- How lines are put in order. -/
structure SortOrder where
  keys : List SortKey
  tab : Option Char
  reversed : Bool
  /-- Whether lines that agree in their keys stay as they are. -/
  stable : Bool

def SortOrder.byKeys (o : SortOrder) (a b : List Char) : Ordering :=
  o.keys.foldl (fun order k => order.then (compareBy k.options (k.part o.tab a) (k.part o.tab b))) .eq

def SortOrder.compare (o : SortOrder) (a b : List Char) : Ordering :=
  let last := if o.stable && !o.keys.isEmpty then .eq else compareTexts a b
  (o.byKeys a b).then (if o.reversed then last.swap else last)

/-! ### Reading keys -/

/-- One end of a key as it is written, and the letters behind it. -/
def readKeyEnd (cs : List Char) : Option (Nat × Nat × List Char × List Char) :=
  let digits := cs.takeWhile isAsciiDigit
  let rest := cs.drop digits.length
  let (chars, rest) := match rest with
    | '.' :: ds => (some (ds.takeWhile isAsciiDigit), ds.dropWhile isAsciiDigit)
    | r => (none, r)
  let letters := rest.takeWhile "bdfghiMnRrV".toList.contains
  match readDigits? 10 digits, chars.map (readDigits? 10) with
  | some n, none => some (n, 0, letters, rest.drop letters.length)
  | some n, some (some k) => some (n, k, letters, rest.drop letters.length)
  | _, _ => none

def readKey (text : List Char) : Option SortKey :=
  match readKeyEnd text with
  | none => none
  | some (n, k, letters, rest) =>
    if n = 0 then none
    else
      let start (letters : List Char) : KeyEnd := ⟨n - 1, k - 1, letters.contains 'b'⟩
      match rest with
      | [] => some ⟨start letters, none, letters.filter (· != 'b')⟩
      | ',' :: r => match readKeyEnd r with
        | some (m, l, more, []) =>
          if m = 0 then none
          else some ⟨start letters, some ⟨m - 1, l, more.contains 'b'⟩, (letters ++ more).filter (· != 'b')⟩
        | _ => none
      | _ => none

/-- The lines between marks. -/
def dividedLines (mark : Char) (cs : List Char) : List (List Char) :=
  let parts := fields mark cs
  if parts.getLast? = some [] then parts.dropLast else parts

/-- The first line that is not in order, and its number. -/
def disorder? (o : SortOrder) (unique : Bool) : Nat → List (List Char) → Option (Nat × List Char)
  | n, a :: b :: rest =>
    let wrong := match if unique then (if o.keys.isEmpty then compareTexts a b else o.byKeys a b) else o.compare a b with
      | .gt => true
      | .eq => unique
      | .lt => false
    if wrong then some (n + 1, b) else disorder? o unique (n + 1) (b :: rest)
  | _, _ => none

/-- Only the first of lines in a row that agree. -/
def firstOfEach (agree : List Char → List Char → Bool) : List (List Char) → List (List Char)
  | a :: rest => match firstOfEach agree rest with
    | b :: others => if agree a b then a :: others else a :: b :: others
    | [] => [a]
  | [] => []

/-- An old way to write where a key begins. -/
def spellKeys (args : List String) : List String :=
  (args.map fun arg => match arg.toList with
    | '+' :: d :: ds => match readKeyEnd (d :: ds) with
      | some (n, k, letters, []) => ["-k", decimal (n + 1) ++ "." ++ decimal (k + 1) ++ String.ofList letters]
      | _ => [arg]
    | _ => [arg]).flatten

def sort (c : Call) : Report :=
  (c.withArgs (spellKeys c.args)).withOptions (.of "bcCdfghik:mMno:rRsS:t:T:uVyz"
      [("reverse", 'r'), ("numeric-sort", 'n'), ("unique", 'u'), ("key", 'k'), ("field-separator", 't'), ("output", 'o'),
       ("ignore-case", 'f'), ("stable", 's'), ("check", 'c'), ("ignore-leading-blanks", 'b'), ("version-sort", 'V'),
       ("human-numeric-sort", 'h'), ("general-numeric-sort", 'g'), ("month-sort", 'M'), ("zero-terminated", 'z'),
       ("merge", 'm'), ("dictionary-order", 'd')]) 2 fun given operands =>
    let global := (given.options.map (·.1)).filter "bdfghiMnRrV".toList.contains
    let keys := (given.values 'k').mapM fun text => readKey text.toList
    let tab := (given.value? 't').map String.toList
    let tabWrong := match tab with
      | some [_] | some ['\\', '0'] | none => false
      | _ => true
    match keys with
    | none => c.refuse 2 ("invalid field specification " ++ quoted ((given.values 'k').headD ""))
    | some keys =>
      if tabWrong then c.refuse 2 (match tab with
        | some [] => "empty tab"
        | _ => "multi-character tab " ++ quoted ((given.value? 't').getD ""))
      else
        let checks := given.has 'c' || given.has 'C'
        let blankless := global.contains 'b'
        let plainOptions := global.filter (· != 'b')
        let inherit (k : SortKey) : SortKey :=
          if k.options.isEmpty && !k.start.skipsBlanks && !(k.stop.any (·.skipsBlanks)) then
            { k with
              options := plainOptions
              start := { k.start with skipsBlanks := blankless }
              stop := k.stop.map fun e => { e with skipsBlanks := blankless } }
          else k
        let keys := keys.map inherit
        let keys := if keys.isEmpty && (plainOptions.any (· != 'r') || blankless) then
            [⟨⟨0, 0, blankless⟩, none, plainOptions⟩] else keys
        let order : SortOrder := ⟨keys, tab.map (·.headD '\x00'), global.contains 'r', given.has 's' || given.has 'u'⟩
        let mark := if given.has 'z' then '\x00' else '\n'
        let unreadable := (if operands.isEmpty then ["-"] else operands).findSome? fun path =>
          if c.isInput path then none
          else match c.contentOf c.files path with
            | .ok _ => none
            | .error e => some (if e = .isADirectory then "read failed: " ++ shown path ++ ": " ++ reason e
                else "cannot read: " ++ shown path ++ ": " ++ reason e)
        if checks && 1 < operands.length then
          c.refuse 2 ("extra operand " ++ quoted ((operands.drop 1).headD "") ++ " not allowed with -c")
        else match unreadable with
          | some text => c.refuse 2 text
          | none =>
            let paths := if operands.isEmpty then ["-"] else operands
            let texts := paths.map fun path => dividedLines mark ((c.contentOf c.files path).toOption.getD [])
            let lines := texts.flatten
            let r := { Report.quiet 0 c with taken := if paths.any c.isInput then c.input.length else 0 }
            if checks then match disorder? order (given.has 'u') 1 lines with
              | none => r
              | some (n, line) =>
                let path := if paths = ["-"] then "-" else paths.headD "-"
                if given.has 'C' then r.setStatus 1
                else r.complain c.name (path ++ ":" ++ decimal n ++ ": disorder: " ++ String.ofList line)
            else
              let sorted := lines.mergeSort fun a b => order.compare a b != .gt
              let agree (a b : List Char) : Bool := if order.keys.isEmpty then a = b else order.byKeys a b = .eq
              let kept := if given.has 'u' then firstOfEach agree sorted else sorted
              let text := (kept.map (· ++ [mark])).flatten
              match given.value? 'o' with
              | none => r.say text
              | some path => match writeTo false path text r with
                | .ok r => r
                | .error e => (r.complain c.name ("open failed: " ++ shown path ++ ": " ++ reason e)).setStatus 2

/-! ### Repeated lines -/

/-- Lines in a row that agree, the first of them and how many there are. -/
def rowsOf (agree : List Char → List Char → Bool) (lines : List (List Char)) : List (List Char × Nat) :=
  (lines.foldl (fun (rows : List (List Char × Nat)) line => match rows with
    | (first, n) :: others => if agree first line then (first, n + 1) :: others else (line, 1) :: rows
    | [] => [(line, 1)]) []).reverse

def uniq (c : Call) : Report :=
  c.withOptions (.of "cdDf:is:uw:z" [("count", 'c'), ("repeated", 'd'), ("unique", 'u'), ("ignore-case", 'i'),
      ("skip-fields", 'f'), ("skip-chars", 's'), ("check-chars", 'w')]) 1 fun given operands =>
    let number (option : Char) : Option Nat := (given.value? option).bind fun n => readDigits? 10 n.toList
    let key (line : List Char) : List Char :=
      let rest := ((List.range ((number 'f').getD 0)).foldl (fun (cs : List Char) _ =>
        (cs.dropWhile isSpaceOrTab).dropWhile (!isSpaceOrTab ·)) line).drop ((number 's').getD 0)
      let rest := match number 'w' with
        | some n => rest.take n
        | none => rest
      if given.has 'i' then rest.map Char.toLower else rest
    let wrong := ['f', 's', 'w'].find? fun o => (given.value? o).isSome && (number o).isNone
    match wrong with
    | some o => c.refuse 1 ((given.value? o).getD "" ++ ": invalid number of "
        ++ (if o = 'f' then "fields to skip" else if o = 's' then "bytes to skip" else "bytes to compare"))
    | none =>
      if 2 < operands.length then c.misused 1 ("extra operand " ++ quoted ((operands.drop 2).headD ""))
      else
        let (text, r) := c.gather (operands.take 1) plainComplaint
        if r.status != 0 then r
        else
          let rows := rowsOf (fun a b => key a = key b) (bareLines text)
          let rows := rows.filter fun (_, n) => !(given.has 'd' && n = 1) && !(given.has 'u' && n != 1)
          let shown := if given.has 'D' then
              (((rowsOf (fun a b => key a = key b) (bareLines text)).filter fun (_, n) => n != 1).map fun (line, n) =>
                (List.replicate n (line ++ ['\n'])).flatten)
            else rows.map fun (line, n) =>
              (if given.has 'c' then toRight 7 (decimalDigits n) ++ [' '] else []) ++ line ++ ['\n']
          match operands.drop 1 with
          | [] => r.say shown.flatten
          | path :: _ => match writeTo false path shown.flatten r with
            | .ok r => r
            | .error e => r.complain c.name (plainComplaint path e)

/-! ### Two files -/

/-- The lines of two files in order, each with the column that it belongs to; at most `fuel` of them. -/
def merged : Nat → List (List Char) → List (List Char) → List (Nat × List Char)
  | 0, _, _ => []
  | _ + 1, as, [] => as.map fun a => (1, a)
  | _ + 1, [], bs => bs.map fun b => (2, b)
  | fuel + 1, a :: as, b :: bs => match compareTexts a b with
    | .lt => (1, a) :: merged fuel as (b :: bs)
    | .gt => (2, b) :: merged fuel (a :: as) bs
    | .eq => (3, a) :: merged fuel as bs

def comm (c : Call) : Report :=
  c.withOptions (.of "123z" []) 1 fun given operands => match operands with
    | [first, second] => match c.contentOf c.files first, c.contentOf c.files second with
      | .error e, _ => c.refuse 1 (plainComplaint first e)
      | _, .error e => c.refuse 1 (plainComplaint second e)
      | .ok a, .ok b =>
        let (as, bs) := (bareLines a, bareLines b)
        let has (n : Nat) : Bool := given.has (if n = 1 then '1' else if n = 2 then '2' else '3')
        let column (n : Nat) : List Char :=
          ((List.range (n - 1)).map fun i => if has (i + 1) then [] else ['\t']).flatten
        let rows := (merged (as.length + bs.length + 1) as bs).filter fun (n, _) => !has n
        let r := { Report.quiet 0 c with taken := if operands.any c.isInput then c.input.length else 0 }
        r.say (rows.map fun (n, line) => column n ++ line ++ ['\n']).flatten
    | [only] => c.misused 1 ("missing operand after " ++ quoted only)
    | [] => c.misused 1 "missing operand"
    | _ :: _ :: extra :: _ => c.misused 1 ("extra operand " ++ quoted extra)

def cmp (c : Call) : Report :=
  c.withOptions (.of "bi:ln:s" [("quiet", 's'), ("silent", 's'), ("verbose", 'l')]) 2 fun given operands =>
    let (paths, wrong) := match operands with
      | [] => ([], some ("missing operand after '" ++ c.name ++ "'"))
      | [only] => ([only, "-"], none)
      | a :: b :: _ => ([a, b], none)
    match paths, wrong with
    | [first, second], none => match c.contentOf c.files first, c.contentOf c.files second with
      | .error e, _ => c.refuse 2 (first ++ ": " ++ reason e)
      | _, .error e => c.refuse 2 (second ++ ": " ++ reason e)
      | .ok a, .ok b =>
        let r := { Report.quiet 0 c with taken := if paths.any c.isInput then c.input.length else 0 }
        let differing := (List.range (min a.length b.length)).filter fun i => a[i]? != b[i]?
        let line (n : Nat) : Nat := (a.take n).count '\n' + 1
        let ended : Report := if a.length = b.length then r
          else
            let (short, n) := if a.length < b.length then (first, a.length) else (second, b.length)
            if given.has 's' then r.setStatus 1
            else r.complain c.name ("EOF on " ++ (if n = 0 then short ++ " which is empty"
              else short ++ " after byte " ++ decimal n ++ (if given.has 'l' then "" else
                if (a.take n).getLast? = some '\n' then ", line " ++ decimal ((a.take n).count '\n')
                else ", in line " ++ decimal (line n))))
        match differing with
        | [] => ended
        | i :: _ =>
          if given.has 's' then r.setStatus 1
          else if given.has 'l' then
            let octalOf (cs : List Char) (i : Nat) : List Char := toRight 3 (Nat.toDigits 8 ((cs[i]?).getD ' ').toNat)
            let rows := differing.map fun i =>
              toRight (decimalDigits (min a.length b.length)).length (decimalDigits (i + 1)) ++ ' ' :: octalOf a i
                ++ ' ' :: octalOf b i ++ ['\n']
            { ended with status := 1, said := (1, rows.flatten) :: ended.said }
          else (r.say (first ++ " " ++ second ++ " differ: char " ++ decimal (i + 1) ++ ", line " ++ decimal (line i)
            ++ "\n").toList).setStatus 1
    | _, some text => c.confused 2 text
    | _, none => c.confused 2 "missing operand"

end KeyFeed.Host.Programs
