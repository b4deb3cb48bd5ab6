import KeyFeed.Host.Programs.Printing
import KeyFeed.Host.Programs.Showing

/-! Programs that work inside lines: they cut pieces out, put lines side by side, change single characters, or count. -/

namespace KeyFeed.Host.Programs
open Text Shell

/-! ### Pieces of lines -/

/-- Positions from one to another; without an end, all that follow. -/
structure Span where
  first : Nat
  last : Option Nat
  deriving DecidableEq, Repr

def Span.holds (n : Nat) (s : Span) : Bool := s.first ≤ n && s.last.all (n ≤ ·)

inductive SpanError where
  | zero | decreasing | noEnds | unreadable (text : String)
  deriving DecidableEq, Repr

def SpanError.message (inFields : Bool) : SpanError → String
  | .zero => if inFields then "fields are numbered from 1" else "byte/character positions are numbered from 1"
  | .decreasing => "invalid decreasing range"
  | .noEnds => "invalid range with no endpoint: -"
  | .unreadable s => (if inFields then "invalid field value " else "invalid byte/character position ") ++ quoted s

def readSpan (cs : List Char) : Except SpanError Span :=
  let number (ds : List Char) : Except SpanError Nat := match readDigits? 10 ds with
    | some 0 => .error .zero
    | some n => .ok n
    | none => .error (.unreadable (String.ofList ds))
  match cut? '-' cs with
  | none => if cs.isEmpty then .error .zero else (number cs).map fun n => ⟨n, some n⟩
  | some ([], []) => .error .noEnds
  | some ([], b) => (number b).map fun n => ⟨1, some n⟩
  | some (a, []) => (number a).map fun n => ⟨n, none⟩
  | some (a, b) => match number a, number b with
    | .ok m, .ok n => if n < m then .error .decreasing else .ok ⟨m, some n⟩
    | .error e, _ | _, .error e => .error e

/-- Spans with commas or blanks between them. -/
def readSpans (text : String) : Except SpanError (List Span) :=
  (fields ',' (text.toList.map fun c => if c = ' ' || c = '\t' then ',' else c)).mapM readSpan

/-- The elements at the positions that are chosen; where a choice has a gap something can be put in between. -/
def chosen {α : Type} (spans : List Span) (complement : Bool) (xs : List α) : List (Nat × α) :=
  (xs.zipIdx.map fun (x, i) => (i + 1, x)).filter fun (n, _) => spans.any (·.holds n) != complement

/-- Runs of neighbours. -/
def runsOf {α : Type} (xs : List (Nat × α)) : List (List α) :=
  ((xs.foldl (fun (runs : List (Nat × List α)) (n, x) => match runs with
    | (last, run) :: others => if n = last + 1 then (n, x :: run) :: others else (n, [x]) :: runs
    | [] => [(n, [x])]) []).reverse).map fun (_, run) => run.reverse

def cut (c : Call) : Report :=
  c.withOptions (.of "b:c:d:f:nszO:C" [("bytes", 'b'), ("characters", 'c'), ("fields", 'f'), ("delimiter", 'd'),
      ("only-delimited", 's'), ("complement", 'C'), ("output-delimiter", 'O')]) 1 fun given operands =>
    let lists := given.options.filter fun (d, _) => d = 'b' || d = 'c' || d = 'f'
    let delimiter := ((given.value? 'd').map String.toList).getD ['\t']
    match lists with
    | [] => c.misused 1 "you must specify a list of bytes, characters, or fields"
    | _ :: _ :: _ => c.misused 1 "only one list may be specified"
    | [(kind, list)] =>
      let inFields := kind = 'f'
      if 1 < delimiter.length then c.misused 1 "the delimiter must be a single character"
      else if !inFields && given.has 'd' then
        c.misused 1 "an input delimiter may be specified only when operating on fields"
      else if !inFields && given.has 's' then
        c.misused 1 "suppressing non-delimited lines makes sense\n\tonly when operating on fields"
      else match readSpans list with
        | .error e => c.misused 1 (e.message inFields)
        | .ok spans =>
          let mark := delimiter.headD '\x00'
          let between := ((given.value? 'O').map String.toList).getD (if inFields then [mark] else [])
          let pieces (line : List Char) : Option (List Char) :=
            if inFields then
              let parts := fields mark line
              if parts.length = 1 then (if given.has 's' then none else some line)
              else some (join between ((chosen spans (given.has 'C') parts).map (·.2)))
            else some (join between (runsOf (chosen spans (given.has 'C') line)))
          c.forContents operands plainComplaint fun _ cs r => r.say (ofLines ((bareLines cs).filterMap pieces))

/-- Escapes in a list of characters that are put between columns. -/
def separatorsOf (text : String) : List (List Char) :=
  let rec go : List Char → List (List Char)
    | '\\' :: 'n' :: r => ['\n'] :: go r
    | '\\' :: 't' :: r => ['\t'] :: go r
    | '\\' :: '0' :: r => [] :: go r
    | '\\' :: c :: r => [c] :: go r
    | c :: r => [c] :: go r
    | [] => []
  go text.toList

/-- Texts with separators between them, which are used in turn. -/
def joinInTurn (separators : List (List Char)) (parts : List (List Char)) : List Char :=
  (parts.zipIdx.map fun (part, i) =>
    if i = 0 then part else (separators[(i - 1) % max separators.length 1]?).getD [] ++ part).flatten

def paste (c : Call) : Report :=
  c.withOptions (.of "d:sz" [("delimiters", 'd'), ("serial", 's')]) 1 fun given operands =>
    let separators := match given.value? 'd' with
      | some text => separatorsOf text
      | none => [['\t']]
    let separators := if separators.isEmpty then [[]] else separators
    let paths := if operands.isEmpty then ["-"] else operands
    match paths.findSome? fun path => match c.contentOf c.files path with
      | .ok _ => none
      | .error e => some (plainComplaint path e) with
    | some text => c.refuse 1 text
    | none =>
      let r := { Report.quiet 0 c with taken := if paths.any c.isInput then c.input.length else 0 }
      let inputs := (paths.filter c.isInput).length
      let inputLines := bareLines c.input
      let columns := (paths.foldl (fun ((done, n) : List (List (List Char)) × Nat) path =>
        if c.isInput path then
          if given.has 's' then (done ++ [if n = 0 then inputLines else []], n + 1)
          else (done ++ [(inputLines.zipIdx.filter fun (_, i) => i % inputs = n).map (·.1)], n + 1)
        else (done ++ [bareLines ((c.contentOf c.files path).toOption.getD [])], n)) ([], 0)).1
      if given.has 's' then r.say (ofLines (columns.map (joinInTurn separators)))
      else
        let height := (columns.map List.length).foldl max 0
        r.say (ofLines ((List.range height).map fun i => joinInTurn separators (columns.map fun col => (col[i]?).getD [])))

/-! ### Width -/

/-- The column behind a character. -/
def columnAfter (byBytes : Bool) (column : Nat) (c : Char) : Nat :=
  if byBytes then column + 1
  else match c with
    | '\x08' => column - 1
    | '\r' => 0
    | '\t' => (column / 8 + 1) * 8
    | _ => column + 1

/-- A line in pieces that are not wider than asked for; at most `fuel` characters. -/
def folded (byBytes atBlanks : Bool) (width : Nat) : Nat → Nat → List Char → List Char → List Char
  | 0, _, done, rest => done.reverse ++ rest
  | _ + 1, _, done, [] => done.reverse
  | fuel + 1, column, done, c :: cs =>
    let next := columnAfter byBytes column c
    if next ≤ width || done.isEmpty then folded byBytes atBlanks width fuel next (c :: done) cs
    else
      let kept := if atBlanks then done.takeWhile fun d => d != ' ' && d != '\t' else []
      let kept := if kept.length = done.length then [] else kept
      let line := (done.drop kept.length).reverse
      let rest := kept.reverse ++ c :: cs
      line ++ '\n' :: (match rest with
        | d :: ds => folded byBytes atBlanks width fuel (columnAfter byBytes 0 d) [d] ds
        | [] => [])

def fold (c : Call) : Report :=
  let args := match c.args with
    | arg :: rest => if arg.toList.head? = some '-' && (arg.toList.drop 1).all isAsciiDigit && 1 < arg.length then
        ("-w" ++ String.ofList (arg.toList.drop 1)) :: rest else c.args
    | [] => []
  (c.withArgs args).withOptions (.of "bsw:c" [("width", 'w'), ("bytes", 'b'), ("spaces", 's')]) 1 fun given operands =>
    match readDigits? 10 ((given.value? 'w').getD "80").toList with
    | none | some 0 => c.refuse 1 ("invalid number of columns: " ++ quoted ((given.value? 'w').getD ""))
    | some width =>
      let change (line : List Char) : List Char :=
        let text := bare line
        folded (given.has 'b') (given.has 's') width (2 * text.length * (text.length + 1) + 1) 0 [] text ++ line.drop text.length
      overContents plainComplaint (fun cs => ((linesOf cs).map change).flatten) operands c

/-- Tabs as blanks up to the next stop. -/
def expanded (stop : Nat) (initialOnly : Bool) (line : List Char) : List Char :=
  (line.foldl (fun ((done, column, initial) : List Char × Nat × Bool) c =>
    if c = '\t' && (initial || !initialOnly) then
      let n := stop - column % stop
      (List.replicate n ' ' ++ done, column + n, initial)
    else (c :: done, column + 1, initial && c = ' ')) ([], 0, true)).1.reverse

def expand (c : Call) : Report :=
  c.withOptions (.of "it:" [("tabs", 't'), ("initial", 'i')]) 1 fun given operands =>
    match readDigits? 10 ((given.value? 't').getD "8").toList with
    | none | some 0 => c.refuse 1 ("tab size contains invalid character(s): " ++ quoted ((given.value? 't').getD ""))
    | some stop => overContents plainComplaint
        (fun cs => ((linesOf cs).map fun line => expanded stop (given.has 'i') (bare line) ++ line.drop (bare line).length).flatten)
        operands c

/-! ### Characters -/

/-- A part of a set of characters. -/
inductive SetPart where
  | chars (cs : List Char)
  /-- A character as often as it takes to make the set as long as the other one, or so many times. -/
  | fill (c : Char) (count : Option Nat)
  | named (name : String)
  deriving DecidableEq, Repr

inductive SetError where
  | reversed (range : String)
  | noSuchClass (name : String)
  | badCount (text : String)
  deriving DecidableEq, Repr

def SetError.message : SetError → String
  | .reversed range => "range-endpoints of " ++ quoted range ++ " are in reverse collating sequence order"
  | .noSuchClass name => "invalid character class " ++ quoted name
  | .badCount s => "invalid repeat count " ++ quoted s ++ " in [c*n] construct"

/-- The characters of a set with their escapes replaced, and which of them had one. -/
def unescapedSet : Nat → List Char → List (Char × Bool)
  | 0, _ | _, [] => []
  | fuel + 1, '\\' :: r => match octalByte? r, r with
    | some (c, rest), _ => (c, true) :: unescapedSet fuel rest
    | none, [] => [('\\', true)]
    | none, c :: rest => ((escapedLetter? c).getD c, true) :: unescapedSet fuel rest
  | fuel + 1, c :: r => (c, false) :: unescapedSet fuel r

def charsBetween (a b : Char) : List Char := (List.range (b.toNat + 1 - a.toNat)).map fun i => Char.ofNat (a.toNat + i)

/-- The parts of a set; at most `fuel` of them. -/
def setParts : Nat → List (Char × Bool) → Except SetError (List SetPart)
  | 0, _ | _, [] => .ok []
  | fuel + 1, cs =>
    let go (p : SetPart) (rest : List (Char × Bool)) : Except SetError (List SetPart) := (setParts fuel rest).map (p :: ·)
    let plain : Except SetError (List SetPart) := match cs with
      | (a, _) :: ('-', false) :: (b, _) :: rest =>
        if b < a then .error (.reversed (String.ofList [a, '-', b])) else go (.chars (charsBetween a b)) rest
      | (c, _) :: rest => go (.chars [c]) rest
      | [] => .ok []
    match cs with
    | ('[', false) :: (':', false) :: r =>
      let name := (r.takeWhile fun (c, _) => c != ':').map (·.1)
      match r.drop name.length with
      | (':', _) :: (']', _) :: rest =>
        let name := String.ofList name
        if ["alnum", "alpha", "blank", "cntrl", "digit", "graph", "lower", "print", "punct", "space", "upper",
            "xdigit"].contains name then go (.named name) rest
        else .error (.noSuchClass name)
      | _ => plain
    | ('[', false) :: ('=', false) :: (c, _) :: ('=', false) :: (']', false) :: rest => go (.chars [c]) rest
    | ('[', false) :: (c, _) :: ('*', false) :: r =>
      let digits := (r.takeWhile fun (d, escaped) => isAsciiDigit d && !escaped).map (·.1)
      match r.drop digits.length with
      | (']', false) :: rest =>
        let base := if digits.head? = some '0' then 8 else 10
        match digits, readDigits? base digits with
        | [], _ => go (.fill c none) rest
        | _, some 0 => go (.fill c none) rest
        | _, some n => go (.fill c (some n)) rest
        | _, none => .error (.badCount (String.ofList digits))
      | _ => plain
    | _ => plain

/-- All characters that a class holds, in their order. -/
def classChars (name : String) : List Char := ((List.range 256).map Char.ofNat).filter (isInClass name)

/-- The characters of a set, brought to a length where a part may fill it up. -/
def setChars (length : Option Nat) (parts : List SetPart) : List Char :=
  let plain (p : SetPart) : List Char := match p with
    | .chars cs => cs
    | .named name => classChars name
    | .fill c count => List.replicate (count.getD 0) c
  let others := ((parts.map plain).map List.length).foldl (· + ·) 0
  (parts.map fun p => match p with
    | .fill c none => List.replicate ((length.getD 0) - others) c
    | p => plain p).flatten

/-- Only one of several equal characters in a row that a set holds. -/
def squeezed (set : List Char) (cs : List Char) : List Char :=
  (cs.foldl (fun (done : List Char) c => match done with
    | d :: _ => if c = d && set.contains c then done else c :: done
    | [] => [c]) []).reverse

/-- Which character stands for each byte. -/
def replacements (old new : List Char) : Array Char :=
  let pairs := old.zip (new ++ List.replicate (old.length - new.length) (new.getLastD '\x00'))
  pairs.foldl (fun (table : Array Char) (a, b) => table.setIfInBounds a.toNat b) ((List.range 256).map Char.ofNat).toArray

def tr (c : Call) : Report :=
  c.withOptions { OptionTable.of "cCdst" [("delete", 'd'), ("complement", 'c'), ("squeeze-repeats", 's'),
      ("truncate-set1", 't')] with inOrder := true } 1 fun given operands =>
    let (deletes, squeezes, complement) := (given.has 'd', given.has 's', given.has 'c' || given.has 'C')
    let least := if deletes = squeezes then 2 else 1
    let most := if deletes && !squeezes then 1 else 2
    match operands with
    | [] => c.misused 1 "missing operand"
    | first :: rest =>
      if operands.length < least then c.misused 1 ("missing operand after " ++ quoted first ++ "\n"
        ++ (if deletes then "Two strings must be given when both deleting and squeezing repeats."
          else "Two strings must be given when translating."))
      else if most < operands.length then c.misused 1 ("extra operand " ++ quoted ((operands.drop most).headD "")
        ++ (if operands.length = 2 then "\nOnly one string may be given when deleting without squeezing repeats." else ""))
      else
        let parts (s : String) : Except SetError (List SetPart) := setParts (s.length + 1) (unescapedSet s.length s.toList)
        match parts first, parts (rest.headD "") with
        | .error e, _ | _, .error e => c.refuse 1 e.message
        | .ok p, .ok q =>
          let named := setChars none p
          let old := if complement then ((List.range 256).map Char.ofNat).filter (!named.contains ·) else named
          let r := (Report.quiet 0 c).drained c
          if deletes then
            let kept := c.input.filter (!old.contains ·)
            r.say (if squeezes then squeezed (setChars none q) kept else kept)
          else if rest.isEmpty then r.say (squeezed old c.input)
          else
            let new := setChars (some old.length) q
            if new.isEmpty && !given.has 't' then c.refuse 1 "when not truncating set1, string2 must be non-empty"
            else
              let old := if given.has 't' then old.take new.length else old
              let table := replacements old new
              let changed := c.input.map fun d => (table[d.toNat]?).getD d
              r.say (if squeezes then squeezed new changed else changed)

/-! ### Counting -/

/-- A number as it is given: whether it is negative, its value, and how many digits stand behind its point. -/
structure Given10 where
  negative : Bool
  value : Quotient
  places : Nat
  /-- How wide it is without its fraction. -/
  whole : Nat

def readCounted? (arg : String) : Option Given10 :=
  let (negative, digits) := match arg.toList with
    | '-' :: ds => (true, ds)
    | '+' :: ds => (false, ds)
    | ds => (false, ds)
  let mantissa := digits.takeWhile fun c => c != 'e' && c != 'E'
  let exponent := digits.length != mantissa.length
  match digits with
  | '0' :: 'x' :: ds => (readDigits? 16 ds).map fun n => ⟨negative, ⟨n, 1⟩, 0, (decimalDigits n).length⟩
  | _ => match readDecimal digits with
    | some (q, []) =>
      let places := if exponent then 0 else ((cut? '.' digits).map fun (_, b) => b.length).getD 0
      let whole := (digits.takeWhile isAsciiDigit).length
      some ⟨negative, q, places, (if exponent then (decimalDigits (q.scale 10 0).round).length else max whole 1)
        + if negative then 1 else 0⟩
    | _ => none

/-- Numbers from one to another by steps. -/
def seq (c : Call) : Report :=
  let isNumber (arg : String) : Bool := match arg.toList with
    | '-' :: d :: _ => isAsciiDigit d || d = '.'
    | _ => false
  let options := c.args.takeWhile fun arg => !isNumber arg && arg.startsWith "-"
  let guarded := options ++ (if (c.args.drop options.length).head?.any isNumber then ["--"] else []) ++ c.args.drop options.length
  (c.withArgs guarded).withOptions { OptionTable.of "f:s:w" [("equal-width", 'w'), ("separator", 's'), ("format", 'f')] with
      inOrder := true } 1 fun given operands =>
    let wrong := operands.find? fun arg => (readCounted? arg).isNone
    let numbers := operands.filterMap readCounted?
    match wrong, operands.length with
    | _, 0 => c.misused 1 "missing operand"
    | some arg, _ => c.misused 1 ("invalid floating point argument: " ++ quoted arg)
    | none, n =>
      if 3 < n then c.misused 1 ("extra operand " ++ quoted ((operands.drop 3).headD ""))
      else
        let one : Given10 := ⟨false, ⟨1, 1⟩, 0, 1⟩
        let (first, step, last) := match numbers with
          | [last] => (one, one, last)
          | [first, last] => (first, one, last)
          | [first, step, last] => (first, step, last)
          | _ => (one, one, one)
        let places := max first.places step.places
        let scaled (n : Given10) : Int :=
          let m := Int.ofNat (n.value.scale 10 (Int.ofNat (max places last.places))).round
          if n.negative then -m else m
        let (a, d, b) := (scaled first, scaled step, scaled last)
        if d = 0 then c.misused 1 ("invalid Zero increment value: " ++ quoted ((operands.drop 1).headD ""))
        else
          let count := if 0 < d then (if a ≤ b then ((b - a) / d).toNat + 1 else 0) else if b ≤ a then ((a - b) / (-d)).toNat + 1 else 0
          let extra := max places last.places - places
          let text (n : Int) : List Char :=
            (if n < 0 then ['-'] else []) ++ pointed places (n.natAbs / Nat.pow 10 extra) false
          let widest := max (text a).length (text (a + Int.ofNat (count - 1) * d)).length
          let equal (cs : List Char) : List Char := match cs with
            | '-' :: ds => '-' :: padded (widest - 1) ds
            | ds => padded widest ds
          let shown (n : Int) : List Char := match given.value? 'f' with
            | some format => (printf format [String.ofList (text n)]).output
            | none => if given.has 'w' then equal (text n) else text n
          let parts := (List.range (min count 100000)).map fun i => shown (a + Int.ofNat i * d)
          let between := ((given.value? 's').map String.toList).getD ['\n']
          let r := Report.quiet 0 c
          if parts.isEmpty then r else r.say (join between parts ++ ['\n'])

end KeyFeed.Host.Programs
