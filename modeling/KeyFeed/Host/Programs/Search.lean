import KeyFeed.Host.Programs.Making
import KeyFeed.Host.Programs.RegexReader

/-! Searching: the lines, or the parts of lines, that match one of several patterns. -/

namespace KeyFeed.Host.Programs
open Text Shell

/-- What is searched for. -/
structure Search where
  patterns : List Regex
  folded : Bool
  wholeLine : Bool
  wholeWord : Bool
  inverted : Bool

/-- A text that stands for itself as a regular expression. -/
def literalRegex (cs : List Char) : Regex := cs.foldr (fun c r => .both (.char c) r) .empty

namespace Search

/-- The longest match of one pattern at a position that is as long as asked for. -/
def matchAt (s : Search) (text : Array Char) (start : Nat) (r : Regex) : Option Nat :=
  let ends := (r.ends text ⟨s.folded, false⟩ ⟨start, []⟩).map Progress.position
  let isEdge (n : Nat) : Bool := !(Regex.isWordAt text (start - 1) && 0 < start) && !Regex.isWordAt text n
  let suitable := ends.filter fun n =>
    if s.wholeLine then start = 0 && n = text.size
    else !s.wholeWord || isEdge n
  suitable.foldl (fun best n => some (max n (best.getD 0))) none

/-- The first place at or behind a position where a pattern matches, and how far the longest match reaches; at most `fuel`
    positions. -/
def findFrom (s : Search) (text : Array Char) : Nat → Nat → Option (Nat × Nat)
  | 0, _ => none
  | fuel + 1, start =>
    if text.size < start then none
    else match (s.patterns.filterMap (s.matchAt text start)) with
      | [] => findFrom s text fuel (start + 1)
      | n :: ns => some (start, ns.foldl max n)

def find (s : Search) (text : Array Char) (start : Nat) : Option (Nat × Nat) :=
  s.findFrom text (text.size + 1 - start) start

def chooses (s : Search) (line : List Char) : Bool := (s.find line.toArray 0).isSome != s.inverted

/-- All parts of a text that match and are not empty, with the positions at which they begin; at most `fuel` of them. -/
def parts (s : Search) (text : Array Char) : Nat → Nat → List (Nat × List Char)
  | 0, _ => []
  | fuel + 1, start => match s.find text start with
    | none => []
    | some (a, b) =>
      if b ≤ a then parts s text fuel (a + 1) else (a, (text.extract a b).toList) :: parts s text fuel b

end Search

/-- What is told about one text. -/
structure Listing where
  title : Option String
  lines : List (List Char)
  count : Nat

/-- Turns an option that is a number into one with a letter. -/
def spellContext (args : List String) : List String :=
  args.map fun arg => match arg.toList with
    | '-' :: d :: ds => if (d :: ds).all isAsciiDigit then "-C" ++ String.ofList (d :: ds) else arg
    | _ => arg

def grepTable : OptionTable :=
  .of "EFGPe:f:iywxzcvlLm:noqshHbarRA:B:C:UTVd:D:uIK:N:O:" [("extended-regexp", 'E'), ("fixed-strings", 'F'),
    ("basic-regexp", 'G'), ("perl-regexp", 'P'), ("regexp", 'e'), ("file", 'f'), ("ignore-case", 'i'), ("word-regexp", 'w'),
    ("line-regexp", 'x'), ("count", 'c'), ("invert-match", 'v'), ("files-with-matches", 'l'), ("files-without-match", 'L'),
    ("max-count", 'm'), ("line-number", 'n'), ("only-matching", 'o'), ("quiet", 'q'), ("silent", 'q'), ("no-messages", 's'),
    ("no-filename", 'h'), ("with-filename", 'H'), ("byte-offset", 'b'), ("text", 'a'), ("recursive", 'r'),
    ("after-context", 'A'), ("before-context", 'B'), ("context", 'C'), ("null-data", 'z'), ("binary", 'U'), ("include", 'K'),
    ("exclude", 'N'), ("color", 'u'), ("colour", 'u')]

/-- Which lines around those that are chosen are shown too, as pairs of a number and whether the line is chosen. -/
def withContext (before after : Nat) (chosen : List Bool) : List (Nat × Bool) :=
  let numbers := (chosen.zipIdx.filter fun (yes, _) => yes).map (·.2)
  (chosen.zipIdx.filter fun (yes, i) => yes || numbers.any fun n => (i < n && n ≤ i + before) || (n < i && i ≤ n + after)).map
    fun (yes, i) => (i, yes)

/-- The lines of one text that are shown, with what stands in front of them. -/
def grepLines (g : Given) (s : Search) (most : Option Nat) (title : Option String) (text : List Char) : List (List Char) × Nat :=
  let lines := (bareLines text).toArray
  let number (c : Char) : Nat := ((((g.value? c).orElse fun _ => g.value? 'C').bind fun n => readDigits? 10 n.toList)).getD 0
  let all := lines.toList.map s.chooses
  let chosen := match most with
    | none => all
    | some n => (all.foldl (fun ((done, left) : List Bool × Nat) yes =>
        if yes && left = 0 then (false :: done, 0) else (yes :: done, if yes then left - 1 else left)) ([], n)).1.reverse
  let count := chosen.count true
  let shown := if g.has 'o' then (chosen.zipIdx.filter (·.1)).map fun (_, i) => (i, true)
    else withContext (number 'B') (number 'A') chosen
  let offsets := ((lines.toList.foldl (fun ((done, n) : List Nat × Nat) l => (n :: done, n + l.length + 1)) ([], 0)).1.reverse).toArray
  let begun (mark : Char) (i offset : Nat) : List Char :=
    ((title.map fun t => t.toList ++ [mark]).getD [])
      ++ (if g.has 'n' then decimalDigits (i + 1) ++ [mark] else [])
      ++ (if g.has 'b' then decimalDigits offset ++ [mark] else [])
  let gaps := 0 < number 'A' || 0 < number 'B'
  let (rows, _) := shown.foldl (fun ((rows, last) : List (List Char) × Option Nat) (i, yes) =>
    let line := (lines[i]?).getD []
    let start := (offsets[i]?).getD 0
    let here := if g.has 'o' then
        if s.inverted then [] else (s.parts line.toArray (line.length + 1) 0).map fun (k, part) => begun ':' i (start + k) ++ part
      else [begun (if yes then ':' else '-') i start ++ line]
    let gap := if gaps && !g.has 'o' && last.any (· + 1 < i) then [['-', '-']] else []
    (rows ++ gap ++ here, some i)) ([], none)
  (rows, count)

/-- All files that an operand stands for when directories are searched. -/
def searchedPaths (fs : Files) (deep : Bool) (path : String) : List String :=
  match deep, fs.stat path, fs.resolve true path with
  | true, .ok e, .ok t =>
    if e.isDirectory then
      let below := fs.entries.filter fun (p, _) => t.place.isPrefixOf p && t.place.length < p.length
      below.filterMap fun (p, e) => match e.content with
        | .file _ =>
          some ((if path.isEmpty then "" else if endsInSlash path then path else path ++ "/")
            ++ String.intercalate "/" (p.drop t.place.length))
        | _ => none
    else [path]
  | _, _, _ => [path]

def grep (implied : List (Char × String)) (c : Call) : Report :=
  (c.withArgs (spellContext c.args)).withOptions grepTable 2 fun given operands =>
    let given : Given := ⟨implied ++ given.options⟩
    let usage := "Usage: " ++ c.name ++ " [OPTION]... PATTERNS [FILE]..."
    let named := given.values 'e'
    let fromFiles := (given.values 'f').mapM fun path => (c.contentOf c.files path).mapError fun e => plainComplaint path e
    match fromFiles with
    | .error text => c.refuse 2 text
    | .ok texts =>
      let explicit := !(named.isEmpty && texts.isEmpty)
      let patternLines := (named.map fun s => fields '\n' s.toList).flatten ++ (texts.map bareLines).flatten
      match explicit, operands with
      | false, [] => { Report.quiet 2 c with said := [(2, (usage ++ "\nTry '" ++ c.name
          ++ " --help' for more information.\n").toList)] }
      | _, _ =>
        let patternLines := if explicit then patternLines else fields '\n' (operands.headD "").toList
        let operands := if explicit then operands else operands.drop 1
        let kind := (given.last? ['E', 'F', 'G', 'P']).map (·.1)
        let regexes := patternLines.mapM fun p =>
          if kind = some 'F' then .ok (literalRegex p)
          else (readRegex (kind = some 'E' || kind = some 'P') p).map (·.1)
        let number (o : Char) : Option Nat := (given.value? o).bind fun n => readDigits? 10 n.toList
        let badCount := ['A', 'B', 'C'].find? fun o => (given.value? o).isSome && (number o).isNone
        match regexes, badCount with
        | .error e, _ => c.refuse 2 e.message
        | _, some o => c.refuse 2 ((given.value? o).getD "" ++ ": invalid context length argument")
        | .ok patterns, none =>
          if (given.value? 'm').isSome && (number 'm').isNone then c.refuse 2 "invalid max count"
          else
            let s : Search := ⟨patterns, given.has 'i' || given.has 'y', given.has 'x', given.has 'w', given.has 'v'⟩
            let deep := given.has 'r' || given.has 'R'
            let paths := if operands.isEmpty then
                (if deep then searchedPaths c.files true "." |>.map fun p =>
                  String.ofList (p.toList.drop 2) else ["-"])
              else (operands.map (searchedPaths c.files deep)).flatten
            let titled : Bool := match given.last? ['h', 'H'] with
              | some (o, _) => o == 'H'
              | none => 1 < operands.length || (deep && (operands.isEmpty || operands.any c.files.holdsDirectory))
            let quiet := given.has 'q'
            let (r, found, failed) := paths.foldl (fun ((r, found, failed) : Report × Bool × Bool) path =>
              let isOutput := match c.outputNode, c.files.stat path with
                | some node, .ok e => path != "-" && e.node = node
                | _, _ => false
              let title := if path = "-" then "(standard input)" else path
              let here := if c.isInput path then .ok (c.input.drop r.taken) else c.contentOf r.files path
              let r := if c.isInput path then r.drained c else r
              if quiet && found then (r, found, failed)
              else match here with
                | .error e =>
                  (if given.has 's' then r else r.complain c.name (path ++ ": " ++ reason e), found, true)
                | .ok text =>
                  if isOutput && !quiet && !given.has 'l' && !given.has 'L' then
                    (r.complain c.name (path ++ ": input file is also the output"), found, true)
                  else
                    let (rows, count) := grepLines given s (number 'm') (if titled then some title else none) text
                    let listed := given.has 'l' || given.has 'L'
                    let binary := text.contains '\x00' && !given.has 'a' && !given.has 'z'
                    let r := if quiet then r
                      else if listed then
                        (if (0 < count) = given.has 'l' then r.say (title ++ "\n").toList else r)
                      else if given.has 'c' then
                        r.say ((if titled then title ++ ":" else "") ++ decimal count ++ "\n").toList
                      else if binary && 0 < count then
                        r.complain c.name (title ++ ": binary file matches")
                      else r.say (ofLines rows)
                    (r, found || 0 < count, failed))
              (.quiet 0 c, false, false)
            r.setStatus (if failed && !(quiet && found) then 2 else if found then 0 else 1)

end KeyFeed.Host.Programs
