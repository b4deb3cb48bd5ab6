import KeyFeed.Host.Shell.Pattern

/-! Regular expressions and where they match. Of the matches that begin at one position the longest counts, and among
    those the one in which earlier parts took as much as they could. -/

namespace KeyFeed.Host.Programs
open Text Shell

/-- A regular expression. -/
inductive Regex where
  | empty
  | char (c : Char)
  | any
  | among (negated : Bool) (choices : List Choice)
  | both (first second : Regex)
  | either (first second : Regex)
  /-- As many times in a row as the two numbers allow. -/
  | many (r : Regex) (least : Nat) (most : Option Nat)
  /-- A part that can be referred to by its number. -/
  | group (number : Nat) (r : Regex)
  /-- What the group of that number matched. -/
  | back (number : Nat)
  | lineStart
  | lineEnd
  /-- At the beginning of a word, at its end, at either of them, or at none. -/
  | wordStart
  | wordEnd
  | wordEdge
  | noEdge
  deriving DecidableEq, Repr

/-- How far a match has come in a text, and where the groups began and ended. -/
structure Progress where
  position : Nat
  groups : List (Nat × Nat × Nat)
  deriving DecidableEq, Repr

/-- How a text is looked at. -/
structure Manner where
  /-- Whether the case of letters does not count. -/
  folded : Bool
  /-- Whether each line in the text has a beginning and an end of its own. -/
  byLines : Bool
  deriving DecidableEq, Repr

namespace Regex

def isWordChar (c : Char) : Bool := isInClass "alnum" c || c = '_'

/-- A character in its other case. -/
def otherCase (c : Char) : Char := if c.isUpper then c.toLower else c.toUpper

/-- Whether a test holds for a character or, where case does not count, for its other case. -/
def holdsFolded (folded : Bool) (p : Char → Bool) (c : Char) : Bool := p c || (folded && p (otherCase c))

def isWordAt (text : Array Char) (n : Nat) : Bool := (text[n]?).any isWordChar

def startsWordAt (text : Array Char) (n : Nat) : Bool :=
  isWordAt text n && !(0 < n && isWordAt text (n - 1))

def endsWordAt (text : Array Char) (n : Nat) : Bool :=
  !isWordAt text n && 0 < n && isWordAt text (n - 1)

/-- Whether a character stands at a position for which a test holds, and the position behind it. -/
def one (text : Array Char) (p : Char → Bool) (a : Progress) : List Progress :=
  if (text[a.position]?).any p then [{ a with position := a.position + 1 }] else []

/-- All that can be reached by repeating a step, more repetitions first; at most `fuel` of them. -/
def repeated (step : Progress → List Progress) (least : Nat) (most : Option Nat) : Nat → Nat → List Progress →
    List Progress
  | 0, _, _ => []
  | _ + 1, _, [] => []
  | fuel + 1, done, here =>
    let next := if most.any (· ≤ done) then [] else
      ((here.map fun a => (step a).filter fun b => a.position < b.position || done < least).flatten).eraseDups
    repeated step least most fuel (done + 1) next ++ if least ≤ done then here else []

/-- Whether the same text stands at two places. -/
def sameText (text : Array Char) (folded : Bool) (first second : Nat) : Nat → Bool
  | 0 => true
  | n + 1 =>
    (match text[first]?, text[second]? with
      | some c, some d => c = d || (folded && otherCase c = d)
      | _, _ => false) && sameText text folded (first + 1) (second + 1) n

/-- All that a regular expression can reach from a position. -/
def ends (text : Array Char) (m : Manner) : Regex → Progress → List Progress
  | .empty, a => [a]
  | .char c, a => one text (holdsFolded m.folded (· == c)) a
  | .any, a => one text (fun _ => true) a
  | .among negated choices, a =>
    one text (fun c => holdsFolded m.folded (fun c => choices.any (·.holds c)) c != negated) a
  | .both first second, a => (((ends text m first a).map (ends text m second)).flatten).eraseDups
  | .either first second, a => (ends text m first a ++ ends text m second a).eraseDups
  | .many r least most, a =>
    (repeated (ends text m r) least most (text.size - a.position + least + 2) 0 [a]).eraseDups
  | .group number r, a => (ends text m r a).map fun b =>
    { b with groups := (number, a.position, b.position) :: b.groups.filter (·.1 != number) }
  | .back number, a => match a.groups.find? (·.1 == number) with
    | some (_, start, stop) =>
      if sameText text m.folded start a.position (stop - start) then [{ a with position := a.position + (stop - start) }]
      else []
    | none => []
  | .lineStart, a => if a.position = 0 || (m.byLines && text[a.position - 1]? = some '\n') then [a] else []
  | .lineEnd, a => if a.position = text.size || (m.byLines && text[a.position]? = some '\n') then [a] else []
  | .wordStart, a => if startsWordAt text a.position then [a] else []
  | .wordEnd, a => if endsWordAt text a.position then [a] else []
  | .wordEdge, a => if startsWordAt text a.position || endsWordAt text a.position then [a] else []
  | .noEdge, a => if startsWordAt text a.position || endsWordAt text a.position then [] else [a]

/-- The longest match that begins at a position. -/
def matchAt (r : Regex) (m : Manner) (text : Array Char) (start : Nat) : Option Progress :=
  (ends text m r ⟨start, []⟩).foldl (fun (best : Option Progress) a => match best with
    | some b => if b.position < a.position then some a else some b
    | none => some a) none

/-- The first match that begins at a position or behind it, and where it begins; at most `fuel` positions. -/
def findFrom (r : Regex) (m : Manner) (text : Array Char) : Nat → Nat → Option (Nat × Progress)
  | 0, _ => none
  | fuel + 1, start =>
    if text.size < start then none
    else match r.matchAt m text start with
      | some a => some (start, a)
      | none => findFrom r m text fuel (start + 1)

/-- The first match at a position or behind it. -/
def find (r : Regex) (m : Manner) (text : Array Char) (start : Nat) : Option (Nat × Progress) :=
  r.findFrom m text (text.size + 1 - start) start

end Regex

/-- What the group of a number matched in a text. -/
def Progress.groupText (a : Progress) (text : Array Char) (number : Nat) : List Char :=
  match a.groups.find? (·.1 == number) with
  | some (_, start, stop) => (text.extract start stop).toList
  | none => []

end KeyFeed.Host.Programs
