import KeyFeed.Text.Blank

/-! Patterns: a star for any text, a question mark for any character, and brackets for a choice of characters. A
    character that is guarded has no meaning of its own. -/

namespace KeyFeed.Host.Shell
open Text

/-- Characters, and which of them are guarded. -/
abbrev Field := List (Char × Bool)

def fieldText (f : Field) : String := String.ofList (f.map (·.1))

/-- A choice of characters. -/
inductive Choice where
  | range (first last : Char)
  | named (name : String)
  deriving DecidableEq, Repr

/-- One part of a pattern. -/
inductive Mark where
  | one (c : Char)
  | any
  | many
  /-- One character that is among the choices or, negated, among none. -/
  | among (negated : Bool) (choices : List Choice)
  deriving DecidableEq, Repr

/-- Whether a character belongs to the class of a name. -/
def isInClass (name : String) (c : Char) : Bool :=
  let lower := 'a' ≤ c && c ≤ 'z'
  let upper := 'A' ≤ c && c ≤ 'Z'
  let graphic := '!' ≤ c && c ≤ '~'
  match name with
  | "alpha" => lower || upper
  | "digit" => isAsciiDigit c
  | "alnum" => lower || upper || isAsciiDigit c
  | "lower" => lower
  | "upper" => upper
  | "space" => c = ' ' || ('\t' ≤ c && c ≤ '\r')
  | "blank" => c = ' ' || c = '\t'
  | "punct" => graphic && !(lower || upper || isAsciiDigit c)
  | "graph" => graphic
  | "print" => graphic || c = ' '
  | "cntrl" => c < ' ' || c = '\x7f'
  | "xdigit" => isAsciiDigit c || ('a' ≤ c && c ≤ 'f') || ('A' ≤ c && c ≤ 'F')
  | _ => false

def Choice.holds (c : Char) : Choice → Bool
  | .range a b => a ≤ c && c ≤ b
  | .named name => isInClass name c

/-- The name of a class of characters, if one stands here, and what follows it. -/
def readClass? (f : Field) : Option (String × Field) :=
  match f with
  | ('[', false) :: (':', false) :: r =>
    let name := r.takeWhile fun (c, _) => isAsciiAlpha c
    match r.drop name.length with
    | (':', _) :: (']', _) :: rest => some (fieldText name, rest)
    | _ => none
  | _ => none

/-- The choices up to a closing bracket, and what follows it; at most `fuel` of them. -/
def readChoices : Nat → Field → Option (List Choice × Field)
  | 0, _ => none
  | fuel + 1, f => match readClass? f, f with
    | some (name, rest), _ => (readChoices fuel rest).map fun (choices, rest) => (.named name :: choices, rest)
    | none, [] => none
    | none, (']', false) :: r => some ([], r)
    | none, (a, _) :: ('-', false) :: (b, guarded) :: r =>
      if b = ']' && !guarded then some ([.range a a, .range '-' '-'], r)
      else (readChoices fuel r).map fun (choices, rest) => (.range a b :: choices, rest)
    | none, (a, _) :: r => (readChoices fuel r).map fun (choices, rest) => (.range a a :: choices, rest)

/-- The choices behind an opening bracket; a closing one that comes first is a choice. -/
def readAllChoices (f : Field) : Option (List Choice × Field) :=
  match f with
  | (']', false) :: ('-', false) :: (b, guarded) :: r =>
    if b = ']' && !guarded then some ([.range ']' ']', .range '-' '-'], r)
    else (readChoices f.length r).map fun (choices, rest) => (.range ']' b :: choices, rest)
  | (']', false) :: r => (readChoices f.length r).map fun (choices, rest) => (.range ']' ']' :: choices, rest)
  | f => readChoices (f.length + 1) f

/-- The parts of a pattern, at most `fuel` of them. -/
def marksWithin : Nat → Field → List Mark
  | 0, _ => []
  | _ + 1, [] => []
  | fuel + 1, ('*', false) :: p => .many :: marksWithin fuel p
  | fuel + 1, ('?', false) :: p => .any :: marksWithin fuel p
  | fuel + 1, ('[', false) :: p =>
    let (negated, body) := match p with
      | ('!', false) :: q => (true, q)
      | q => (false, q)
    match readAllChoices body with
    | some (choices, rest) => .among negated choices :: marksWithin fuel rest
    | none => .one '[' :: marksWithin fuel p
  | fuel + 1, ('\\', false) :: (c, _) :: p => .one c :: marksWithin fuel p
  | fuel + 1, (c, _) :: p => .one c :: marksWithin fuel p

def marks (p : Field) : List Mark := marksWithin p.length p

/-- Whether the parts of a pattern match a whole text. -/
def fits : List Mark → List Char → Bool
  | [], cs => cs.isEmpty
  | .many :: p, cs => fits p cs || match cs with
    | [] => false
    | _ :: cs => fits (.many :: p) cs
  | _ :: _, [] => false
  | .one x :: p, c :: cs => x = c && fits p cs
  | .any :: p, _ :: cs => fits p cs
  | .among negated choices :: p, c :: cs => (choices.any (·.holds c)) != negated && fits p cs
termination_by p cs => (cs.length, p.length)

/-- Whether any character of a field has a meaning of its own. -/
def isPattern : Field → Bool
  | [] => false
  | [(c, guarded)] => !guarded && (c = '*' || c = '?' || c = '[')
  | (c, guarded) :: d :: f =>
    if c = '\\' && !guarded then isPattern f
    else (!guarded && (c = '*' || c = '?' || c = '[')) || isPattern (d :: f)

/-- The shortest or the longest part at one end of a text that a pattern matches, taken away. -/
def trimmed (atEnd longest : Bool) (p : Field) (cs : List Char) : List Char :=
  let lengths := List.range (cs.length + 1)
  let parts := marks p
  if atEnd then
    match (if longest then lengths else lengths.reverse).find? fun n => fits parts (cs.drop n) with
    | some n => cs.take n
    | none => cs
  else
    match (if longest then lengths.reverse else lengths).find? fun n => fits parts (cs.take n) with
    | some n => cs.drop n
    | none => cs

end KeyFeed.Host.Shell
