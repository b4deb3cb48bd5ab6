import KeyFeed.Host.Shell.Script
import KeyFeed.Text.Digits

/-! Sums in the command language: whole numbers of sixty-four bits that wrap, variables by their names, which can be set
    on the way, and operators that bind in the usual order. -/

namespace KeyFeed.Host.Shell
open Text

/-- Why a sum has no value. -/
inductive SumError where
  | expecting (what : String)
  | divisionByZero
  /-- A variable holds something that is no number. -/
  | notANumber (value : String)
  deriving DecidableEq, Repr

def SumError.message (expression : String) : SumError → String
  | .expecting what => "arithmetic expression: expecting " ++ what ++ ": \"" ++ expression ++ "\""
  | .divisionByZero => "arithmetic expression: division by zero: \"" ++ expression ++ "\""
  | .notANumber value => "Illegal number: " ++ value

def wrap (n : Int) : Int := Int.bmod n (Nat.pow 2 64)

/-- The nearest number of sixty-four bits. -/
def saturate (n : Int) : Int := max (-9223372036854775808) (min 9223372036854775807 n)

def ofBool (b : Bool) : Int := if b then 1 else 0

inductive SumToken where
  | number (n : Int)
  | name (s : String)
  | sign (s : String)
  | bad
  deriving DecidableEq, Repr

/-- The signs of sums; a longer one comes before its beginning. -/
def sumSigns : List String :=
  ["<<=", ">>=", "||", "&&", "==", "!=", "<=", ">=", "<<", ">>", "+=", "-=", "*=", "/=", "%=", "&=", "^=", "|=", "=", "<",
   ">", "+", "-", "*", "/", "%", "&", "^", "|", "!", "~", "(", ")", "?", ":"]

/-- The number at the beginning of a text, in the base that its first digits show, and what follows it. -/
def leadingDigits (cs : List Char) : Int × List Char :=
  let (base, skipped) : Nat × Nat := match cs with
    | '0' :: 'x' :: c :: _ | '0' :: 'X' :: c :: _ => if (digitValue? 16 c).isSome then (16, 2) else (8, 0)
    | '0' :: _ => (8, 0)
    | _ => (10, 0)
  let digits := (cs.drop skipped).takeWhile fun c => (digitValue? base c).isSome
  (saturate (Int.ofNat ((readDigits? base digits).getD 0)), cs.drop (skipped + digits.length))

/-- The tokens of a sum, at most `fuel` of them. -/
def sumTokens : Nat → List Char → List SumToken
  | 0, _ => []
  | _ + 1, [] => []
  | fuel + 1, c :: r =>
    if c = ' ' || c = '\t' || c = '\n' then sumTokens fuel r
    else if isAsciiDigit c then
      let (n, rest) := leadingDigits (c :: r)
      .number n :: sumTokens fuel rest
    else if isNameStart c then
      let name := (c :: r).takeWhile isNameChar
      .name (String.ofList name) :: sumTokens fuel ((c :: r).drop name.length)
    else match sumSigns.find? fun s => s.toList.isPrefixOf (c :: r) with
      | some s => .sign s :: sumTokens fuel ((c :: r).drop s.length)
      | none => [.bad]

/-- How firmly an operator between two values binds; the logical ones are left out. -/
def firmness? : SumToken → Option (String × Nat)
  | .sign s => match s with
    | "|" => some (s, 1)
    | "^" => some (s, 2)
    | "&" => some (s, 3)
    | "==" | "!=" => some (s, 4)
    | "<" | ">" | "<=" | ">=" => some (s, 5)
    | "<<" | ">>" => some (s, 6)
    | "+" | "-" => some (s, 7)
    | "*" | "/" | "%" => some (s, 8)
    | _ => none
  | _ => none

/-- The operator of a sign that sets a variable; a plain one has none. -/
def assigning? (s : String) : Option (Option String) :=
  match s with
  | "=" => some none
  | "+=" => some (some "+")
  | "-=" => some (some "-")
  | "*=" => some (some "*")
  | "/=" => some (some "/")
  | "%=" => some (some "%")
  | "<<=" => some (some "<<")
  | ">>=" => some (some ">>")
  | "&=" => some (some "&")
  | "^=" => some (some "^")
  | "|=" => some (some "|")
  | _ => none

/-- What an operator makes of two values; nothing can be divided by zero. -/
def operate (sign : String) (a b : Int) : Except SumError Int :=
  match sign with
  | "==" => .ok (ofBool (a = b))
  | "!=" => .ok (ofBool (a ≠ b))
  | "<=" => .ok (ofBool (a ≤ b))
  | ">=" => .ok (ofBool (b ≤ a))
  | "<" => .ok (ofBool (a < b))
  | ">" => .ok (ofBool (b < a))
  | "<<" => .ok (wrap (a * Int.ofNat (Nat.pow 2 (b % 64).toNat)))
  | ">>" => .ok (a >>> (b % 64).toNat)
  | "|" => .ok ((BitVec.ofInt 64 a ||| BitVec.ofInt 64 b).toInt)
  | "^" => .ok ((BitVec.ofInt 64 a ^^^ BitVec.ofInt 64 b).toInt)
  | "&" => .ok ((BitVec.ofInt 64 a &&& BitVec.ofInt 64 b).toInt)
  | "+" => .ok (wrap (a + b))
  | "-" => .ok (wrap (a - b))
  | "*" => .ok (wrap (a * b))
  | "/" => if b = 0 then .error .divisionByZero else .ok (wrap (a.tdiv b))
  | "%" => if b = 0 then .error .divisionByZero else .ok (a.tmod b)
  | _ => .error (.expecting "primary")

/-- The number that a text spells, with blanks around it; no text counts as zero. -/
def numberOf (s : String) : Except SumError Int :=
  let isSpace (c : Char) : Bool := c = ' ' || ('\t' ≤ c && c ≤ '\r')
  let cs := s.toList.dropWhile isSpace
  let (negative, digits) := match cs with
    | '-' :: r => (true, r)
    | '+' :: r => (false, r)
    | r => (false, r)
  let (n, rest) := leadingDigits digits
  if cs.isEmpty then .ok 0
  else if digits.head?.all (!isAsciiDigit ·) || !rest.all isSpace then .error (.notANumber s)
  else .ok (if negative then -n else n)

/-- What is left of a sum, and the variables that it has set, the last of them first. -/
structure Summing where
  rest : List SumToken
  set : List (String × Int)

abbrev Sum := StateT Summing (Except SumError)

namespace Sum

def fail {α : Type} (e : SumError) : Sum α := fun _ => .error e

def peek : Sum (Option SumToken) := return (← get).rest.head?

def skip : Sum Unit := modify fun s => { s with rest := s.rest.tail }

def valueOf (lookup : String → Option String) (name : String) : Sum Int := do
  match (← get).set.find? (·.1 == name) with
  | some (_, n) => return n
  | none => match numberOf ((lookup name).getD "") with
    | .ok n => return n
    | .error e => fail e

mutual

/-- A value with the signs in front of it. Where the value does not count, no variable is looked at or set. -/
def primary (lookup : String → Option String) : Nat → Bool → Sum Int
  | 0, _ => fail (.expecting "primary")
  | fuel + 1, counts => do
    let t ← peek
    skip
    match t with
    | some (.number n) => return n
    | some (.name s) => if counts then valueOf lookup s else return 0
    | some (.sign "(") =>
      let n ← assignment lookup fuel counts
      if (← peek) = some (.sign ")") then
        skip
        return n
      else fail (.expecting "')'")
    | some (.sign "+") => primary lookup fuel counts
    | some (.sign "-") => return wrap (-(← primary lookup fuel counts))
    | some (.sign "!") => return ofBool ((← primary lookup fuel counts) = 0)
    | some (.sign "~") => return -(← primary lookup fuel counts) - 1
    | _ => fail (.expecting "primary")

/-- Values and the operators between them that bind more firmly than `least`. -/
def product (lookup : String → Option String) : Nat → Bool → Nat → Sum Int
  | 0, _, _ => fail (.expecting "primary")
  | fuel + 1, counts, least => do
    let a ← primary lookup fuel counts
    productRest lookup fuel counts least a

def productRest (lookup : String → Option String) : Nat → Bool → Nat → Int → Sum Int
  | 0, _, _, _ => fail (.expecting "primary")
  | fuel + 1, counts, least, a => do
    match (← peek).bind firmness? with
    | none => return a
    | some (sign, strength) =>
      if strength ≤ least then return a
      else
        skip
        let b ← product lookup fuel counts strength
        match if counts then operate sign a b else .ok b with
        | .ok n => productRest lookup fuel counts least n
        | .error e => fail e

def conjunction (lookup : String → Option String) : Nat → Bool → Sum Int
  | 0, _ => fail (.expecting "primary")
  | fuel + 1, counts => do
    let a ← product lookup fuel counts 0
    if (← peek) = some (.sign "&&") then
      skip
      let b ← conjunction lookup fuel (counts && a != 0)
      return ofBool (a != 0 && b != 0)
    else return a

def disjunction (lookup : String → Option String) : Nat → Bool → Sum Int
  | 0, _ => fail (.expecting "primary")
  | fuel + 1, counts => do
    let a ← conjunction lookup fuel counts
    if (← peek) = some (.sign "||") then
      skip
      let b ← disjunction lookup fuel (counts && a = 0)
      return ofBool (a != 0 || b != 0)
    else return a

def conditional (lookup : String → Option String) : Nat → Bool → Sum Int
  | 0, _ => fail (.expecting "primary")
  | fuel + 1, counts => do
    let a ← disjunction lookup fuel counts
    if (← peek) = some (.sign "?") then
      skip
      let b ← assignment lookup fuel (counts && a != 0)
      if (← peek) = some (.sign ":") then
        skip
        let c ← conditional lookup fuel (counts && a = 0)
        return if a != 0 then b else c
      else fail (.expecting "':'")
    else return a

def assignment (lookup : String → Option String) : Nat → Bool → Sum Int
  | 0, _ => fail (.expecting "primary")
  | fuel + 1, counts => do
    match (← get).rest with
    | .name s :: .sign sign :: _ => match assigning? sign with
      | none => conditional lookup fuel counts
      | some operator =>
        skip
        skip
        let b ← assignment lookup fuel counts
        if counts then
          let n ← match operator with
            | none => pure b
            | some operator => do
              let a ← valueOf lookup s
              match operate operator a b with
              | .ok n => pure n
              | .error e => fail e
          modify fun sum => { sum with set := (s, n) :: sum.set }
          return n
        else return b
    | _ => conditional lookup fuel counts

end

end Sum

/-- The value of a sum, which must be the whole text, and the variables that it sets, in their order. -/
def evaluate (lookup : String → Option String) (s : String) : Except SumError (Int × List (String × Int)) :=
  let ts := sumTokens (s.length + 1) s.toList
  match (Sum.assignment lookup (10 * ts.length + 10) true).run ⟨ts, []⟩ with
    | .error e => .error e
    | .ok (n, sum) => if sum.rest.isEmpty then .ok (n, sum.set.reverse) else .error (.expecting "EOF")

end KeyFeed.Host.Shell
