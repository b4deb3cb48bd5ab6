import KeyFeed.Host.Programs.Call
import KeyFeed.Host.Programs.RegexReader

/-! Expressions whose words are arguments: numbers and texts, compared, reckoned with, or matched against a regular
    expression. A part whose value cannot matter is read but not worked out. -/

namespace KeyFeed.Host.Programs
open Text

inductive ExpressionError where
  | missingAfter (word : String)
  | unexpected (word : String)
  | closingAfter (word : String)
  | closingInstead (word : String)
  | unexpectedClosing
  | notANumber
  | divisionByZero
  | regex (e : RegexError)
  deriving DecidableEq, Repr

def ExpressionError.message : ExpressionError → String
  | .missingAfter s => "syntax error: missing argument after " ++ quoted s
  | .unexpected s => "syntax error: unexpected argument " ++ quoted s
  | .closingAfter s => "syntax error: expecting ')' after " ++ quoted s
  | .closingInstead s => "syntax error: expecting ')' instead of " ++ quoted s
  | .unexpectedClosing => "syntax error: unexpected ')'"
  | .notANumber => "non-integer argument"
  | .divisionByZero => "division by zero"
  | .regex e => e.message

namespace Expression

/-- A whole number and nothing else. -/
def number? (s : String) : Option Int :=
  match s.toList with
  | '-' :: ds => (readDigits? 10 ds).map fun n => - Int.ofNat n
  | ds => (readDigits? 10 ds).map Int.ofNat

/-- A value that counts as false. -/
def isNull (s : String) : Bool :=
  let digits := match s.toList with
    | '-' :: ds => ds
    | ds => ds
  s.isEmpty || (!digits.isEmpty && digits.all (· = '0'))

/-- A value, the last word that was used, and the words that follow. -/
abbrev Valued := Except ExpressionError (String × String × List String)

/-- What a regular expression matches at the beginning of a text: the text of its first group, or the length. -/
def matched (text pattern : String) : Except ExpressionError String :=
  match readRegex false pattern.toList with
  | .error e => .error (.regex e)
  | .ok (r, groups) =>
    let cs := text.toList.toArray
    match r.matchAt ⟨false, false⟩ cs 0 with
    | some a => .ok (if groups = 0 then decimal a.position else String.ofList (a.groupText cs 1))
    | none => .ok (if groups = 0 then "0" else "")

def reckon (sign : String) (a b : String) : Except ExpressionError String :=
  match number? a, number? b with
  | some m, some n => match sign with
    | "+" => .ok (toString (m + n))
    | "-" => .ok (toString (m - n))
    | "*" => .ok (toString (m * n))
    | "/" => if n = 0 then .error .divisionByZero else .ok (toString (m.tdiv n))
    | _ => if n = 0 then .error .divisionByZero else .ok (toString (m.tmod n))
  | _, _ => .error .notANumber

def compared (sign a b : String) : String :=
  let order := match number? a, number? b with
    | some m, some n => compare m n
    | _, _ => compare a b
  let truth : Bool := match sign with
    | "<" => order == .lt
    | "<=" => order != .gt
    | "=" | "==" => order == .eq
    | "!=" => order != .eq
    | ">=" => order != .lt
    | _ => order == .gt
  if truth then "1" else "0"

/-- How strongly an operator binds. -/
def strength (word : String) : Nat :=
  if word = "|" then 1
  else if word = "&" then 2
  else if ["<", "<=", "=", "==", "!=", ">=", ">"].contains word then 3
  else if word = "+" || word = "-" then 4
  else if word = "*" || word = "/" || word = "%" then 5
  else if word = ":" then 6
  else 0

/-- The value of an operator between two values. -/
def combine (sign a b : String) : Except ExpressionError String :=
  match strength sign with
  | 1 => .ok (if !isNull a then a else if isNull b then "0" else b)
  | 2 => .ok (if isNull a || isNull b then "0" else a)
  | 3 => .ok (compared sign a b)
  | 6 => matched a b
  | _ => reckon sign a b

mutual

/-- A value that no operator follows which binds at least so strongly; at most `fuel` steps. -/
def readValue : Nat → Bool → Nat → String → List String → Valued
  | 0, _, _, last, words => .ok ("", last, words)
  | fuel + 1, live, least, last, words =>
    match if 6 < least then readOperand fuel live last words else readValue fuel live (least + 1) last words with
    | .ok (a, last, words) => readFurther fuel live least a last words
    | .error e => .error e

/-- Operators of one strength, from left to right. -/
def readFurther : Nat → Bool → Nat → String → String → List String → Valued
  | 0, _, _, a, last, words => .ok (a, last, words)
  | _ + 1, _, _, a, last, [] => .ok (a, last, [])
  | fuel + 1, live, least, a, last, sign :: words =>
    if strength sign != least || 6 < least then .ok (a, last, sign :: words)
    else
      let needed := live && (least != 1 || isNull a) && (least != 2 || !isNull a)
      match readValue fuel needed (least + 1) sign words with
      | .error e => .error e
      | .ok (b, last, words) => match if live then combine sign a b else .ok a with
        | .error e => .error e
        | .ok value => readFurther fuel live least value last words

/-- A word, a group in brackets, or an operation that is named in front of its operands. -/
def readOperand : Nat → Bool → String → List String → Valued
  | 0, _, last, words => .ok ("", last, words)
  | _ + 1, _, last, [] => .error (.missingAfter last)
  | fuel + 1, live, _, word :: words =>
    let operand (last : String) (words : List String) : Valued := readOperand fuel live last words
    match word with
    | "+" => match words with
      | [] => .error (.missingAfter "+")
      | w :: rest => .ok (w, w, rest)
    | "length" => (operand word words).map fun (a, last, rest) => (decimal a.length, last, rest)
    | "match" => match operand word words with
      | .error e => .error e
      | .ok (a, last, rest) => match operand last rest with
        | .error e => .error e
        | .ok (b, last, rest) => (if live then matched a b else .ok "").map fun value => (value, last, rest)
    | "index" => match operand word words with
      | .error e => .error e
      | .ok (a, last, rest) => (operand last rest).map fun (b, last, rest) =>
        (decimal (((a.toList.findIdx? b.toList.contains).map (· + 1)).getD 0), last, rest)
    | "substr" => match operand word words with
      | .error e => .error e
      | .ok (a, last, rest) => match operand last rest with
        | .error e => .error e
        | .ok (b, last, rest) => (operand last rest).map fun (n, last, rest) =>
          let text := match number? b, number? n with
            | some start, some count =>
              if start ≤ 0 || count ≤ 0 then "" else String.ofList ((a.toList.drop (start.toNat - 1)).take count.toNat)
            | _, _ => ""
          (text, last, rest)
    | "(" => match readValue fuel live 1 "(" words with
      | .error e => .error e
      | .ok (_, last, []) => .error (.closingAfter last)
      | .ok (a, _, ")" :: rest) => .ok (a, ")", rest)
      | .ok (_, _, other :: _) => .error (.closingInstead other)
    | ")" => .error .unexpectedClosing
    | word => .ok (word, word, words)

end

end Expression

/-- Works out an expression; the status tells whether it counts as true. -/
def expr (c : Call) : Report :=
  if c.args = ["--help"] || c.args = ["--version"] then .saying ("Usage: " ++ c.name ++ " EXPRESSION\n") c
  else
    let words := if c.args.head? = some "--" then c.args.drop 1 else c.args
    if words.isEmpty then c.misused 2 "missing operand"
    else match Expression.readValue (16 * words.length + 16) true 1 "" words with
      | .error e => c.refuse 2 e.message
      | .ok (_, _, other :: _) => c.refuse 2 (ExpressionError.unexpected other).message
      | .ok (value, _, []) => (Report.saying (value ++ "\n") c).setStatus (if Expression.isNull value then 1 else 0)

end KeyFeed.Host.Programs
