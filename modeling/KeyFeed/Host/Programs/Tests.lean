import KeyFeed.Host.Files
import KeyFeed.Host.Shell.Arithmetic

/-! Tests: texts compared as such or as numbers, what is known about files, and how tests are joined and turned round. -/

namespace KeyFeed.Host.Programs
open Text

/-- Why a test says nothing. -/
inductive TestError where
  | unexpectedOperator (after : String)
  | argumentExpected (operator : String)
  | closingExpected
  | notANumber (s : String)
  deriving DecidableEq, Repr

def TestError.message : TestError → String
  | .unexpectedOperator s => s ++ ": unexpected operator"
  | .argumentExpected s => s ++ ": argument expected"
  | .closingExpected => "closing paren expected"
  | .notANumber s => "Illegal number: " ++ s

def unaryOperators : List String :=
  ["-b", "-c", "-d", "-e", "-f", "-g", "-k", "-p", "-r", "-s", "-t", "-u", "-w", "-x", "-z", "-n", "-h", "-L", "-S", "-O",
   "-G"]

def binaryOperators : List String :=
  ["=", "!=", "<", ">", "-eq", "-ne", "-gt", "-ge", "-lt", "-le", "-nt", "-ot", "-ef"]

/-- A whole number with blanks around it. -/
def testNumber (s : String) : Except TestError Int :=
  let isSpace (c : Char) : Bool := c = ' ' || ('\t' ≤ c && c ≤ '\r')
  let cs := (s.toList.dropWhile isSpace).reverse.dropWhile isSpace |>.reverse
  let n := match cs with
    | '-' :: r => (readDigits? 10 r).map fun n => - Int.ofNat n
    | '+' :: r => (readDigits? 10 r).map Int.ofNat
    | r => (readDigits? 10 r).map Int.ofNat
  match n.filter fun n => -9223372036854775808 ≤ n && n ≤ 9223372036854775807 with
  | some n => .ok n
  | none => .error (.notANumber s)

def isKind (fs : Files) (path : String) (p : Entry → Bool) : Bool :=
  match fs.stat path with
  | .ok e => p e
  | .error _ => false

/-- A test of one operand. -/
def unaryTest (fs : Files) (sign operand : String) : Bool :=
  match sign with
  | "-n" => !operand.isEmpty
  | "-z" => operand.isEmpty
  | "-e" | "-r" | "-w" | "-O" | "-G" => fs.contains operand
  | "-f" => isKind fs operand fun e => match e.content with
    | .file _ | .program _ => true
    | _ => false
  | "-d" => fs.holdsDirectory operand
  | "-s" => isKind fs operand fun e => match e.content with
    | .file bytes => !bytes.isEmpty
    | .directory | .program _ => true
    | _ => false
  | "-S" => isKind fs operand fun e => match e.content with
    | .socket _ => true
    | _ => false
  | "-c" => isKind fs operand fun e => match e.content with
    | .void | .zeros _ | .terminal | .stream _ => true
    | _ => false
  | "-x" => isKind fs operand fun e => e.isExecutable || e.isDirectory
  | "-u" => isKind fs operand fun e => e.mode &&& 0o4000 != 0
  | "-g" => isKind fs operand fun e => e.mode &&& 0o2000 != 0
  | "-k" => isKind fs operand fun e => e.mode &&& 0o1000 != 0
  | "-h" | "-L" => match fs.linkStat operand with
    | .ok ⟨.link _, _, _⟩ => true
    | _ => false
  | _ => false

/-- A test of two operands. -/
def binaryTest (fs : Files) (a sign b : String) : Except TestError Bool :=
  let numeric (compare : Int → Int → Bool) : Except TestError Bool := do
    return compare (← testNumber a) (← testNumber b)
  match sign with
  | "=" => .ok (a = b)
  | "!=" => .ok (a ≠ b)
  | "<" => .ok (decide (a < b))
  | ">" => .ok (decide (b < a))
  | "-eq" => numeric (· == ·)
  | "-ne" => numeric (· != ·)
  | "-lt" => numeric (· < ·)
  | "-le" => numeric (· ≤ ·)
  | "-gt" => numeric (fun m n => n < m)
  | "-ge" => numeric (fun m n => n ≤ m)
  | "-ef" => match fs.stat a, fs.stat b with
    | .ok e, .ok f => .ok (e.node = f.node)
    | _, _ => .ok false
  | _ => .ok false

/-- What a test makes of its first words: a truth, the last word that was used, and the words behind it. -/
abbrev Tested := Except TestError (Bool × String × List String)

/-- Whether the operator of one operand that stands here is itself an operand. -/
def standsAlone : List String → Bool
  | _ :: [] => true
  | _ :: b :: _ :: _ => binaryOperators.contains b
  | _ => false

mutual

/-- A test, in brackets perhaps. -/
def testPrimary (fs : Files) : Nat → String → List String → Tested
  | 0, last, words => .ok (false, last, words)
  | _ + 1, last, [] => .ok (false, last, [])
  | fuel + 1, _, w :: words =>
    if w = "(" && !words.isEmpty then
      match words with
      | ")" :: rest => .ok (false, ")", rest)
      | _ => match testEither fs fuel w words with
        | .ok (truth, _, ")" :: rest) => .ok (truth, ")", rest)
        | .ok _ => .error .closingExpected
        | .error e => .error e
    else if unaryOperators.contains w && !standsAlone (w :: words) then
      match words with
      | [] => .error (.argumentExpected w)
      | a :: rest => .ok (unaryTest fs w a, a, rest)
    else match words with
      | sign :: rest =>
        if binaryOperators.contains sign then
          match rest with
          | [] => .error (.argumentExpected sign)
          | b :: rest => (binaryTest fs w sign b).map fun truth => (truth, b, rest)
        else .ok (!w.isEmpty, w, sign :: rest)
      | [] => .ok (!w.isEmpty, w, [])

def testNegated (fs : Files) : Nat → String → List String → Tested
  | 0, last, words => .ok (false, last, words)
  | fuel + 1, last, words => match words with
    | "!" :: rest => (testNegated fs fuel "!" rest).map fun (truth, last, words) => (!truth, last, words)
    | words => testPrimary fs fuel last words

def testBoth (fs : Files) : Nat → String → List String → Tested
  | 0, last, words => .ok (false, last, words)
  | fuel + 1, last, words => match testNegated fs fuel last words with
    | .ok (truth, _, "-a" :: rest) =>
      (testBoth fs fuel "-a" rest).map fun (other, last, words) => (truth && other, last, words)
    | result => result

def testEither (fs : Files) : Nat → String → List String → Tested
  | 0, last, words => .ok (false, last, words)
  | fuel + 1, last, words => match testBoth fs fuel last words with
    | .ok (truth, _, "-o" :: rest) =>
      (testEither fs fuel "-o" rest).map fun (other, last, words) => (truth || other, last, words)
    | result => result

end

/-- The truth of a test. Three words with an operator in the middle are always a comparison. -/
def test (fs : Files) (words : List String) : Except TestError Bool :=
  let general : Except TestError Bool := match testEither fs (4 * words.length + 8) "" words with
    | .ok (truth, _, []) => .ok truth
    | .ok (_, last, _ :: _) => .error (.unexpectedOperator last)
    | .error e => .error e
  match words with
  | [a, sign, b] => if binaryOperators.contains sign then binaryTest fs a sign b else general
  | _ => general

end KeyFeed.Host.Programs
