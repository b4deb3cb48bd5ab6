import KeyFeed.Text.Blank
import KeyFeed.Text.Digits

/-! Numbers with a fraction as programs print them: a decimal text is rounded to the nearest number of fifty-three bits,
    and that is printed exactly, or to the nearest number with the digits asked for. -/

namespace KeyFeed.Host.Programs
open Text

/-- A quotient that is not negative; nothing is divided by zero. -/
structure Quotient where
  numerator : Nat
  denominator : Nat
  deriving DecidableEq, Repr

/-- The nearest whole number; of two, the even one. -/
def Quotient.round (q : Quotient) : Nat :=
  let n := q.numerator / q.denominator
  let r := 2 * (q.numerator % q.denominator)
  if q.denominator < r || (q.denominator = r && n % 2 = 1) then n + 1 else n

/-- The quotient times a power of the base, which may be negative. -/
def Quotient.scale (q : Quotient) (base : Nat) (n : Int) : Quotient :=
  if 0 ≤ n then { q with numerator := q.numerator * Nat.pow base n.toNat }
  else { q with denominator := q.denominator * Nat.pow base (-n).toNat }

/-- The greatest power of the base that is no greater than a positive quotient. -/
def Quotient.exponent (q : Quotient) (base : Nat) : Int :=
  let guess : Int := Int.ofNat (Nat.toDigits base q.numerator).length - Int.ofNat (Nat.toDigits base q.denominator).length
  let fits (n : Int) : Bool :=
    let s := q.scale base (-n)
    s.denominator ≤ s.numerator
  if fits (guess + 1) then guess + 1 else if fits guess then guess else guess - 1

/-- The nearest number of fifty-three bits. -/
def Quotient.toBinary (q : Quotient) : Quotient :=
  if q.numerator = 0 then q
  else
    let shift := 52 - q.exponent 2
    (Quotient.mk (q.scale 2 shift).round 1).scale 2 (-shift)

/-- Digits with a point in front of the last so many. -/
def pointed (places n : Nat) (keepPoint : Bool) : List Char :=
  let ds := padded (places + 1) (decimalDigits n)
  let whole := ds.take (ds.length - places)
  if places = 0 then whole ++ (if keepPoint then ['.'] else []) else whole ++ '.' :: ds.drop (ds.length - places)

/-- With a fixed number of places behind the point. -/
def Quotient.fixed (q : Quotient) (places : Nat) (keepPoint : Bool) : List Char :=
  pointed places (q.scale 10 places).round keepPoint

/-- The digits of a scientific form, as one number, and its exponent. -/
def Quotient.scientificParts (q : Quotient) (places : Nat) : Nat × Int :=
  if q.numerator = 0 then (0, 0)
  else
    let e := q.exponent 10
    let n := (q.scale 10 (Int.ofNat places - e)).round
    if Nat.pow 10 (places + 1) ≤ n then (n / 10, e + 1) else (n, e)

def exponentText (mark : Char) (e : Int) : List Char :=
  mark :: (if e < 0 then '-' else '+') :: padded 2 (decimalDigits e.natAbs)

/-- One digit in front of the point, and an exponent. -/
def Quotient.scientific (q : Quotient) (places : Nat) (mark : Char) (keepPoint : Bool) : List Char :=
  let (n, e) := q.scientificParts places
  pointed places n keepPoint ++ exponentText mark e

def withoutEndZeros (cs : List Char) : List Char :=
  if cs.contains '.' then
    let kept := (cs.reverse.dropWhile (· = '0')).reverse
    if kept.getLast? = some '.' then kept.dropLast else kept
  else cs

/-- In whichever of the two forms is shorter, without zeros at the end. -/
def Quotient.general (q : Quotient) (digits : Nat) (mark : Char) (keepZeros : Bool) : List Char :=
  let digits := max digits 1
  let trim (cs : List Char) : List Char := if keepZeros then cs else withoutEndZeros cs
  let (n, e) := q.scientificParts (digits - 1)
  if e < -4 || Int.ofNat digits ≤ e then trim (pointed (digits - 1) n keepZeros) ++ exponentText mark e
  else trim (q.fixed (Int.ofNat digits - 1 - e).toNat keepZeros)

/-- The number at the beginning of a text, and what follows it. -/
def readDecimal (cs : List Char) : Option (Quotient × List Char) :=
  let whole := cs.takeWhile isAsciiDigit
  let rest := cs.drop whole.length
  let (fraction, rest) := match rest with
    | '.' :: r => (r.takeWhile isAsciiDigit, r.dropWhile isAsciiDigit)
    | r => ([], r)
  if whole.isEmpty && fraction.isEmpty then none
  else
    let q : Quotient := ⟨(readDigits? 10 (whole ++ fraction)).getD 0, Nat.pow 10 fraction.length⟩
    match rest with
    | c :: r =>
      if c = 'e' || c = 'E' then
        let (negative, ds) := match r with
          | '-' :: ds => (true, ds)
          | '+' :: ds => (false, ds)
          | ds => (false, ds)
        match readDigits? 10 (ds.takeWhile isAsciiDigit) with
        | some n =>
          let n := Int.ofNat (min n 400)
          some (q.scale 10 (if negative then -n else n), ds.dropWhile isAsciiDigit)
        | none => some (q, rest)
      else some (q, rest)
    | [] => some (q, [])

end KeyFeed.Host.Programs
