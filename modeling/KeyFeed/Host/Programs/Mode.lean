import KeyFeed.Text.Blank
import KeyFeed.Text.Digits
import KeyFeed.Text.Fields

/-! Permission bits as they are written: as an octal number, or as what is given to whom and taken from whom. -/

namespace KeyFeed.Host.Programs
open Text

/-- Nat without the bits of another one. -/
def withoutBits (n bits : Nat) : Nat := n - (n &&& bits)

/-- The bits of everyone that a letter stands for. -/
def permissionBits (isDirectory : Bool) (old : Nat) (c : Char) : Option Nat :=
  match c with
  | 'r' => some 0o444
  | 'w' => some 0o222
  | 'x' => some 0o111
  | 'X' => some (if isDirectory || old &&& 0o111 != 0 then 0o111 else 0)
  | 's' => some 0o6000
  | 't' => some 0o1000
  | 'u' => some ((old / 64 % 8) * 0o111)
  | 'g' => some ((old / 8 % 8) * 0o111)
  | 'o' => some ((old % 8) * 0o111)
  | _ => none

def whoBits : Char → Option Nat
  | 'u' => some 0o4700
  | 'g' => some 0o2070
  | 'o' => some 0o1007
  | 'a' => some 0o7777
  | _ => none

/-- Applies the changes behind the letters that say whom they are for; at most `fuel` of them. -/
def applyChanges (isDirectory : Bool) (who mask : Nat) : Nat → List Char → Nat → Option Nat
  | 0, _, _ => none
  | _ + 1, [], mode => some mode
  | fuel + 1, sign :: cs, mode =>
    let letters := cs.takeWhile fun c => !(['+', '-', '='].contains c)
    let rest := cs.drop letters.length
    match letters.mapM (permissionBits isDirectory mode) with
    | none => none
    | some bits =>
      let all := bits.foldl (· ||| ·) 0
      let chosen := if who = 0 then withoutBits all mask else all &&& who
      let next := match sign with
        | '+' => some (mode ||| chosen)
        | '-' => some (withoutBits mode chosen)
        | '=' => some (withoutBits mode ((if who = 0 then 0o777 else who) &&& 0o777) ||| chosen)
        | _ => none
      match next with
      | none => none
      | some mode => applyChanges isDirectory who mask fuel rest mode

/-- The permission bits after the change that a text describes; without letters for someone, the mask is left alone. -/
def changedMode? (isDirectory : Bool) (mask : Nat) (text : String) (old : Nat) : Option Nat :=
  match text.toList with
  | [] => none
  | c :: cs =>
    if isAsciiDigit c then (readDigits? 8 (c :: cs)).filter (· ≤ 0o7777)
    else (fields ',' (c :: cs)).foldl (fun mode clause => mode.bind fun mode =>
      let who := clause.takeWhile fun c => (whoBits c).isSome
      let changes := clause.drop who.length
      if changes.isEmpty then none
      else applyChanges isDirectory ((who.filterMap whoBits).foldl (· ||| ·) 0) mask (changes.length + 1) changes mode)
      (some old)

/-- The bits that may be given to one kind of user, as letters. -/
def modeLetters (n : Nat) : List Char :=
  (if n &&& 4 != 0 then ['r'] else []) ++ (if n &&& 2 != 0 then ['w'] else []) ++ (if n &&& 1 != 0 then ['x'] else [])

/-- The bits of all users, as letters with hyphens for what is missing. -/
def modeText (mode : Nat) : String :=
  let part (n : Nat) (special : Bool) (lower upper : Char) : List Char :=
    [if n &&& 4 != 0 then 'r' else '-', if n &&& 2 != 0 then 'w' else '-',
     match n &&& 1 != 0, special with
      | true, true => lower
      | true, false => 'x'
      | false, true => upper
      | false, false => '-']
  String.ofList (part (mode / 64 % 8) (mode &&& 0o4000 != 0) 's' 'S' ++ part (mode / 8 % 8) (mode &&& 0o2000 != 0) 's' 'S'
    ++ part (mode % 8) (mode &&& 0o1000 != 0) 't' 'T')

end KeyFeed.Host.Programs
