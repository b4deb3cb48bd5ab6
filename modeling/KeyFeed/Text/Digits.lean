/-! Numbers as text in a base up to sixteen. Printing uses lowercase digits and no leading zeros; reading
    takes digits of either case, any number of leading zeros and one optional plus sign, and refuses a value
    above the given limit. -/

namespace KeyFeed.Text

/-- The value of a digit below the base, in either case of letter. -/
def digitValue? (base : Nat) (c : Char) : Option Nat :=
  let n :=
    if '0' ≤ c && c ≤ '9' then some (c.toNat - 48)
    else if 'a' ≤ c && c ≤ 'f' then some (c.toNat - 87)
    else if 'A' ≤ c && c ≤ 'F' then some (c.toNat - 55)
    else none
  n.filter (· < base)

/-- The number that a row of digits spells, most significant first. -/
def ofDigits (base : Nat) (ds : List Nat) : Nat := ds.foldl (fun n d => base * n + d) 0

/-- One or more digits and nothing else. -/
def readDigits? (base : Nat) (cs : List Char) : Option Nat :=
  if cs.isEmpty then none else (cs.mapM (digitValue? base)).map (ofDigits base)

/-- An unsigned number with an optional plus sign, up to `limit`. -/
def readUnsigned? (base limit : Nat) (cs : List Char) : Option Nat :=
  let digits := match cs with
    | '+' :: ds => ds
    | ds => ds
  (readDigits? base digits).filter (· ≤ limit)

/-- A number with an optional sign of either kind, between the two limits. -/
def readSigned? (base : Nat) (least greatest : Int) (cs : List Char) : Option Int :=
  let value := match cs with
    | '+' :: ds => (readDigits? base ds).map Int.ofNat
    | '-' :: ds => (readDigits? base ds).map fun n => - Int.ofNat n
    | ds => (readDigits? base ds).map Int.ofNat
  value.filter fun n => least ≤ n && n ≤ greatest

def decimalDigits (n : Nat) : List Char := Nat.toDigits 10 n

def hexDigits (n : Nat) : List Char := Nat.toDigits 16 n

/-- The digits with zeros in front up to the given width. -/
def padded (width : Nat) (ds : List Char) : List Char := List.replicate (width - ds.length) '0' ++ ds

def decimal (n : Nat) : String := String.ofList (decimalDigits n)

def hex (n : Nat) : String := String.ofList (hexDigits n)

/-- A byte as exactly two hexadecimal digits. -/
def hexByte (b : UInt8) : String := String.ofList (padded 2 (hexDigits b.toNat))

def octal (n : Nat) : String := String.ofList (Nat.toDigits 8 n)

end KeyFeed.Text
