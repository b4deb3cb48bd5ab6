/-! Text as bytes. Reading takes one character at a time; where the bytes are no character, it takes the longest
    piece that could have begun one, and at least one byte. -/

namespace KeyFeed.Text

def toBytes (s : String) : List UInt8 := s.toUTF8.data.toList

/-- Takes so many more bytes of a character, the first of them between two limits. -/
def readTail (least greatest : UInt8) : Nat → Nat → List UInt8 → Option Nat × List UInt8
  | 0, n, bs => (some n, bs)
  | _ + 1, _, [] => (none, [])
  | more + 1, n, b :: bs =>
    if least ≤ b && b ≤ greatest then readTail 0x80 0xBF more (64 * n + (b.toNat - 0x80)) bs
    else (none, b :: bs)

/-- The rest of a character behind its first byte. -/
def readCharTail (b : UInt8) (bs : List UInt8) : Option Nat × List UInt8 :=
  let n := b.toNat
  if n < 0x80 then (some n, bs)
  else if 0xC2 ≤ n && n ≤ 0xDF then readTail 0x80 0xBF 1 (n - 0xC0) bs
  else if n = 0xE0 then readTail 0xA0 0xBF 2 0 bs
  else if n = 0xED then readTail 0x80 0x9F 2 0xD bs
  else if 0xE1 ≤ n && n ≤ 0xEF then readTail 0x80 0xBF 2 (n - 0xE0) bs
  else if n = 0xF0 then readTail 0x90 0xBF 3 0 bs
  else if 0xF1 ≤ n && n ≤ 0xF3 then readTail 0x80 0xBF 3 (n - 0xF0) bs
  else if n = 0xF4 then readTail 0x80 0x8F 3 4 bs
  else (none, bs)

/-- The characters of at most `fuel` bytes; `none` stands where bytes are no character. -/
def readChars : Nat → List UInt8 → List (Option Char)
  | 0, _ => []
  | _, [] => []
  | fuel + 1, b :: bs =>
    let (n, rest) := readCharTail b bs
    n.map Char.ofNat :: readChars fuel rest

/-- The text that the bytes spell, if they spell one. -/
def ofBytes? (bs : List UInt8) : Option String :=
  ((readChars bs.length bs).mapM id).map String.ofList

/-- The text that the bytes spell, with a mark for each piece that is no character. -/
def ofBytesMarked (bs : List UInt8) : String :=
  String.ofList ((readChars bs.length bs).map fun c => c.getD '\uFFFD')

end KeyFeed.Text
