import KeyFeed.Text.Utf8

/-! Text as its bytes, each standing as the character of its number, for programs that know no characters but bytes. -/

namespace KeyFeed.Text

def ofByte (b : UInt8) : Char := Char.ofNat b.toNat

def toByte (c : Char) : UInt8 := UInt8.ofNat c.toNat

/-- The bytes of a text as characters. -/
def octets (s : String) : String := String.ofList ((toBytes s).map ofByte)

/-- The text that bytes, given as characters, spell. -/
def ofOctets (s : String) : String := ofBytesMarked (s.toList.map toByte)

/-- Bytes as characters. -/
def ofBytesPlain (bytes : List UInt8) : List Char := bytes.map ofByte

end KeyFeed.Text
