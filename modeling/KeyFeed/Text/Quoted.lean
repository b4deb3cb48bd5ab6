import KeyFeed.Text.Digits
import KeyFeed.Text.Printable

/-! Text in double quotes, as messages show a value that came from outside: the quote and the backslash get a
    backslash, a tab, a line feed, a carriage return and NUL have a letter of their own, and any other character
    that would not be seen is written by its code point. -/

namespace KeyFeed.Text

/-- A character by its code point, in braces. -/
def codePointEscape (c : Char) : List Char := ['\\', 'u', '{'] ++ hexDigits c.toNat ++ ['}']

def quotedChar (c : Char) : List Char :=
  if c = '"' then ['\\', '"']
  else if c = '\\' then ['\\', '\\']
  else if c = '\t' then ['\\', 't']
  else if c = '\n' then ['\\', 'n']
  else if c = '\r' then ['\\', 'r']
  else if c.toNat = 0 then ['\\', '0']
  else if isPrintable c then [c]
  else codePointEscape c

/-- The text in quotes, on one line, with nothing invisible left in it. -/
def quoted (s : String) : String := String.ofList ('"' :: s.toList.flatMap quotedChar ++ ['"'])

end KeyFeed.Text
