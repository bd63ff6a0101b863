import Cordon.Text.Printable

/-! # Quoted texts in messages

`quoted` shows a text between double quotes so that every character of it can be told from the
message: the quote and the backslash stand behind a backslash, the usual blanks have short escapes,
and any other character that does not stand for itself is shown by its code point in braces.
-/

namespace Cordon.Text

def hexadecimal (n : Nat) : List Char := Nat.toDigits 16 n

def quotedChar (c : Char) : List Char :=
  if c = Char.ofNat 0 then ['\\', '0']
  else if c = '\t' then ['\\', 't']
  else if c = '\r' then ['\\', 'r']
  else if c = '\n' then ['\\', 'n']
  else if c = '\\' then ['\\', '\\']
  else if c = '"' then ['\\', '"']
  else if isPrintable c then [c]
  else ['\\', 'u', '\x7b'] ++ hexadecimal c.toNat ++ ['\x7d']

def quoted (s : String) : String := String.ofList ('"' :: s.toList.flatMap quotedChar ++ ['"'])

end Cordon.Text
