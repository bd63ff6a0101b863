import Cordon.Json.Value

/-! # Writing JSON text

`Json.compress` writes a value without blanks. A quote, a backslash and the control characters below
the blank are escaped, with the short escapes where JSON has them; all other characters stand as
they are.
-/

namespace Cordon.Json

def hexChar (n : Nat) : Char := if n < 10 then Char.ofNat (48 + n) else Char.ofNat (87 + n)

def escapeChar (c : Char) : List Char :=
  if c = '"' then ['\\', '"']
  else if c = '\\' then ['\\', '\\']
  else if c = '\n' then ['\\', 'n']
  else if c = '\r' then ['\\', 'r']
  else if c = '\t' then ['\\', 't']
  else if c.toNat = 8 then ['\\', 'b']
  else if c.toNat = 12 then ['\\', 'f']
  else if c.toNat < 32 then ['\\', 'u', '0', '0', hexChar (c.toNat / 16), hexChar (c.toNat % 16)]
  else [c]

def quote (s : String) : String :=
  String.ofList ('"' :: (s.toList.flatMap escapeChar) ++ ['"'])

def Number.text : Number → String
  | .int n => toString n
  | .float x => x.text

mutual

def compress : Json → String
  | .null => "null"
  | .bool true => "true"
  | .bool false => "false"
  | .num n => n.text
  | .str s => quote s
  | .arr items => "[" ++ compressItems true items ++ "]"
  | .obj entries => "\x7b" ++ compressEntries true entries ++ "\x7d"

def compressItems (first : Bool) : List Json → String
  | [] => ""
  | j :: rest => (if first then "" else ",") ++ compress j ++ compressItems false rest

def compressEntries (first : Bool) : List (String × Json) → String
  | [] => ""
  | (k, j) :: rest =>
    (if first then "" else ",") ++ quote k ++ ":" ++ compress j ++ compressEntries false rest

end

end Cordon.Json
