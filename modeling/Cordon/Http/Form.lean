import Cordon.Dict
import Cordon.Json.Reader
import Cordon.Text.Utf8

/-! # Queries

The pairs of a query are written one behind the other, each after an ampersand, with `=` between the
name and the value. Letters, digits and `*-._` stand as they are, a blank is a plus sign, and every
other byte is written as `%` and two hexadecimal digits.
-/

namespace Cordon.Http.Form

def hexChar (n : Nat) : Char := if n < 10 then Char.ofNat (48 + n) else Char.ofNat (55 + n)

def isPlain (c : Char) : Bool :=
  c.isAlphanum || c == '*' || c == '-' || c == '.' || c == '_'

def encodeChar (c : Char) : List Char :=
  if isPlain c then [c]
  else if c = ' ' then ['+']
  else (Text.Utf8.encodeChar c).flatMap fun b => ['%', hexChar (b / 16), hexChar (b % 16)]

def encode (s : String) : String := .ofList (s.toList.flatMap encodeChar)

def encodePair (name value : String) : String := "&" ++ encode name ++ "=" ++ encode value

def encodePairs (pairs : List (String × String)) : String :=
  String.join (pairs.map fun p => encodePair p.1 p.2)

def bytes : List Char → List Nat
  | '%' :: h :: l :: rest =>
    match Json.hexDigit h, Json.hexDigit l with
    | some a, some b => (a * 16 + b) :: bytes rest
    | _, _ => '%'.toNat :: bytes (h :: l :: rest)
  | '+' :: rest => ' '.toNat :: bytes rest
  | c :: rest => Text.Utf8.encodeChar c ++ bytes rest
  | [] => []

def decode (text : List Char) : String := Text.Utf8.decode (bytes text)

/-- The pair of a written pair; a pair without `=` has no value. -/
def decodePair (text : List Char) : String × String :=
  (decode (text.takeWhile (· ≠ '=')), decode ((text.dropWhile (· ≠ '=')).drop 1))

/-- The pairs of a query by name; of two pairs with one name the later one counts. -/
def parameters (query : String) : Labels :=
  .ofList (((query.toList.splitOn '&').filter (!·.isEmpty)).map decodePair)

end Cordon.Http.Form
