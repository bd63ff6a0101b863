/-! # Reading bytes as text

`Utf8.decode` reads UTF-8. Bytes that are no UTF-8 become replacement characters, one for each
longest piece that begins a character.
-/

namespace Cordon.Text.Utf8

/-- A character that has begun: the value so far, how many bytes are missing, and the range that the
next byte must be in. -/
structure Begun where
  value : Nat
  missing : Nat
  low : Nat
  high : Nat
deriving DecidableEq

def replacement : Char := Char.ofNat 0xFFFD

/-- What a byte at the start of a character is: a character, the beginning of one, or neither. -/
def begin (b : Nat) : List Char × Option Begun :=
  if b < 0x80 then ([Char.ofNat b], none)
  else if b < 0xC2 then ([replacement], none)
  else if b < 0xE0 then ([], some ⟨b % 32, 1, 0x80, 0xBF⟩)
  else if b = 0xE0 then ([], some ⟨0, 2, 0xA0, 0xBF⟩)
  else if b = 0xED then ([], some ⟨13, 2, 0x80, 0x9F⟩)
  else if b < 0xF0 then ([], some ⟨b % 16, 2, 0x80, 0xBF⟩)
  else if b = 0xF0 then ([], some ⟨0, 3, 0x90, 0xBF⟩)
  else if b < 0xF4 then ([], some ⟨b % 8, 3, 0x80, 0xBF⟩)
  else if b = 0xF4 then ([], some ⟨4, 3, 0x80, 0x8F⟩)
  else ([replacement], none)

def next (begun : Option Begun) (b : Nat) : List Char × Option Begun :=
  match begun with
  | none => begin b
  | some p =>
    if p.low ≤ b ∧ b ≤ p.high then
      let value := p.value * 64 + b % 64
      if p.missing = 1 then ([Char.ofNat value], none)
      else ([], some ⟨value, p.missing - 1, 0x80, 0xBF⟩)
    else
      let (found, begun) := begin b
      (replacement :: found, begun)

/-- The characters of bytes behind a character that may have begun. -/
def decodeFrom : Option Begun → List Nat → List Char
  | none, [] => []
  | some _, [] => [replacement]
  | begun, b :: rest =>
    let (found, begun) := next begun b
    found ++ decodeFrom begun rest

def decode (bytes : List Nat) : String := .ofList (decodeFrom none bytes)

def encodeChar (c : Char) : List Nat := (String.utf8EncodeChar c).map UInt8.toNat

end Cordon.Text.Utf8
