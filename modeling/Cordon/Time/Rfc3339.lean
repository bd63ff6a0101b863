import Cordon.Text.Blank
import Cordon.Time.Instant

/-! # Timestamps as text

`parse` reads an RFC 3339 timestamp leniently: blanks may stand between most parts, the `T` may be
in lower case or a blank, the fraction may have any number of digits of which nine count, and the
offset may be `Z`, `UTC` or hours and minutes with or without a colon. `Instant.text` writes one in
universal time with as many fraction digits as are needed in steps of three, `Instant.zuluText` in
whole seconds.
-/

namespace Cordon.Time

/-- Why a text is no timestamp. -/
inductive ParseError where
  | tooShort
  | invalid
  | outOfRange
  | impossible
  | tooLong
deriving DecidableEq

def ParseError.message : ParseError → String
  | .tooShort => "premature end of input"
  | .invalid => "input contains invalid characters"
  | .outOfRange => "input is out of range"
  | .impossible => "no possible date and time matching input"
  | .tooLong => "trailing input"

/-! ## Reading -/

open Text (dropBlanks)

def digit (c : Char) : Nat := c.toNat - '0'.toNat

/-- At most `width` leading digits, at least one; a number beyond 63 bits is refused. -/
def number (width : Nat) (text : List Char) : Except ParseError (Nat × List Char) :=
  match text with
  | [] => .error .tooShort
  | c :: _ =>
    if c.isDigit then
      let ds := (text.take width).takeWhile Char.isDigit
      let n := ds.foldl (fun n d => n * 10 + digit d) 0
      if n < Nat.pow 2 63 then .ok (n, text.drop ds.length) else .error .outOfRange
    else .error .invalid

/-- A number from `low` to `high` behind blanks, of at most two digits. -/
def part (low high : Nat) (text : List Char) : Except ParseError (Nat × List Char) := do
  let (n, rest) ← number 2 (dropBlanks text)
  if low ≤ n ∧ n ≤ high then pure (n, rest) else .error .outOfRange

/-- A year: four digits, or a sign and any number of them. -/
def year (text : List Char) : Except ParseError (Int × List Char) := do
  let (y, rest) ← match dropBlanks text with
    | '-' :: rest => do
      let (n, rest) ← number rest.length rest
      pure (-(n : Int), rest)
    | '+' :: rest => do
      let (n, rest) ← number rest.length rest
      pure ((n : Int), rest)
    | text => do
      let (n, rest) ← number 4 text
      pure ((n : Int), rest)
  if -2147483648 ≤ y ∧ y ≤ 2147483647 then pure (y, rest) else .error .outOfRange

def literal (c : Char) (text : List Char) : Except ParseError (List Char) :=
  match dropBlanks text with
  | [] => .error .tooShort
  | d :: rest => if d = c then .ok rest else .error .invalid

/-- A fraction of a second in nanoseconds, if a point opens one. -/
def fraction (text : List Char) : Except ParseError (Nat × List Char) :=
  match text with
  | '.' :: rest => do
    let (n, after) ← number 9 rest
    let count := rest.length - after.length
    -- Digits behind the ninth are passed over.
    pure (n * Nat.pow 10 (9 - count), after.dropWhile Char.isDigit)
  | text => .ok (0, text)

def pair (text : List Char) : Except ParseError (Char × Char × List Char) :=
  match text with
  | [] => .error .tooShort
  | [c] => if c.utf8Size < 2 then .error .tooShort else .error .invalid
  | c :: d :: rest => .ok (c, d, rest)

def offset (text : List Char) : Except ParseError (Int × List Char) := do
  match text with
  | [] => .error .tooShort
  | 'Z' :: rest | 'z' :: rest => pure (0, rest)
  | c :: rest =>
    let negative ←
      if c = '+' then pure false
      else if c = '-' ∨ c.toNat = 0x2212 then pure true
      else .error .invalid
    let (h, h', rest) ← pair rest
    if !(h.isDigit && h'.isDigit) then .error .invalid
    else
      let rest := rest.dropWhile fun c => c == ':' || Text.isBlank c
      let (m, m', rest) ← pair rest
      if !(m.isDigit && m'.isDigit) then .error .invalid
      else if 6 ≤ digit m then .error .outOfRange
      else
        let seconds : Int :=
          (digit h * 10 + digit h') * 3600 + (digit m * 10 + digit m') * 60
        pure (if negative then -seconds else seconds, rest)

def zone (text : List Char) : Except ParseError (Int × List Char) :=
  match text with
  | u :: t :: c :: rest =>
    if u.toUpper = 'U' ∧ t.toUpper = 'T' ∧ c.toUpper = 'C' then .ok (0, rest) else offset text
  | _ => offset text

def parse (s : String) : Except ParseError Instant := do
  let (y, rest) ← year s.toList
  let rest ← literal '-' rest
  let (month, rest) ← part 1 12 rest
  let rest ← literal '-' rest
  let (day, rest) ← part 1 31 rest
  let rest ← match rest with
    | [] => .error .tooShort
    | c :: rest => if c = 't' ∨ c = 'T' ∨ c = ' ' then pure rest else .error .invalid
  let (hour, rest) ← part 0 23 rest
  let rest ← literal ':' rest
  let (minute, rest) ← part 0 59 rest
  let rest ← literal ':' rest
  let (second, rest) ← part 0 60 rest
  let (nanos, rest) ← fraction rest
  let (off, rest) ← zone (dropBlanks rest)
  if !(dropBlanks rest).isEmpty then .error .tooLong
  else
    let date : Date := ⟨y, month, day⟩
    if !date.isValid || off.natAbs ≥ 86400 then .error .outOfRange
    else
      -- A leap second is the last second of its minute, with a second more of nanoseconds.
      let leap := second = 60
      let clock := hour * 3600 + minute * 60 + (if leap then 59 else second)
      let t := Instant.ofLocal date clock (if leap then nanos + 1000000000 else nanos) off
      if t.days < (Date.mk firstYear 1 1).toDays ∨ (Date.mk lastYear 12 31).toDays < t.days then
        .error .impossible
      else pure t

/-! ## Writing -/

def padded (width n : Nat) : String :=
  let digits := toString n
  "".pushn '0' (width - digits.length) ++ digits

/-- A year: four digits, or a sign and at least five where they do not do. -/
def yearText (y : Int) : String :=
  if 0 ≤ y ∧ y ≤ 9999 then padded 4 y.toNat
  else if y < 0 then "-" ++ padded 4 y.natAbs
  else "+" ++ padded 4 y.natAbs

/-- The fraction of a second with the fewest of 0, 3, 6 or 9 digits that show it. -/
def fractionText (nanos : Nat) : String :=
  if nanos = 0 then ""
  else if nanos % 1000000 = 0 then "." ++ padded 3 (nanos / 1000000)
  else if nanos % 1000 = 0 then "." ++ padded 6 (nanos / 1000)
  else "." ++ padded 9 nanos

def Instant.isLeap (t : Instant) : Bool := 1000000000 ≤ t.nanos

/-- A point in time in universal time up to its whole second. -/
def Instant.secondText (t : Instant) : String :=
  let d := t.date
  let second := t.second % 60 + (if t.isLeap then 1 else 0)
  yearText d.year ++ "-" ++ padded 2 d.month ++ "-" ++ padded 2 d.day ++ "T" ++
    padded 2 (t.second / 3600) ++ ":" ++ padded 2 (t.second / 60 % 60) ++ ":" ++ padded 2 second

/-- A point in time with its fraction of a second and the offset `+00:00`. -/
def Instant.text (t : Instant) : String :=
  t.secondText ++ fractionText (if t.isLeap then t.nanos - 1000000000 else t.nanos) ++ "+00:00"

/-- A point in time in whole seconds with the offset `Z`. -/
def Instant.zuluText (t : Instant) : String := t.secondText ++ "Z"

end Cordon.Time
