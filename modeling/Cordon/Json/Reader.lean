import Cordon.Json.Raw

/-! # Reading JSON text

`Json.read` reads one value from a text, or says what is wrong and where. Nesting deeper than 127
lists and objects is refused. A number that is no 64 bit integer is a floating point number.

`Json.readRaw` reads what stands in a text and is tolerant: a well-formed part that has no value is
damage in the result, where a strict reading stops at it.
-/

namespace Cordon.Json

/-- A reading step: a result and the text left. -/
abbrev Step (α : Type) := Except Failure (α × List Char)

def failHere {α : Type} (fault : Fault) (rest : List Char) : Except Failure α :=
  .error ⟨fault, rest, 0⟩

def failNext {α : Type} (fault : Fault) (rest : List Char) : Except Failure α :=
  .error ⟨fault, rest, 1⟩

/-- A part without a value, read up to the text that is left: a failure in a strict reading, damage
in a tolerant one. -/
def spoil (strict : Bool) (failure : Failure) (rest : List Char) : Step Raw :=
  if strict then .error failure else .ok (.damaged failure.fault, rest)

def isBlank (c : Char) : Bool := c == ' ' || c == '\n' || c == '\t' || c == '\r'

def skipBlanks (text : List Char) : List Char := text.dropWhile isBlank

/-! ## Words and numbers -/

/-- The rest of a word of which the first letter has been read. -/
def readWord (value : Raw) : List Char → List Char → Step Raw
  | [], rest => .ok (value, rest)
  | _ :: _, [] => failHere .endInValue []
  | w :: ws, c :: rest =>
    if c = w then readWord value ws rest else failNext .expectedIdent (c :: rest)

def digit (c : Char) : Nat := c.toNat - '0'.toNat

def takeDigits (text : List Char) : List Nat × List Char :=
  ((text.takeWhile Char.isDigit).map digit, text.dropWhile Char.isDigit)

def maxWord : Nat := Nat.pow 2 64 - 1

/-- Appends digits to a number while it fits 64 bits; also the digits left over. -/
def appendDigits (start : Nat) : List Nat → Nat × List Nat
  | [] => (start, [])
  | d :: ds =>
    if start * 10 + d ≤ maxWord then appendDigits (start * 10 + d) ds else (start, d :: ds)

def floatOf (strict negative : Bool) (significand : Nat) (power : Int) (rest : List Char) :
    Step Raw :=
  match Binary64.ofDecimal negative significand power with
  | some x => .ok (.num (.float x), rest)
  | none => spoil strict ⟨.numberOutOfRange, rest, 0⟩ rest

def maxExponent : Nat := 2147483647

/-- Appends the digits of a text to an exponent; the text from the digit on that makes it too large,
if one does. -/
def appendExponent (start : Nat) : List Char → Except (List Char) (Nat × List Char)
  | [] => .ok (start, [])
  | c :: rest =>
    if c.isDigit then
      if maxExponent < start * 10 + digit c then .error (c :: rest)
      else appendExponent (start * 10 + digit c) rest
    else .ok (start, c :: rest)

/-- The digits of an exponent, its sign read. With too large an exponent a number is out of range,
or else zero. -/
def readExponentDigits (strict negative : Bool) (significand : Nat) (power : Int) (down : Bool)
    (text : List Char) : Step Raw :=
  match text with
  | [] => failHere .endInValue []
  | c :: _ =>
    if c.isDigit then
      match appendExponent 0 text with
      | .ok (e, rest) =>
        if significand = 0 then floatOf strict negative 0 0 rest
        else floatOf strict negative significand (if down then power - e else power + e) rest
      | .error excess =>
        let rest := excess.dropWhile Char.isDigit
        -- The digits behind decide nothing any more: the power is out of all bounds.
        if significand = 0 ∨ down then floatOf strict negative 0 0 rest
        else spoil strict ⟨.numberOutOfRange, excess, 1⟩ rest
    else failNext .invalidNumber text

def readExponent (strict negative : Bool) (significand : Nat) (power : Int) :
    List Char → Step Raw
  | '+' :: rest => readExponentDigits strict negative significand power false rest
  | '-' :: rest => readExponentDigits strict negative significand power true rest
  | text => readExponentDigits strict negative significand power false text

/-- What may follow the digits of a floating point number. -/
def readPower (strict negative : Bool) (significand : Nat) (power : Int) (text : List Char) :
    Step Raw :=
  match text with
  | 'e' :: rest | 'E' :: rest => readExponent strict negative significand power rest
  | _ => floatOf strict negative significand power text

/-- The digits behind a point. Digits that no longer fit 64 bits are dropped. -/
def readFraction (strict negative : Bool) (significand : Nat) (power : Int) (text : List Char) :
    Step Raw :=
  match takeDigits text with
  | ([], []) => failNext .endInValue []
  | ([], rest) => failNext .invalidNumber rest
  | (ds, rest) =>
    let (s, left) := appendDigits significand ds
    readPower strict negative s (power - ((ds.length - left.length : Nat) : Int)) rest

/-- A number, its sign read: an integer where it fits 64 bits, a floating point number elsewhere. -/
def readNumber (strict negative : Bool) (text : List Char) : Step Raw :=
  match text with
  | [] => failHere .endInValue []
  | c :: tail =>
    if c.isDigit then
      match takeDigits text with
      -- A leading zero stands alone.
      | (0 :: _ :: _, _) => failNext .invalidNumber tail
      | (ds, rest) =>
        let (s, left) := appendDigits 0 ds
        let power : Int := left.length
        match rest with
        | '.' :: rest => readFraction strict negative s power rest
        | 'e' :: rest | 'E' :: rest => readExponent strict negative s power rest
        | _ =>
          -- The digits left over count as powers of ten only. Minus zero is no integer.
          if !left.isEmpty then floatOf strict negative s power rest
          else if !negative then .ok (.num (.int s), rest)
          else if s = 0 ∨ Nat.pow 2 63 < s then floatOf strict true s 0 rest
          else .ok (.num (.int (-(s : Int))), rest)
    else failNext .invalidNumber text

/-! ## Texts -/

def hexDigit (c : Char) : Option Nat :=
  if c.isDigit then some (digit c)
  else if 'a' ≤ c ∧ c ≤ 'f' then some (c.toNat - 'a'.toNat + 10)
  else if 'A' ≤ c ∧ c ≤ 'F' then some (c.toNat - 'A'.toNat + 10)
  else none

def hexValue (a b c d : Char) : Option Nat := do
  let a ← hexDigit a
  let b ← hexDigit b
  let c ← hexDigit c
  let d ← hexDigit d
  pure (((a * 16 + b) * 16 + c) * 16 + d)

def byteCount (text : List Char) : Nat := (text.map Char.utf8Size).foldl (· + ·) 0

/-- The value of the next four bytes, which have to be hexadecimal digits. -/
def readHex (text : List Char) : Step Nat :=
  match text with
  | a :: b :: c :: d :: rest =>
    match hexValue a b c d with
    | some n => .ok (n, rest)
    | none => .error ⟨.invalidEscape, text, 4⟩
  | _ =>
    if byteCount text < 4 then failHere .endInString [] else .error ⟨.invalidEscape, text, 4⟩

/-- An escape: a character, or half of one that lacks the other half. -/
abbrev Escape := Except Failure Char

/-- The character of a `\u` escape, its `u` read; two escapes can name one character. -/
def readCodePoint (text : List Char) : Except Failure (Escape × List Char) := do
  let (n, rest) ← readHex text
  -- A second half alone; then a first half, whose second half is an escape of its own.
  if 0xDC00 ≤ n ∧ n ≤ 0xDFFF then pure (failHere .loneSurrogate rest, rest)
  else if 0xD800 ≤ n ∧ n ≤ 0xDBFF then
    match rest with
    | [] | ['\\'] => failHere .endInString []
    | '\\' :: 'u' :: next =>
      let (m, next) ← readHex next
      if m < 0xDC00 ∨ 0xDFFF < m then pure (failHere .loneSurrogate next, next)
      else pure (.ok (Char.ofNat ((n - 0xD800) * 1024 + (m - 0xDC00) + 0x10000)), next)
    | '\\' :: next => pure (failNext .endOfHexEscape next, rest)
    | _ => pure (failNext .endOfHexEscape rest, rest)
  else pure (.ok (Char.ofNat n), rest)

def readEscape : List Char → Step Escape
  | [] => failHere .endInString []
  | '"' :: rest => .ok (.ok '"', rest)
  | '\\' :: rest => .ok (.ok '\\', rest)
  | '/' :: rest => .ok (.ok '/', rest)
  | 'b' :: rest => .ok (.ok (Char.ofNat 8), rest)
  | 'f' :: rest => .ok (.ok (Char.ofNat 12), rest)
  | 'n' :: rest => .ok (.ok '\n', rest)
  | 'r' :: rest => .ok (.ok '\r', rest)
  | 't' :: rest => .ok (.ok '\t', rest)
  | 'u' :: rest => readCodePoint rest
  | text => failNext .invalidEscape text

/-- The characters of a text, or the fault that leaves it without a value. -/
abbrev Characters := Except Fault String

/-- A text, its opening quote read, with the characters so far and the first damage to them. The
number bounds the number of characters. -/
def readText (strict : Bool) :
    Nat → List Char → Option Fault → List Char → Except Failure (Characters × List Char)
  | _, acc, none, '"' :: rest => .ok (.ok (String.ofList acc.reverse), rest)
  | _, _, some fault, '"' :: rest => .ok (.error fault, rest)
  | 0, _, _, rest => failHere .endInString rest
  | _ + 1, _, _, [] => failHere .endInString []
  | n + 1, acc, damage, '\\' :: rest => do
    match ← readEscape rest with
    | (.ok c, rest) => readText strict n (c :: acc) damage rest
    | (.error failure, rest) =>
      if strict then .error failure
      else readText strict n acc (damage.orElse fun _ => some failure.fault) rest
  | n + 1, acc, damage, c :: rest =>
    if c.toNat < 32 then failHere .controlCharacter rest
    else readText strict n (c :: acc) damage rest

def Raw.ofCharacters : Characters → Raw
  | .ok s => .str s
  | .error fault => .damaged fault

/-- The object of these entries; a damaged key damages it. -/
def Raw.ofMembers (entries : List (Characters × Raw)) : Raw :=
  match entries.mapM fun e => e.1.map (·, e.2) with
  | .ok entries => .obj entries
  | .error fault => .damaged fault

/-- A list or an object where no more nesting is allowed. -/
def Raw.withinDepth (depth : Nat) (r : Raw) : Raw :=
  if depth = 0 then .damaged .recursionLimit else r

/-! ## Values -/

mutual

/-- One value. The first number bounds the steps, the second is the nesting still allowed. -/
def readValue (strict : Bool) : Nat → Nat → List Char → Except Failure (Raw × List Char)
  | 0, _, text => failNext .endInValue text
  | fuel + 1, depth, text =>
    match skipBlanks text with
    | [] => failNext .endInValue []
    | 'n' :: rest => readWord .null ['u', 'l', 'l'] rest
    | 't' :: rest => readWord (.bool true) ['r', 'u', 'e'] rest
    | 'f' :: rest => readWord (.bool false) ['a', 'l', 's', 'e'] rest
    | '-' :: rest => readNumber strict true rest
    | '"' :: rest => do
      let (s, rest) ← readText strict rest.length [] none rest
      pure (.ofCharacters s, rest)
    | '[' :: rest =>
      if strict ∧ depth = 0 then failNext .recursionLimit ('[' :: rest)
      else do
        let (items, rest) ← readItems strict fuel (depth - 1) true rest
        pure (Raw.withinDepth depth (.arr items), rest)
    | '\x7b' :: rest =>
      if strict ∧ depth = 0 then failNext .recursionLimit ('\x7b' :: rest)
      else do
        let (entries, rest) ← readEntries strict fuel (depth - 1) true rest
        pure (Raw.withinDepth depth (.ofMembers entries), rest)
    | c :: rest =>
      if c.isDigit then readNumber strict false (c :: rest)
      else failNext .expectedValue (c :: rest)

def readItems (strict : Bool) :
    Nat → Nat → Bool → List Char → Except Failure (List Raw × List Char)
  | 0, _, _, text => failNext .endInList text
  | fuel + 1, depth, first, text => do
    match skipBlanks text with
    | [] => failNext .endInList []
    | ']' :: rest => .ok ([], rest)
    | c :: rest =>
      let start ←
        if first then pure (c :: rest)
        else if c = ',' then
          match skipBlanks rest with
          | [] => failNext .endInValue []
          | ']' :: rest => failNext .trailingComma (']' :: rest)
          | rest => pure rest
        else failNext .expectedListEnd (c :: rest)
      let (item, rest) ← readValue strict fuel depth start
      let (items, rest) ← readItems strict fuel depth false rest
      pure (item :: items, rest)

def readEntries (strict : Bool) :
    Nat → Nat → Bool → List Char → Except Failure (List (Characters × Raw) × List Char)
  | 0, _, _, text => failNext .endInObject text
  | fuel + 1, depth, first, text => do
    match skipBlanks text with
    | [] => failNext .endInObject []
    | '\x7d' :: rest => .ok ([], rest)
    | c :: rest =>
      let start ←
        if first then pure (c :: rest)
        else if c = ',' then
          match skipBlanks rest with
          | [] => failNext .endInValue []
          | '\x7d' :: rest => failNext .trailingComma ('\x7d' :: rest)
          | rest => pure rest
        else failNext .expectedObjectEnd (c :: rest)
      match start with
      | '"' :: rest =>
        let (key, rest) ← readText strict rest.length [] none rest
        match skipBlanks rest with
        | [] => failNext .endInObject []
        | ':' :: rest =>
          let (value, rest) ← readValue strict fuel depth rest
          let (entries, rest) ← readEntries strict fuel depth false rest
          pure ((key, value) :: entries, rest)
        | rest => failNext .expectedColon rest
      | rest => failNext .keyMustBeString rest

end

/-- What stands in a whole text, blanks around it allowed. Of two steps at least one reads a
character, so that twice as many steps as characters are enough. -/
def readAll (strict : Bool) (text : List Char) : Except Failure Raw := do
  let (value, rest) ← readValue strict (2 * text.length + 2) 127 text
  match skipBlanks rest with
  | [] => pure value
  | rest => failNext .trailingCharacters rest

def readRaw (text : String) : Option Raw := (readAll false text.toList).toOption

/-- The value of a text, or what is wrong with it and where. -/
def read (text : String) : Except String Json :=
  match readAll true text.toList with
  | .ok raw => raw.value.mapError Fault.message
  | .error f => .error (f.message text.toList)

end Cordon.Json
