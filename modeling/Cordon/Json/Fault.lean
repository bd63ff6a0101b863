/-! # Faults in JSON texts

A `Fault` says what is wrong with a text, a `Failure` also where. A position counts lines from one
and, within a line, the bytes up to and including the one at fault. A byte can be at fault in the
middle of a character.
-/

namespace Cordon.Json

/-- What can be wrong with a text. -/
inductive Fault where
  | endInList | endInObject | endInString | endInValue
  | expectedColon | expectedListEnd | expectedObjectEnd | expectedIdent | expectedValue
  | invalidEscape | invalidNumber | numberOutOfRange | controlCharacter
  | keyMustBeString | loneSurrogate | trailingComma | trailingCharacters | endOfHexEscape
  | recursionLimit
deriving DecidableEq

def Fault.message : Fault → String
  | .endInList => "EOF while parsing a list"
  | .endInObject => "EOF while parsing an object"
  | .endInString => "EOF while parsing a string"
  | .endInValue => "EOF while parsing a value"
  | .expectedColon => "expected `:`"
  | .expectedListEnd => "expected `,` or `]`"
  | .expectedObjectEnd => "expected `,` or `\x7d`"
  | .expectedIdent => "expected ident"
  | .expectedValue => "expected value"
  | .invalidEscape => "invalid escape"
  | .invalidNumber => "invalid number"
  | .numberOutOfRange => "number out of range"
  | .controlCharacter => "control character (\\u0000-\\u001F) found while parsing a string"
  | .keyMustBeString => "key must be a string"
  | .loneSurrogate => "lone leading surrogate in hex escape"
  | .trailingComma => "trailing comma"
  | .trailingCharacters => "trailing characters"
  | .endOfHexEscape => "unexpected end of hex escape"
  | .recursionLimit => "recursion limit exceeded"

/-- A line, from one, and the number of its bytes up to the fault. -/
structure Position where
  line : Nat
  column : Nat
deriving DecidableEq

def Position.advance (p : Position) : Nat → List Char → Position
  | 0, _ => p
  | _ + 1, [] => p
  | n + 1, c :: rest =>
    if c = '\n' then Position.advance ⟨p.line + 1, 0⟩ n rest
    else
      Position.advance ⟨p.line, p.column + min (n + 1) c.utf8Size⟩ (n + 1 - c.utf8Size) rest

def Position.after (text : List Char) : Position :=
  text.foldl
    (fun p c => if c = '\n' then ⟨p.line + 1, 0⟩ else ⟨p.line, p.column + c.utf8Size⟩) ⟨1, 0⟩

/-- A fault, the text left when it was met, and how many bytes of that text are read before the
fault shows. -/
structure Failure where
  fault : Fault
  rest : List Char
  ahead : Nat

def Failure.position (whole : List Char) (f : Failure) : Position :=
  (Position.after (whole.take (whole.length - f.rest.length))).advance f.ahead f.rest

def Failure.message (whole : List Char) (f : Failure) : String :=
  let p := f.position whole
  f.fault.message ++ " at line " ++ toString p.line ++ " column " ++ toString p.column

end Cordon.Json
