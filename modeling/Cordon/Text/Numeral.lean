/-! # Decimal numerals of bounded numbers

`unsigned` reads a natural number below a bound: digits, behind at most one plus sign, nothing else.
It fails for one of three reasons, and of a bad character and an overflow the one further left
counts.
-/

namespace Cordon.Text

/-- Why a text is no numeral. -/
inductive NumeralError where
  | empty
  | invalidDigit
  | tooLarge
deriving DecidableEq

def NumeralError.message : NumeralError → String
  | .empty => "cannot parse integer from empty string"
  | .invalidDigit => "invalid digit found in string"
  | .tooLarge => "number too large to fit in target type"

/-- Digits appended to a number that stays below the bound. -/
def appendDigits (bound : Nat) : Nat → List Char → Except NumeralError Nat
  | n, [] => .ok n
  | n, c :: rest =>
    if c.isDigit then
      let n' := n * 10 + (c.toNat - '0'.toNat)
      if n' < bound then appendDigits bound n' rest else .error .tooLarge
    else .error .invalidDigit

/-- The natural number below `bound` that a text denotes. -/
def unsigned (bound : Nat) (s : String) : Except NumeralError Nat :=
  match s.toList with
  | [] => .error .empty
  | ['+'] | ['-'] => .error .invalidDigit
  | '+' :: rest => appendDigits bound 0 rest
  | digits => appendDigits bound 0 digits

/-- Bounds of 16 and 64 bit numbers. -/
def word16 : Nat := Nat.pow 2 16

@[inherit_doc word16]
def word64 : Nat := Nat.pow 2 64

end Cordon.Text
