/-! # Binary floating point, exactly

A `Binary64` is a finite number with a 53 bit significand and an exponent of at least -1074.
`nearest` rounds a fraction to the closest of them, ties to the even significand, and
`Binary64.text` writes one with the fewest decimal digits that round back to it.

All arithmetic is on natural numbers. Nothing here depends on the machine's own floats.
-/

namespace Cordon

/-- The number `significand * 2 ^ exponent`, negated if `negative`. -/
structure Binary64 where
  negative : Bool
  significand : Nat
  exponent : Int
deriving DecidableEq

namespace Binary64

/-- A fraction of natural numbers. -/
structure Fraction where
  num : Nat
  den : Nat

namespace Fraction

def scale (x : Fraction) (base : Nat) (power : Int) : Fraction :=
  let factor := base.pow power.natAbs
  if power < 0 then ⟨x.num, x.den * factor⟩ else ⟨x.num * factor, x.den⟩

/-- The closest integer, a half going to the even neighbour. -/
def roundEven (x : Fraction) : Nat :=
  let whole := x.num / x.den
  let twice := 2 * (x.num % x.den)
  if twice < x.den then whole
  else if x.den < twice then whole + 1
  else if whole % 2 = 0 then whole else whole + 1

/-- The largest `e` with `base ^ e ≤ x`, within one, from the lengths of the two parts. -/
def magnitude (x : Fraction) : Int :=
  let guess : Int := (x.num.log2 : Int) - (x.den.log2 : Int)
  let low := x.scale 2 (-guess)
  if low.num < low.den then guess - 1 else guess

end Fraction

def zero : Binary64 := ⟨false, 0, 0⟩

def magnitude (x : Binary64) : Fraction := Fraction.scale ⟨x.significand, 1⟩ 2 x.exponent

/-- The closest finite number, or nothing for one that is too large. -/
def nearest (negative : Bool) (x : Fraction) : Option Binary64 :=
  if x.num = 0 then some ⟨negative, 0, 0⟩
  else
    -- Below the least normal number the exponent stays and the significand loses bits.
    let exponent := max (x.magnitude - 52) (-1074)
    let significand := (x.scale 2 (-exponent)).roundEven
    -- Rounding up may carry into one bit more.
    let rounded : Binary64 :=
      if significand = Nat.pow 2 53 then ⟨negative, Nat.pow 2 52, exponent + 1⟩
      else ⟨negative, significand, exponent⟩
    if rounded.exponent ≤ 971 then some rounded else none

/-- The closest integer to a number, a half going to the even neighbour, without its sign. -/
def roundEven (x : Binary64) : Nat := x.magnitude.roundEven

/-! ## Decimals -/

/-- `significand * 10 ^ power`, read in two rounded steps: the significand, then its product with or
quotient by the power of ten. -/
def ofDecimal (negative : Bool) (significand : Nat) (power : Int) : Option Binary64 := do
  let s ← nearest negative ⟨significand, 1⟩
  if s.significand = 0 then return s
  if power < 0 then
    -- No power of ten beyond the 308th is finite: a smaller number takes two steps.
    let first := min power.natAbs 308
    let second := min (power.natAbs - first) 308
    let p ← nearest false ⟨Nat.pow 10 first, 1⟩
    let t ← nearest negative ⟨s.magnitude.num * p.magnitude.den, s.magnitude.den * p.magnitude.num⟩
    if power.natAbs ≤ 308 then return t
    if 616 < power.natAbs then return ⟨negative, 0, 0⟩
    let p' ← nearest false ⟨Nat.pow 10 second, 1⟩
    nearest negative ⟨t.magnitude.num * p'.magnitude.den, t.magnitude.den * p'.magnitude.num⟩
  else if 308 < power then none
  else
    let p ← nearest false ⟨Nat.pow 10 power.natAbs, 1⟩
    nearest negative ⟨s.magnitude.num * p.magnitude.num, s.magnitude.den * p.magnitude.den⟩

/-- The decimal `digits * 10 ^ power` with this many digits that is closest to `x`, if it rounds
back to `x`. -/
def decimalOfLength (x : Binary64) (scale : Int) (digits : Nat) : Option (Nat × Int) :=
  let power := scale - (digits : Int) + 1
  let v := x.magnitude.scale 10 (-power)
  let back (d : Nat) : Bool :=
    nearest x.negative (Fraction.scale ⟨d, 1⟩ 10 power) = some x
  let closest := v.roundEven
  let low := v.num / v.den
  if back closest then some (closest, power)
  else if back low then some (low, power)
  else if back (low + 1) then some (low + 1, power)
  else none

/-- The largest `e` with `10 ^ e ≤ x`, found from a guess that is at most a few too small. -/
def decimalScale (x : Fraction) : Int :=
  let guess := (x.magnitude * 30103).fdiv 100000 - 1
  let reaches (e : Int) : Bool :=
    let y := x.scale 10 (-e)
    y.den ≤ y.num
  if reaches (guess + 2) then guess + 2 else if reaches (guess + 1) then guess + 1 else guess

/-- The fewest digits that read back, with the power of ten that goes with the last of them. -/
def shortest (x : Binary64) : Nat × Int :=
  let scale := decimalScale x.magnitude
  ((List.range 17).findSome? fun n => decimalOfLength x scale (n + 1)).getD (0, 0)

/-- Trailing zeros of a positive number move into its power of ten. -/
def dropZeros : Nat → Nat × Int → Nat × Int
  | 0, d => d
  | n + 1, (d, p) => if d % 10 = 0 then dropZeros n (d / 10, p + 1) else (d, p)

/-- Positional from `1e-5` up to below `1e16`, always with a point; otherwise one digit, the point
if there are more, and a signed exponent. -/
def text (x : Binary64) : String :=
  let sign := if x.negative then "-" else ""
  if x.significand = 0 then sign ++ "0.0"
  else
    let (d, p) := dropZeros 17 x.shortest
    let digits := toString d
    let scale := p + (digits.length : Int) - 1
    let body :=
      if scale < -5 ∨ 15 < scale then
        let tail := (digits.drop 1).toString
        let mark := if tail.isEmpty then "" else "."
        let e := toString scale.natAbs
        (digits.take 1).toString ++ mark ++ tail ++ "e" ++ (if scale < 0 then "-" else "+") ++ e
      else if scale < 0 then
        "0." ++ "".pushn '0' (scale.natAbs - 1) ++ digits
      else if 0 ≤ p then digits ++ "".pushn '0' p.natAbs ++ ".0"
      else
        let whole := scale.natAbs + 1
        (digits.take whole).toString ++ "." ++ (digits.drop whole).toString
    sign ++ body

end Binary64

end Cordon
