/-! # How alike two texts are

The likeness of two texts grows with the number of characters that they share at about the same
place, falls with the number of those that stand in another order, and grows with the number of
characters that both begin with. It is a fraction between nothing and one; `resembles` compares it
with four fifths.
-/

namespace Cordon.Text

/-- What has been found while one text is looked through for the characters of another: which places
are taken, how many characters are shared, how many of them go back, and the place of the last one.
-/
structure Shared where
  taken : List Nat
  count : Nat
  backward : Nat
  last : Nat
deriving DecidableEq

/-- The first free place from `low` to `high` where a character stands. -/
def findPlace (c : Char) (low high : Nat) (taken : List Nat) : Nat → List Char → Option Nat
  | _, [] => none
  | i, d :: rest =>
    if low ≤ i ∧ i ≤ high ∧ c = d ∧ i ∉ taken then some i
    else findPlace c low high taken (i + 1) rest

/-- Looks for a character around the place where it stands in the other text. -/
def shareChar (range : Nat) (b : List Char) (s : Shared) (i : Nat) (c : Char) : Shared :=
  match findPlace c (i - range) (min (b.length - 1) (i + range)) s.taken 0 b with
  | none => s
  | some j =>
    ⟨j :: s.taken, s.count + 1, s.backward + (if j < s.last then 1 else 0), j⟩

/-- Looks for characters one after the other, from a place on. -/
def shareFrom (range : Nat) (b : List Char) : Shared → Nat → List Char → Shared
  | s, _, [] => s
  | s, i, c :: rest => shareFrom range b (shareChar range b s i c) (i + 1) rest

def shared (a b : List Char) : Shared :=
  shareFrom (max a.length b.length / 2 - 1) b ⟨[], 0, 0, 0⟩ 0 a

def commonStart : List Char → List Char → Nat
  | c :: a, d :: b => if c = d then commonStart a b + 1 else 0
  | _, _ => 0

/-- The likeness without the common start, as a numerator and a denominator: the mean of the share
of the first text that is shared, that of the second, and that of the shared characters that are in
order. -/
def likeness (a b : List Char) : Nat × Nat :=
  let s := shared a b
  (s.count * s.count * (a.length + b.length) + (s.count - s.backward) * a.length * b.length,
    3 * a.length * b.length * s.count)

/-- Whether the likeness is above four fifths, where each character of a common start closes a tenth
of the gap that is left. -/
def resembles (a b : String) : Bool :=
  let (n, d) := likeness a.toList b.toList
  8 * d < 10 * n + commonStart a.toList b.toList * (d - n)

end Cordon.Text
