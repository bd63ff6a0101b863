import Cordon.Json.Fault
import Cordon.Json.Value

/-! # JSON as it stands in a text

In a text the entries of an object come in any order, and a key may come twice. Parts of a text can
be well formed and still have no value: a number beyond all floating point numbers, a text with half
a character, lists and objects nested too deeply. A `Raw` tree keeps all of this, so that whoever
reads it can pass over what does not matter: a damaged part is a fault only for a reader that needs
its value. `Raw.value` needs all of it.
-/

namespace Cordon.Json

/-- JSON as it stands in a text. -/
inductive Raw where
  | null
  | bool (value : Bool)
  | num (value : Number)
  | str (value : String)
  | arr (items : List Raw)
  | obj (entries : List (String × Raw))
  /-- A well-formed part without a value, and why it has none. -/
  | damaged (fault : Fault)

namespace Raw

instance : Inhabited Raw := ⟨.null⟩

/-! ## Values as they would stand in a text -/

mutual

/-- A value as it stands in a text that lists keys in order. -/
def of : Json → Raw
  | .null => .null
  | .bool b => .bool b
  | .num n => .num n
  | .str s => .str s
  | .arr items => .arr (ofItems items)
  | .obj entries => .obj (ofEntries entries)

def ofItems : List Json → List Raw
  | [] => []
  | j :: rest => of j :: ofItems rest

def ofEntries : List (String × Json) → List (String × Raw)
  | [] => []
  | (k, j) :: rest => (k, of j) :: ofEntries rest

end

/-! ## The value of a text -/

mutual

/-- The value, or the first fault that leaves the text without one. Of two entries with one key the
later one counts. -/
def value : Raw → Except Fault Json
  | .null => .ok .null
  | .bool b => .ok (.bool b)
  | .num n => .ok (.num n)
  | .str s => .ok (.str s)
  | .arr items => do
    let values ← valueItems items
    pure (.arr values)
  | .obj entries => do
    let values ← valueEntries entries
    pure (object values)
  | .damaged fault => .error fault

def valueItems : List Raw → Except Fault (List Json)
  | [] => .ok []
  | r :: rest => do
    let j ← r.value
    let values ← valueItems rest
    pure (j :: values)

def valueEntries : List (String × Raw) → Except Fault (List (String × Json))
  | [] => .ok []
  | (k, r) :: rest => do
    let j ← r.value
    let values ← valueEntries rest
    pure ((k, j) :: values)

end

end Raw

end Cordon.Json
