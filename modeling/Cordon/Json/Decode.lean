import Cordon.Json.Raw
import Cordon.Text.Quoted

/-! # Decoding JSON

A `Decoder` turns what stands in a text into a typed thing or says how the two do not fit. A
`Record` decodes a structure from an object or, where the structure allows it, from the list of its
fields in order.

Of several faults in an object the one that stands first is reported; a missing field is reported
only when every field that is there has been read, the first missing one in field order. In a list
the first fault in field order is reported. Unknown keys are passed over, whatever stands under
them; no field may stand twice.
-/

namespace Cordon.Json

/-- The kind of a value, with the value where it is short enough to show. -/
inductive Kind where
  | null
  | bool (value : Bool)
  | num (value : Number)
  | str (value : String)
  | list
  | object
  | damaged (fault : Fault)
deriving DecidableEq

def Raw.kind : Raw → Kind
  | .null => .null
  | .bool b => .bool b
  | .num n => .num n
  | .str s => .str s
  | .arr _ => .list
  | .obj _ => .object
  | .damaged fault => .damaged fault

def Kind.described : Kind → String
  | .null => "null"
  | .bool b => "boolean `" ++ (if b then "true" else "false") ++ "`"
  | .num (.int n) => "integer `" ++ toString n ++ "`"
  | .num (.float x) => "floating point `" ++ x.text ++ "`"
  | .str s => "string " ++ Text.quoted s
  | .list => "sequence"
  | .object => "map"
  | .damaged fault => fault.message

/-- How a value fails to be what is expected. -/
inductive Mismatch where
  | invalidType (found : Kind) (expected : String)
  | invalidValue (found : Kind) (expected : String)
  | unknownVariant (found : String) (known : List String)
  | missingField (name : String)
  | duplicateField (name : String)
  | invalidLength (length : Nat) (expected : String)
  | malformed (text : String)
deriving DecidableEq

def ticked (name : String) : String := "`" ++ name ++ "`"

def alternatives : List String → String
  | [] => "there are no variants"
  | [a] => "expected " ++ ticked a
  | [a, b] => "expected " ++ ticked a ++ " or " ++ ticked b
  | names => "expected one of " ++ ", ".intercalate (names.map ticked)

def Mismatch.message : Mismatch → String
  | .invalidType found expected => "invalid type: " ++ found.described ++ ", expected " ++ expected
  | .invalidValue found expected =>
    "invalid value: " ++ found.described ++ ", expected " ++ expected
  | .unknownVariant found known => "unknown variant " ++ ticked found ++ ", " ++ alternatives known
  | .missingField name => "missing field " ++ ticked name
  | .duplicateField name => "duplicate field " ++ ticked name
  | .invalidLength length expected =>
    "invalid length " ++ toString length ++ ", expected " ++ expected
  | .malformed text => text

/-- Reads what stands in a text as a typed thing. -/
abbrev Decoder (α : Type) := Raw → Except Mismatch α

namespace Decoder

def mistaken {α : Type} (r : Raw) (expected : String) : Except Mismatch α :=
  .error (.invalidType r.kind expected)

def text : Decoder String
  | .str s => .ok s
  | r => mistaken r "a string"

def bool : Decoder Bool
  | .bool b => .ok b
  | r => mistaken r "a boolean"

/-- An integer from `low` to `high`; the bounds' type is named when another value is met. -/
def integer (low high : Int) (type : String) : Decoder Int
  | .num (.int n) =>
    if low ≤ n ∧ n ≤ high then .ok n else .error (.invalidValue (.num (.int n)) type)
  | r => mistaken r type

def word16 : Decoder Int := integer 0 65535 "u16"

def int32 : Decoder Int := integer (-2147483648) 2147483647 "i32"

def int64 : Decoder Int := integer (-9223372036854775808) 9223372036854775807 "i64"

def optional {α : Type} (d : Decoder α) : Decoder (Option α)
  | .null => .ok none
  | r => (d r).map some

def items {α : Type} (d : Decoder α) : List Raw → Except Mismatch (List α)
  | [] => .ok []
  | r :: rest => do
    let a ← d r
    let as ← items d rest
    pure (a :: as)

def list {α : Type} (d : Decoder α) : Decoder (List α)
  | .arr l => items d l
  | r => mistaken r "a sequence"

def entries {α : Type} (d : Decoder α) :
    List (String × Raw) → Except Mismatch (List (String × α))
  | [] => .ok []
  | (k, r) :: rest => do
    let a ← d r
    let as ← entries d rest
    pure ((k, a) :: as)

def map {α : Type} (d : Decoder α) : Decoder (List (String × α))
  | .obj es => entries d es
  | r => mistaken r "a map"

def any : Decoder Json := fun r => r.value.mapError fun fault => .malformed fault.message

/-- One of a few names: the name itself, or an object with the name as its only key and null
under it. -/
def variant {α : Type} (known : List (String × α)) : Decoder α
  | .str s => find s
  | .obj [(k, r)] => do
    let a ← find k
    match r with
    | .null => pure a
    | r => mistaken r "unit"
  | .obj _ => .error (.invalidValue .object "map with a single key")
  | r => mistaken r "string or map"
where
  find (s : String) : Except Mismatch α :=
    match known.lookup s with
    | some a => .ok a
    | none => .error (.unknownVariant s (known.map (·.1)))

end Decoder

/-! ## Records -/

/-- A field of a structure: how it is read, and what stands for it when its key is missing or when a
list of fields ends before it. -/
structure Field (α : Type) where
  name : String
  read : Decoder α
  absent : Option α
  short : Option α

namespace Field

variable {α : Type}

def required (name : String) (d : Decoder α) : Field α := ⟨name, d, none, none⟩

def default (name : String) (d : Decoder α) (value : α) : Field α :=
  ⟨name, d, some value, some value⟩

def optional (name : String) (d : Decoder α) : Field (Option α) :=
  ⟨name, d.optional, some none, some none⟩

/-- A field that may be null or, in an object, missing; a list of fields holds it. -/
def nullable (name : String) (d : Decoder α) : Field (Option α) :=
  ⟨name, d.optional, some none, none⟩

end Field

/-- How the fields of a structure are read. -/
structure Record (α : Type) where
  /-- The names of the fields. -/
  names : List String
  /-- Whether what stands under a key fits the field of that name. -/
  check : String → Raw → Except Mismatch Unit
  /-- The structure of an object whose values fit. -/
  ofEntries : List (String × Raw) → Except Mismatch α
  /-- The structure of the first items of a list, with the items behind; the text names the
  structure when items are missing. -/
  ofItems : String → List Raw → Except Mismatch (α × List Raw)

namespace Record

variable {α β : Type}

def of (a : α) : Record α :=
  ⟨[], fun _ _ => .ok (), fun _ => .ok a, fun _ items => .ok (a, items)⟩

def field (r : Record (β → α)) (f : Field β) : Record α where
  names := r.names ++ [f.name]
  check key raw := if key = f.name then (f.read raw).map (fun _ => ()) else r.check key raw
  ofEntries es := do
    let g ← r.ofEntries es
    match es.lookup f.name, f.absent with
    | some raw, _ => g <$> f.read raw
    | none, some b => pure (g b)
    | none, none => .error (.missingField f.name)
  ofItems expected items := do
    let (g, items) ← r.ofItems expected items
    match items, f.short with
    | raw :: rest, _ => do
      let b ← f.read raw
      pure (g b, rest)
    | [], some b => pure (g b, [])
    | [], none => .error (.invalidLength r.names.length expected)

/-- Checks the entries in turn, where fields of some names have stood before. -/
def checkEntries (r : Record α) (seen : List String) : List (String × Raw) → Except Mismatch Unit
  | [] => .ok ()
  | (k, raw) :: rest =>
    if k ∈ r.names ∧ k ∈ seen then .error (.duplicateField k)
    else do
      r.check k raw
      r.checkEntries (k :: seen) rest

def ofObject (r : Record α) (es : List (String × Raw)) : Except Mismatch α := do
  r.checkEntries [] es
  r.ofEntries es

/-- Reads a structure from an object or from the list of its fields. -/
def decode (r : Record α) (name : String) : Decoder α
  | .obj es => r.ofObject es
  | .arr items => do
    let size := r.names.length
    let count := toString size ++ (if size = 1 then " element" else " elements")
    let (a, rest) ← r.ofItems ("struct " ++ name ++ " with " ++ count) items
    match rest with
    | [] => pure a
    | _ :: _ => .error (.invalidLength items.length "fewer elements in array")
  | r => Decoder.mistaken r ("struct " ++ name)

end Record

end Cordon.Json
