import Cordon.Json.Decode
import Cordon.Time.Rfc3339

/-! # Shapes of objects

A `Shape` describes the values of a field: a text, a number, a list, an object with given fields,
and so on. `Shape.normalise` checks a value against its shape and brings it into the form in which
it is written: unknown fields and fields that are null are left out, a field that is always written
stands with the least value of its shape where it is missing or null, and timestamps are in
universal time. A field that stands twice has to fit each time; the last one counts.

Shapes are data. The tables of the cluster's objects are written with them.
-/

namespace Cordon.Json

mutual

/-- What a value looks like. -/
inductive Shape where
  | text
  | bool
  | int32
  | int64
  /-- Any number. -/
  | number
  /-- A 32 bit integer or a text. -/
  | intOrText
  /-- Bytes, written as text in base 64. -/
  | bytes
  | time
  | any
  | list (item : Shape)
  | map (value : Shape)
  /-- A list of items, or else something other than a list. -/
  | listOr (item other : Shape)
  /-- A boolean or something else. -/
  | boolOr (other : Shape)
  /-- An object, with the name that is shown when another value is met. -/
  | record (name : String) (fields : Fields)

/-- The fields of an object. -/
inductive Fields where
  | none
  /-- A field that may be null or missing. -/
  | optional (name : String) (shape : Shape) (rest : Fields)
  /-- A field that is always written. -/
  | always (name : String) (shape : Shape) (rest : Fields)
  /-- A field that always holds the same text. -/
  | fixed (name : String) (value : String) (rest : Fields)

end

/-! ## Writing tables -/

/-- Fields in front of others, by the shape they have in common. -/
def Fields.group (field : String → Shape → Fields → Fields) (table : List (Shape × List String))
    (rest : Fields) : Fields :=
  table.foldr (fun row rest => row.2.foldr (fun name rest => field name row.1 rest) rest) rest

/-- An object whose fields, by shape, are always written or may be missing. -/
def Shape.table (name : String) (always optional : List (Shape × List String)) : Shape :=
  .record name (.group .always always (.group .optional optional .none))

/-! ## Least values -/

def supply (name : String) (value : Json) (entries : List (String × Json)) :
    List (String × Json) :=
  match lookup name entries with
  | some _ => entries
  | none => putEntry name value entries

mutual

def Shape.least : Shape → Json
  | .text | .bytes | .time => .str ""
  | .bool | .boolOr _ => .bool false
  | .int32 | .int64 | .number | .intOrText => .int 0
  | .any => .null
  | .list _ | .listOr _ _ => .arr []
  | .map _ => .obj []
  | .record _ fields => .obj (fields.complete [])

/-- The missing fields that are always written, put beside those there are. -/
def Fields.complete : Fields → List (String × Json) → List (String × Json)
  | .none, entries => entries
  | .optional _ _ rest, entries => rest.complete entries
  | .always name shape rest, entries => supply name shape.least (rest.complete entries)
  | .fixed name value rest, entries => supply name (.str value) (rest.complete entries)

end

/-! ## Checking values -/

namespace Decoder

def time : Decoder Time.Instant
  | .str s =>
    match Time.parse s with
    | .ok t => .ok t
    | .error e => .error (.malformed e.message)
  | r => mistaken r "an RFC 3339 formatted date and time string"

def exactly (value : String) : Decoder Json := fun r => do
  let s ← text r
  if s = value then pure (.str s) else .error (.invalidValue (.str s) value)

def number : Decoder Json
  | .num n => .ok (.num n)
  | r => mistaken r "f64"

def intOrText : Decoder Json
  | .num (.int n) => (integer (-2147483648) 2147483647 "a 32-bit integer" (.num (.int n))).map .int
  | .str s => .ok (.str s)
  | r => mistaken r "IntOrString"

def base64Digit (c : Char) : Option Nat :=
  if 'A' ≤ c ∧ c ≤ 'Z' then some (c.toNat - 'A'.toNat)
  else if 'a' ≤ c ∧ c ≤ 'z' then some (c.toNat - 'a'.toNat + 26)
  else if '0' ≤ c ∧ c ≤ '9' then some (c.toNat - '0'.toNat + 52)
  else if c = '+' then some 62
  else if c = '/' then some 63
  else none

/-- Whether a text is in base 64: groups of four digits, the last one filled up where it stands for
fewer than three bytes and then without bits beyond them. -/
def isBase64 : List Char → Bool
  | [] => true
  | [a, b, '=', '='] =>
    (base64Digit a).isSome && ((base64Digit b).map (· % 16)) == some 0
  | [a, b, c, '='] =>
    (base64Digit a).isSome && (base64Digit b).isSome && ((base64Digit c).map (· % 4)) == some 0
  | a :: b :: c :: d :: rest =>
    [a, b, c, d].all (fun x => (base64Digit x).isSome) && isBase64 rest
  | _ => false

def bytes : Decoder Json
  | .str s => if isBase64 s.toList then .ok (.str s) else .error (.malformed "no base 64")
  | r => mistaken r "a base64-encoded string"

end Decoder

/-- Puts an entry in place of the one with its key, or takes that one away. -/
def putOrTake (key : String) (value : Option Json) (entries : List (String × Json)) :
    List (String × Json) :=
  match value with
  | some j => putEntry key j entries
  | none => entries.filter (·.1 ≠ key)

/-- The entries that fields leave, each with its value or null, the later one of two counting. -/
def entriesOf (fields : List (String × Option Json)) : List (String × Json) :=
  fields.foldl (fun acc e => putOrTake e.1 e.2 acc) []

mutual

def Shape.normalise : Shape → Decoder Json
  | .text, r => (Decoder.text r).map .str
  | .bool, r => (Decoder.bool r).map .bool
  | .int32, r => (Decoder.int32 r).map Json.int
  | .int64, r => (Decoder.int64 r).map Json.int
  | .number, r => Decoder.number r
  | .intOrText, r => Decoder.intOrText r
  | .bytes, r => Decoder.bytes r
  | .time, r => (Decoder.time r).map fun t => .str t.zuluText
  | .any, r => Decoder.any r
  | .list item, r => (Decoder.list (fun r => item.normalise r) r).map .arr
  | .map value, r => (Decoder.map (fun r => value.normalise r) r).map object
  | .listOr item other, r =>
    match r with
    | .arr items => (Decoder.items (fun r => item.normalise r) items).map .arr
    | r => other.normalise r
  | .boolOr other, r =>
    match r with
    | .bool b => .ok (.bool b)
    | r => other.normalise r
  | .record name fields, r =>
    match r with
    | .obj es => do
      let known ← es.mapM fun e => do
        let value ← fields.normaliseEntry e.1 e.2
        pure (value.map (e.1, ·))
      pure (.obj (fields.complete (entriesOf (known.filterMap id))))
    | r => Decoder.mistaken r name

/-- The value under a key in the form of the key's field, if it is not null; nothing for an unknown
key. -/
def Fields.normaliseEntry : Fields → String → Raw → Except Mismatch (Option (Option Json))
  | .none, _, _ => .ok Option.none
  | .optional name shape rest, key, r =>
    if key = name then (Decoder.optional (fun r => shape.normalise r) r).map some
    else rest.normaliseEntry key r
  | .always name shape rest, key, r =>
    if key = name then (Decoder.optional (fun r => shape.normalise r) r).map some
    else rest.normaliseEntry key r
  | .fixed name value rest, key, r =>
    if key = name then (Decoder.exactly value r).map fun j => some (some j)
    else rest.normaliseEntry key r

end

end Cordon.Json
