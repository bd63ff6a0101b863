import Cordon.Binary64

/-! # JSON values

A value is null, a boolean, a number, a text, a list or an object. The entries of an object stand in
key order, each key once: `Json.object` builds such an object from entries in any order, where of
two entries with the same key the later one counts.
-/

namespace Cordon

/-- A number is an integer or a binary floating point number: `1` and `1.0` are different values. -/
inductive Json.Number where
  | int (value : Int)
  | float (value : Binary64)
deriving DecidableEq

inductive Json where
  | null
  | bool (value : Bool)
  | num (value : Json.Number)
  | str (value : String)
  | arr (items : List Json)
  | obj (entries : List (String × Json))

namespace Json

instance : Inhabited Json := ⟨.null⟩

/-! ## Equality -/

mutual

/-- Equality of values is decided by comparing them part by part. -/
def decEq : (a b : Json) → Decidable (a = b)
  | .null, .null => .isTrue rfl
  | .bool x, .bool y => if h : x = y then .isTrue (by rw [h]) else .isFalse (by simp [h])
  | .num x, .num y => if h : x = y then .isTrue (by rw [h]) else .isFalse (by simp [h])
  | .str x, .str y => if h : x = y then .isTrue (by rw [h]) else .isFalse (by simp [h])
  | .arr xs, .arr ys =>
    match decEqItems xs ys with
    | .isTrue h => .isTrue (by rw [h])
    | .isFalse h => .isFalse (by simp [h])
  | .obj xs, .obj ys =>
    match decEqEntries xs ys with
    | .isTrue h => .isTrue (by rw [h])
    | .isFalse h => .isFalse (by simp [h])
  | .null, .bool _ | .null, .num _ | .null, .str _ | .null, .arr _ | .null, .obj _
  | .bool _, .null | .bool _, .num _ | .bool _, .str _ | .bool _, .arr _ | .bool _, .obj _
  | .num _, .null | .num _, .bool _ | .num _, .str _ | .num _, .arr _ | .num _, .obj _
  | .str _, .null | .str _, .bool _ | .str _, .num _ | .str _, .arr _ | .str _, .obj _
  | .arr _, .null | .arr _, .bool _ | .arr _, .num _ | .arr _, .str _ | .arr _, .obj _
  | .obj _, .null | .obj _, .bool _ | .obj _, .num _ | .obj _, .str _ | .obj _, .arr _ =>
    .isFalse (by simp)

def decEqItems : (a b : List Json) → Decidable (a = b)
  | [], [] => .isTrue rfl
  | [], _ :: _ => .isFalse (by simp)
  | _ :: _, [] => .isFalse (by simp)
  | x :: xs, y :: ys =>
    match decEq x y, decEqItems xs ys with
    | .isTrue h, .isTrue h' => .isTrue (by rw [h, h'])
    | .isFalse h, _ => .isFalse (by simp [h])
    | _, .isFalse h => .isFalse (by simp [h])

def decEqEntries : (a b : List (String × Json)) → Decidable (a = b)
  | [], [] => .isTrue rfl
  | [], _ :: _ => .isFalse (by simp)
  | _ :: _, [] => .isFalse (by simp)
  | (k, x) :: xs, (k', y) :: ys =>
    if hk : k = k' then
      match decEq x y, decEqEntries xs ys with
      | .isTrue h, .isTrue h' => .isTrue (by rw [hk, h, h'])
      | .isFalse h, _ => .isFalse (by simp [h])
      | _, .isFalse h => .isFalse (by simp [h])
    else .isFalse (by simp [hk])

end

instance : DecidableEq Json := decEq

/-! ## Objects -/

/-- Puts an entry where its key belongs, in place of an entry with the same key. -/
def putEntry (key : String) (value : Json) : List (String × Json) → List (String × Json)
  | [] => [(key, value)]
  | (k, v) :: rest =>
    if key < k then (key, value) :: (k, v) :: rest
    else if k < key then (k, v) :: putEntry key value rest
    else (key, value) :: rest

def lookup (key : String) : List (String × Json) → Option Json
  | [] => none
  | (k, v) :: rest => if k = key then some v else lookup key rest

/-- The object of a list of entries in any order; of two entries with one key the later one counts.
-/
def object (entries : List (String × Json)) : Json :=
  .obj (entries.foldl (fun acc e => putEntry e.1 e.2 acc) [])

def objectOf (entries : List (String × Option Json)) : Json :=
  object (entries.filterMap fun e => e.2.map (e.1, ·))

/-- The object with an entry put where its key belongs; other values stay as they are. -/
def set (j : Json) (key : String) (value : Json) : Json :=
  match j with
  | .obj entries => .obj (putEntry key value entries)
  | j => j

def get? (key : String) : Json → Option Json
  | .obj entries => lookup key entries
  | _ => none

def int (n : Int) : Json := .num (.int n)

def nat (n : Nat) : Json := .num (.int n)

def orNull : Option Json → Json
  | some j => j
  | none => .null

def textOrNull (s : Option String) : Json := orNull (s.map .str)

def texts (l : List String) : Json := .arr (l.map .str)

def asText? : Json → Option String
  | .str s => some s
  | _ => none

def asInt? : Json → Option Int
  | .num (.int n) => some n
  | _ => none

def asBool? : Json → Option Bool
  | .bool b => some b
  | _ => none

def asList? : Json → Option (List Json)
  | .arr l => some l
  | _ => none

def asEntries? : Json → Option (List (String × Json))
  | .obj es => some es
  | _ => none

end Json

end Cordon
