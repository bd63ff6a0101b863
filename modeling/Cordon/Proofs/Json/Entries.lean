import Cordon.Json.Value
import Mathlib.Data.String.Basic

/-! # Looking entries up

`putEntry` keeps the entries of an object in key order, but what is found under a key does not
depend on any order: it is what was put there last (`lookup_putEntry`).  So an object that is built
from a list of entries shows the last entry of each key (`get?_object`).
-/

namespace Cordon.Json

variable {key k : String} {v : Json} {es fs : List (String × Json)}

theorem lookup_putEntry :
    lookup key (putEntry k v es) = if k = key then some v else lookup key es := by
  induction es with
  | nil => rfl
  | cons e rest ih =>
    obtain ⟨k', v'⟩ := e
    rw [putEntry]
    split
    · simp only [lookup]
    · next hle =>
      split
      · next hlt =>
        -- The new entry stands behind one with a smaller key.
        have hne : k ≠ k' := fun heq => hle (heq ▸ hlt)
        simp only [lookup, ih]
        split <;> split <;> simp_all
      · next hge =>
        have heq : k = k' := le_antisymm (not_lt.1 hge) (not_lt.1 hle)
        simp only [lookup, heq]
        split <;> rfl

theorem lookup_append : lookup key (es ++ fs) = (lookup key es).or (lookup key fs) := by
  induction es with
  | nil => rfl
  | cons e rest ih =>
    simp only [List.cons_append, lookup, ih]
    split <;> rfl

theorem lookup_foldl_putEntry :
    lookup key (es.foldl (fun acc e => putEntry e.1 e.2 acc) fs) =
      (lookup key es.reverse).or (lookup key fs) := by
  induction es generalizing fs with
  | nil => rfl
  | cons e rest ih =>
    rw [List.foldl_cons, ih, lookup_putEntry, List.reverse_cons, lookup_append, Option.or_assoc]
    congr 1
    simp only [lookup]
    split <;> rfl

/-- Nothing is found under a key that no pair has. -/
theorem lookup_eq_none_iff_not_mem {α : Type} {l : List (String × α)} :
    l.lookup key = none ↔ key ∉ l.map (·.1) := by
  rw [List.lookup_eq_none_iff]
  constructor
  · intro h hmem
    obtain ⟨p, hp, rfl⟩ := List.mem_map.1 hmem
    exact bne_iff_ne.1 (h p hp) rfl
  · intro h p hp
    exact bne_iff_ne.2 fun heq => h (List.mem_map.2 ⟨p, hp, heq.symm⟩)

theorem get?_object : (object es).get? key = lookup key es.reverse := by
  show lookup key (es.foldl (fun acc e => putEntry e.1 e.2 acc) []) = _
  rw [lookup_foldl_putEntry]
  exact Option.or_none

end Cordon.Json
