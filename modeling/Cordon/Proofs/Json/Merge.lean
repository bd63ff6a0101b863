import Cordon.Proofs.Json.Fields

/-! # Merge patches

A patch is an object of changes: null takes a field away, an object is merged into what the field
holds, and any other value takes the place of the field, lists as a whole.  `under_merge` says what
a document holds under one key after a patch; the fields that the patch does not name stay.
-/

namespace Cordon.Json

namespace Raw

/-- What an object consists of; nothing where there is no object. -/
def entries : Raw → List (String × Raw)
  | .obj es => es
  | _ => []

/-- Puts a field in place of the ones with its key, or takes these away. -/
def put (key : String) (value : Option Raw) (es : List (String × Raw)) : List (String × Raw) :=
  es.filter (·.1 ≠ key) ++ (value.map (key, ·)).toList

mutual

/-- A document after a merge patch. -/
def merge : Json → Raw → Raw
  | .obj patch, r => .obj (mergeEntries patch r.entries)
  | j, _ => of j

def mergeEntries : List (String × Json) → List (String × Raw) → List (String × Raw)
  | [], es => es
  | (k, j) :: rest, es =>
    mergeEntries rest
      (put k (if j = .null then none else some (merge j ((lastOf k es).getD .null))) es)

end

/-- A field after a patch, from what the patch says of it and what it was. -/
def mergedField : Option Json → Option Raw → Option Raw
  | none, o => o
  | some j, o => if j = .null then none else some (merge j (o.getD .null))

variable {key k : String} {es fs : List (String × Raw)} {patch : List (String × Json)} {r : Raw}

theorem lastOf_append : lastOf key (es ++ fs) = (lastOf key fs).or (lastOf key es) := by
  induction es with
  | nil => simp [lastOf]
  | cons e rest ih => simp [lastOf, ih, Option.or_assoc]

theorem lastOf_filter_ne :
    lastOf key (es.filter (·.1 ≠ k)) = if k = key then none else lastOf key es := by
  induction es with
  | nil => simp [lastOf]
  | cons e rest ih =>
    obtain ⟨k', v⟩ := e
    rw [List.filter_cons]
    by_cases hk : k' = k
    · subst hk
      simp only [ne_eq, not_true_eq_false, decide_false, Bool.false_eq_true, if_false, ih, lastOf]
      split
      · rfl
      · rw [Option.or_none]
    · simp only [ne_eq, hk, not_false_eq_true, decide_true, if_true, lastOf, ih]
      by_cases hkey : k' = key
      · have hne : k ≠ key := fun h => hk (hkey.trans h.symm)
        simp [hkey, hne]
      · simp only [if_neg hkey, Option.or_none]

theorem lastOf_put {o : Option Raw} :
    lastOf key (put k o es) = if k = key then o else lastOf key es := by
  rw [put, lastOf_append, lastOf_filter_ne]
  cases o with
  | none => simp [lastOf]
  | some v =>
    by_cases hk : k = key
    · simp [lastOf, hk]
    · simp [lastOf, hk]

theorem lastOf_mergeEntries (h : (patch.map (·.1)).Nodup) :
    lastOf key (mergeEntries patch es) = mergedField (lookup key patch) (lastOf key es) := by
  induction patch generalizing es with
  | nil => rfl
  | cons e rest ih =>
    obtain ⟨k, j⟩ := e
    obtain ⟨hnew, hrest⟩ := List.nodup_cons.1 h
    rw [mergeEntries, ih hrest, lastOf_put, lookup]
    by_cases hk : k = key
    · subst hk
      rw [lookup_eq_none hnew, if_pos rfl, if_pos rfl]
      rfl
    · rw [if_neg hk, if_neg hk]

theorem field?_merge {es : List (String × Json)} :
    (merge (object es) r).field? key = mergedField (lookup key es.reverse) (r.field? key) := by
  have hold : lastOf key r.entries = r.field? key := by
    cases r <;> rfl
  rw [← get?_object, ← hold]
  exact lastOf_mergeEntries (nodup_foldl_putEntry _)

theorem merge_list (items : List Json) (r : Raw) : merge (.arr items) r = of (.arr items) := by
  rw [merge]
  intro es h
  cases h

/-- What a document holds under a key after a patch. -/
theorem under_merge {es : List (String × Json)} :
    (merge (object es) r).under key = ((lookup key es.reverse).elim (r.under key) fun j =>
      if j = .null then .null else merge j (r.under key)) := by
  rw [under, field?_merge]
  cases lookup key es.reverse with
  | none => rfl
  | some j =>
    simp only [mergedField, Option.elim_some]
    split <;> rfl

end Raw

end Cordon.Json
