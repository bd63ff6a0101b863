/-! # Finite maps from text keys

Labels, selectors and label changes are finite maps whose entries are shown in key order.
`Dict` keeps its entries in strictly increasing key order, so two maps with the same entries are
the same value (`Dict.ext_get?`), and the order of keys is the order of their code points.

Main statements: `get?_insert`, `get?_erase` and `get?_empty` say what each operation does to a
look-up; `ext_get?` says that nothing but the look-ups matters.
-/

namespace Cordon

universe u v

/-- A finite map from text keys, its entries in strictly increasing key order. -/
structure Dict (α : Type u) where
  entries : List (String × α)
  increasing : entries.Pairwise (fun a b => a.1 < b.1)
deriving DecidableEq

namespace Dict

variable {α : Type u} {β : Type v}

/-! ## Entry lists -/

/-- Puts an entry where its key belongs, in place of an entry with the same key. -/
def insertEntry (key : String) (value : α) : List (String × α) → List (String × α)
  | [] => [(key, value)]
  | (k, v) :: rest =>
    if key < k then (key, value) :: (k, v) :: rest
    else if k < key then (k, v) :: insertEntry key value rest
    else (key, value) :: rest

/-- The value beside a key in a list of entries. -/
def findEntry (key : String) : List (String × α) → Option α
  | [] => none
  | (k, v) :: rest => if k = key then some v else findEntry key rest

theorem eq_of_not_lt {a b : String} (h : ¬ a < b) (h' : ¬ b < a) : a = b :=
  String.le_antisymm (String.not_lt.1 h') (String.not_lt.1 h)

theorem key_of_mem_insertEntry {key : String} {value : α} {l : List (String × α)}
    {e : String × α} (h : e ∈ insertEntry key value l) : e = (key, value) ∨ e ∈ l := by
  induction l with
  | nil => simpa [insertEntry] using h
  | cons a rest ih =>
    obtain ⟨k, v⟩ := a
    unfold insertEntry at h
    split at h
    · simpa using h
    · split at h
      · rcases List.mem_cons.1 h with h | h
        · exact .inr (by simp [h])
        · rcases ih h with h | h
          · exact .inl h
          · exact .inr (List.mem_cons_of_mem _ h)
      · rcases List.mem_cons.1 h with h | h
        · exact .inl h
        · exact .inr (List.mem_cons_of_mem _ h)

theorem pairwise_insertEntry (key : String) (value : α) {l : List (String × α)}
    (h : l.Pairwise (fun a b => a.1 < b.1)) :
    (insertEntry key value l).Pairwise (fun a b => a.1 < b.1) := by
  induction l with
  | nil => simp [insertEntry]
  | cons a rest ih =>
    obtain ⟨k, v⟩ := a
    have hr := List.pairwise_cons.1 h
    unfold insertEntry
    split
    · next hlt =>
      refine List.pairwise_cons.2 ⟨fun e he => ?_, h⟩
      rcases List.mem_cons.1 he with he | he
      · simpa [he] using hlt
      · exact String.lt_trans hlt (hr.1 e he)
    · next hge =>
      split
      · next hlt =>
        refine List.pairwise_cons.2 ⟨fun e he => ?_, ih hr.2⟩
        rcases key_of_mem_insertEntry he with he | he
        · simpa [he] using hlt
        · exact hr.1 e he
      · next hge' =>
        have hk : key = k := eq_of_not_lt hge hge'
        subst hk
        exact List.pairwise_cons.2 ⟨hr.1, hr.2⟩

theorem findEntry_insertEntry (key key' : String) (value : α) (l : List (String × α))
    (h : l.Pairwise (fun a b => a.1 < b.1)) :
    findEntry key' (insertEntry key value l) =
      if key = key' then some value else findEntry key' l := by
  induction l with
  | nil => simp [insertEntry, findEntry]
  | cons a rest ih =>
    obtain ⟨k, v⟩ := a
    have hr := List.pairwise_cons.1 h
    unfold insertEntry
    split
    · next hlt =>
      by_cases hk : key = key'
      · simp [findEntry, hk]
      · simp [findEntry, hk]
    · next hge =>
      split
      · next hlt =>
        by_cases hk : k = key'
        · subst hk
          have : ¬ key = k := fun he => by subst he; exact String.lt_irrefl _ hlt
          simp [findEntry, this]
        · simp [findEntry, hk, ih hr.2]
      · next hge' =>
        have hk : key = k := eq_of_not_lt hge hge'
        subst hk
        by_cases hk' : key = key' <;> simp [findEntry, hk']

theorem findEntry_eq_none {key : String} {l : List (String × α)}
    (h : ∀ e ∈ l, e.1 ≠ key) : findEntry key l = none := by
  induction l with
  | nil => rfl
  | cons a rest ih =>
    have := h a (by simp)
    simp [findEntry, this, ih (fun e he => h e (List.mem_cons_of_mem _ he))]

theorem findEntry_eq_some_of_mem {l : List (String × α)}
    (h : l.Pairwise (fun a b => a.1 < b.1)) {e : String × α} (he : e ∈ l) :
    findEntry e.1 l = some e.2 := by
  induction l with
  | nil => cases he
  | cons a rest ih =>
    have hr := List.pairwise_cons.1 h
    rcases List.mem_cons.1 he with he | he
    · subst he; simp [findEntry]
    · have hne : a.1 ≠ e.1 := fun hk => by
        have := hr.1 e he
        rw [hk] at this
        exact String.lt_irrefl _ this
      simp [findEntry, hne, ih hr.2 he]

theorem mem_of_findEntry {key : String} {value : α} {l : List (String × α)}
    (h : findEntry key l = some value) : (key, value) ∈ l := by
  induction l with
  | nil => simp [findEntry] at h
  | cons a rest ih =>
    obtain ⟨k, v⟩ := a
    unfold findEntry at h
    split at h
    · next hk => simp at h; simp [hk, h]
    · exact List.mem_cons_of_mem _ (ih h)

/-! ## Operations -/

/-- The map without entries. -/
def empty : Dict α := ⟨[], .nil⟩

instance : Inhabited (Dict α) := ⟨empty⟩
instance : EmptyCollection (Dict α) := ⟨empty⟩

/-- The value of a key. -/
def get? (d : Dict α) (key : String) : Option α := findEntry key d.entries

/-- Whether a key has a value. -/
def contains (d : Dict α) (key : String) : Bool := (d.get? key).isSome

/-- Gives a key a value, in place of the one it has. -/
def insert (d : Dict α) (key : String) (value : α) : Dict α :=
  ⟨insertEntry key value d.entries, pairwise_insertEntry key value d.increasing⟩

/-- Takes a key and its value out. -/
def erase (d : Dict α) (key : String) : Dict α :=
  ⟨d.entries.filter (fun e => e.1 != key), d.increasing.filter _⟩

/-- Whether the map has no entries. -/
def isEmpty (d : Dict α) : Bool := d.entries.isEmpty

/-- The entries in key order. -/
def toList (d : Dict α) : List (String × α) := d.entries

/-- The map of a list of entries; of two entries with one key, the later one counts. -/
def ofList (l : List (String × α)) : Dict α := l.foldl (fun d e => d.insert e.1 e.2) empty

/-- The map with one entry. -/
def singleton (key : String) (value : α) : Dict α := empty.insert key value

/-- The second map over the first: where both have a key, the second map's value counts. -/
def union (d e : Dict α) : Dict α := e.entries.foldl (fun d e => d.insert e.1 e.2) d

/-! ## Look-ups after each operation -/

@[simp] theorem get?_empty (key : String) : (empty : Dict α).get? key = none := rfl

@[simp] theorem get?_insert (d : Dict α) (key key' : String) (value : α) :
    (d.insert key value).get? key' = if key = key' then some value else d.get? key' :=
  findEntry_insertEntry key key' value d.entries d.increasing

@[simp] theorem get?_erase (d : Dict α) (key key' : String) :
    (d.erase key).get? key' = if key = key' then none else d.get? key' := by
  obtain ⟨l, hl⟩ := d
  simp only [get?, erase]
  clear hl
  induction l with
  | nil => simp [findEntry]
  | cons a rest ih =>
    obtain ⟨k, v⟩ := a
    by_cases hk : k = key
    · subst hk
      by_cases hk' : k = key' <;> simp_all [findEntry]
    · by_cases hk' : k = key'
      · subst hk'
        simp [findEntry, hk, Ne.symm hk]
      · simp [findEntry, hk, hk', ih]

theorem get?_eq_some_iff {d : Dict α} {key : String} {value : α} :
    d.get? key = some value ↔ (key, value) ∈ d.entries :=
  ⟨mem_of_findEntry, fun h => findEntry_eq_some_of_mem d.increasing h⟩

/-- Two entry lists in strictly increasing key order with the same members are equal. -/
theorem entries_eq_of_mem_iff : ∀ {l l' : List (String × α)},
    l.Pairwise (fun a b => a.1 < b.1) → l'.Pairwise (fun a b => a.1 < b.1) →
    (∀ e, e ∈ l ↔ e ∈ l') → l = l'
  | [], [], _, _, _ => rfl
  | [], b :: _, _, _, h => absurd ((h b).2 (by simp)) (by simp)
  | a :: _, [], _, _, h => absurd ((h a).1 (by simp)) (by simp)
  | a :: l, b :: l', hl, hl', h => by
    have hr := List.pairwise_cons.1 hl
    have hr' := List.pairwise_cons.1 hl'
    have hab : a = b := by
      rcases List.mem_cons.1 ((h a).1 (by simp)) with hm | hm
      · exact hm
      · rcases List.mem_cons.1 ((h b).2 (by simp)) with hm' | hm'
        · exact hm'.symm
        · exact absurd (String.lt_trans (hr'.1 a hm) (hr.1 b hm')) (String.lt_irrefl _)
    subst hab
    refine congrArg (a :: ·) (entries_eq_of_mem_iff hr.2 hr'.2 fun e => ?_)
    have he := h e
    simp only [List.mem_cons] at he
    constructor
    · intro hm
      rcases he.1 (.inr hm) with heq | hm'
      · subst heq; exact absurd (hr.1 _ hm) (String.lt_irrefl _)
      · exact hm'
    · intro hm
      rcases he.2 (.inr hm) with heq | hm'
      · subst heq; exact absurd (hr'.1 _ hm) (String.lt_irrefl _)
      · exact hm'

/-- Maps with the same look-ups are equal. -/
theorem ext_get? {d e : Dict α} (h : ∀ key, d.get? key = e.get? key) : d = e := by
  obtain ⟨l, hl⟩ := d
  obtain ⟨l', hl'⟩ := e
  have : l = l' := entries_eq_of_mem_iff hl hl' fun x => by
    have hx := h x.1
    have h1 := @get?_eq_some_iff α ⟨l, hl⟩ x.1 x.2
    have h2 := @get?_eq_some_iff α ⟨l', hl'⟩ x.1 x.2
    rw [← h1, ← h2, hx]
  subst this
  rfl

/-! ## Maps from lists -/

theorem get?_foldl_insert (l : List (String × α)) (d : Dict α) {key : String}
    (h : key ∉ l.map (·.1)) :
    (l.foldl (fun d e => d.insert e.1 e.2) d).get? key = d.get? key := by
  induction l generalizing d with
  | nil => rfl
  | cons e rest ih =>
    simp only [List.map_cons, List.mem_cons, not_or] at h
    rw [List.foldl_cons, ih _ h.2, get?_insert, if_neg (Ne.symm h.1)]

/-- Of entries with different keys, each one is found. -/
theorem get?_foldl_insert_of_mem {l : List (String × α)} (hl : (l.map (·.1)).Nodup) (d : Dict α)
    {e : String × α} (he : e ∈ l) :
    (l.foldl (fun d e => d.insert e.1 e.2) d).get? e.1 = some e.2 := by
  induction l generalizing d with
  | nil => cases he
  | cons a rest ih =>
    rw [List.map_cons, List.nodup_cons] at hl
    rw [List.foldl_cons]
    -- The first entry is still found at the end, since no later one has its key.
    rcases List.mem_cons.1 he with rfl | he
    · rw [get?_foldl_insert rest _ hl.1, get?_insert, if_pos rfl]
    · exact ih hl.2 _ he

/-- What is found is still found among more entries, and something is found for each of their
keys. -/
theorem get?_foldl_insert_ne_none {l : List (String × α)} {d : Dict α} {key : String}
    (h : d.get? key ≠ none ∨ key ∈ l.map (·.1)) :
    (l.foldl (fun d e => d.insert e.1 e.2) d).get? key ≠ none := by
  induction l generalizing d with
  | nil => simpa using h
  | cons e rest ih =>
    refine ih ?_
    rw [get?_insert]
    by_cases hkey : e.1 = key
    · exact .inl (by simp [hkey])
    · rw [if_neg hkey]
      exact h.imp_right fun hmem => (List.mem_cons.1 hmem).resolve_left (Ne.symm hkey)

theorem get?_ofList_of_mem {l : List (String × α)} (hl : (l.map (·.1)).Nodup) {e : String × α}
    (he : e ∈ l) : (ofList l).get? e.1 = some e.2 :=
  get?_foldl_insert_of_mem hl empty he

/-- What is found is one of the entries. -/
theorem mem_of_get?_ofList {l : List (String × α)} {key : String} {value : α}
    (h : (ofList l).get? key = some value) : (key, value) ∈ l := by
  have hor : ∀ d : Dict α, (l.foldl (fun d e => d.insert e.1 e.2) d).get? key = some value →
      (key, value) ∈ l ∨ d.get? key = some value := by
    clear h
    induction l with
    | nil => exact fun d h => .inr h
    | cons e rest ih =>
      intro d h
      rcases ih _ h with hmem | hget
      · exact .inl (List.mem_cons_of_mem _ hmem)
      · rw [get?_insert] at hget
        split at hget
        · next hkey =>
          cases hget
          cases hkey
          exact .inl (by simp)
        · exact .inr hget
  rcases hor _ h with hmem | hget
  · exact hmem
  · cases hget

theorem ofList_entries (d : Dict α) : ofList d.entries = d := by
  have hkeys : (d.entries.map (·.1)).Nodup := by
    refine List.pairwise_map.2 (d.increasing.imp ?_)
    intro a b hlt heq
    rw [heq] at hlt
    exact String.lt_irrefl _ hlt
  refine ext_get? fun key => ?_
  cases h : d.get? key with
  | some value => exact get?_ofList_of_mem hkeys (get?_eq_some_iff.1 h)
  | none =>
    cases h' : (ofList d.entries).get? key with
    | none => rfl
    | some value =>
      rw [get?_eq_some_iff.2 (mem_of_get?_ofList h')] at h
      cases h

end Dict

/-- The labels of an object. -/
abbrev Labels := Dict String

end Cordon
