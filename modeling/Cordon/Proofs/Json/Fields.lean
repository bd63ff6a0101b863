import Cordon.Json.Shape
import Cordon.Proofs.Json.Entries
import Mathlib.Data.List.Forall2

/-! # What an object says under a key

In a text a key may come twice; `Raw.field?` is what counts, the last of the entries of a key, and
`Raw.down` follows keys from an object into its parts.

An object that is brought into the form of its shape shows under the key of a field what stands
there, in the form of the field (`Shape.get?_normalise`): the other entries play no part, and a
field that is null or missing shows what is written in its stead.  A structure that is read from an
object has each of its fields from the one entry of that name (`Record.ofEntries_field`), and a
written object says under each key what it was written from (`Raw.field?_of_objectOf`).
-/

namespace Cordon

theorem bind_eq_ok {ε α β : Type} {x : Except ε α} {f : α → Except ε β} {b : β} :
    x >>= f = .ok b ↔ ∃ a, x = .ok a ∧ f a = .ok b := by
  constructor
  · intro h
    cases x with
    | error e => cases h
    | ok a => exact ⟨a, rfl, h⟩
  · rintro ⟨a, rfl, h⟩
    exact h

theorem map_eq_ok {ε α β : Type} {x : Except ε α} {f : α → β} {b : β} :
    x.map f = .ok b ↔ ∃ a, x = .ok a ∧ f a = b := by
  constructor
  · intro h
    cases x with
    | error e => cases h
    | ok a => exact ⟨a, rfl, Except.ok.inj h⟩
  · rintro ⟨a, rfl, rfl⟩
    rfl

end Cordon

namespace Cordon.Json

namespace Raw

/-- What stands under a key; the last of several entries counts. -/
def lastOf (key : String) : List (String × Raw) → Option Raw
  | [] => none
  | (k, r) :: rest => (lastOf key rest).or (if k = key then some r else none)

def field? (key : String) : Raw → Option Raw
  | .obj es => lastOf key es
  | _ => none

/-- What stands under a key, null where nothing does. -/
def under (key : String) (r : Raw) : Raw := (r.field? key).getD .null

/-- What stands where the keys lead to, one after the other. -/
def down : List String → Raw → Raw
  | [], r => r
  | key :: rest, r => (r.under key).down rest

def text? : Raw → Option String
  | .str s => some s
  | _ => none

def list? : Raw → Option (List Raw)
  | .arr items => some items
  | _ => none

end Raw

/-- The fields of the objects of a shape. -/
def Shape.fields : Shape → Fields
  | .record _ fields => fields
  | _ => .none

variable {key k name : String} {es : List (String × Json)} {o : Option Json} {fields : Fields}
  {shape : Shape}

theorem lookup_filter_ne :
    lookup key (es.filter (·.1 ≠ k)) = if k = key then none else lookup key es := by
  induction es with
  | nil => simp [lookup]
  | cons e rest ih =>
    obtain ⟨k', v⟩ := e
    rw [List.filter_cons]
    by_cases hk : k' = k
    · subst hk
      simp only [ne_eq, not_true_eq_false, decide_false, Bool.false_eq_true, if_false, ih, lookup]
      split <;> rfl
    · simp only [ne_eq, hk, not_false_eq_true, decide_true, if_true, lookup, ih]
      by_cases hkey : k' = key
      · have hne : k ≠ key := fun h => hk (hkey.trans h.symm)
        simp [hkey, hne]
      · simp only [if_neg hkey]

theorem lookup_putOrTake :
    lookup key (putOrTake k o es) = if k = key then o else lookup key es := by
  cases o with
  | none => exact lookup_filter_ne
  | some v => exact lookup_putEntry

theorem lookup_supply {v : Json} :
    lookup key (supply k v es) = (lookup key es).or (if k = key then some v else none) := by
  unfold supply
  cases h : lookup k es with
  | some w =>
    by_cases hk : k = key
    · subst hk
      simp [h]
    · simp [hk]
  | none =>
    simp only [lookup_putEntry]
    by_cases hk : k = key
    · subst hk
      simp [h]
    · simp [hk]

/-! ## Objects in the form of their shape -/

/-- What is written under a key that is null or missing. -/
def Fields.standIn : Fields → String → Option Json
  | .none, _ => Option.none
  | .optional _ _ rest, key => rest.standIn key
  | .always name shape rest, key =>
    (rest.standIn key).or (if name = key then some shape.least else Option.none)
  | .fixed name value rest, key =>
    (rest.standIn key).or (if name = key then some (.str value) else Option.none)

/-- The shape of the field of a name, if it may be null. -/
def Fields.shapeOf : Fields → String → Option Shape
  | .none, _ => Option.none
  | .optional name shape rest, key => if key = name then some shape else rest.shapeOf key
  | .always name shape rest, key => if key = name then some shape else rest.shapeOf key
  | .fixed name _ rest, key => if key = name then Option.none else rest.shapeOf key

theorem Fields.lookup_complete : (fields : Fields) → (es : List (String × Json)) →
    lookup key (fields.complete es) = (lookup key es).or (fields.standIn key)
  | .none, es => by simp [complete, standIn]
  | .optional _ _ rest, es => by simp only [complete, standIn, rest.lookup_complete es]
  | .always name shape rest, es => by
    simp only [complete, standIn, lookup_supply, rest.lookup_complete es, Option.or_assoc]
  | .fixed name value rest, es => by
    simp only [complete, standIn, lookup_supply, rest.lookup_complete es, Option.or_assoc]

theorem Fields.normaliseEntry_of_shapeOf {r : Raw} : (fields : Fields) →
    fields.shapeOf key = some shape →
      fields.normaliseEntry key r = (Decoder.optional shape.normalise r).map some
  | .none, h => by simp [shapeOf] at h
  | .optional name s rest, h => by
    simp only [shapeOf] at h
    simp only [normaliseEntry]
    split at h
    · next hk =>
      obtain rfl : s = shape := Option.some.inj h
      simp [hk]
    · next hk => simp only [if_neg hk, rest.normaliseEntry_of_shapeOf h]
  | .always name s rest, h => by
    simp only [shapeOf] at h
    simp only [normaliseEntry]
    split at h
    · next hk =>
      obtain rfl : s = shape := Option.some.inj h
      simp [hk]
    · next hk => simp only [if_neg hk, rest.normaliseEntry_of_shapeOf h]
  | .fixed name value rest, h => by
    simp only [shapeOf] at h
    simp only [normaliseEntry]
    split at h
    · cases h
    · next hk => simp only [if_neg hk, rest.normaliseEntry_of_shapeOf h]

/-- A field of an object, in the form of the field's shape; nothing for an unknown key. -/
def Fields.normaliseField (fields : Fields) (e : String × Raw) :
    Except Mismatch (Option (String × Option Json)) := do
  let value ← fields.normaliseEntry e.1 e.2
  pure (value.map (e.1, ·))

theorem lookup_fields (hs : fields.shapeOf key = some shape) {es : List (String × Raw)}
    {known : List (Option (String × Option Json))}
    (h : es.mapM fields.normaliseField = .ok known) (acc : List (String × Json)) :
    (∀ r, Raw.lastOf key es = some r → Decoder.optional shape.normalise r = .ok
        (lookup key ((known.filterMap id).foldl (fun acc e => putOrTake e.1 e.2 acc) acc))) ∧
      (Raw.lastOf key es = none →
        lookup key ((known.filterMap id).foldl (fun acc e => putOrTake e.1 e.2 acc) acc) =
          lookup key acc) := by
  induction es generalizing known acc with
  | nil =>
    obtain rfl : [] = known := Except.ok.inj h
    exact ⟨fun _ hr => (nomatch hr), fun _ => rfl⟩
  | cons e rest ih =>
    obtain ⟨k, r⟩ := e
    rw [List.mapM_cons] at h
    obtain ⟨entry, hentry, h⟩ := bind_eq_ok.1 h
    obtain ⟨known', hrest, h⟩ := bind_eq_ok.1 h
    obtain rfl : entry :: known' = known := Except.ok.inj h
    obtain ⟨value, hvalue, hpair⟩ := bind_eq_ok.1 hentry
    obtain rfl : value.map (k, ·) = entry := Except.ok.inj hpair
    by_cases hk : k = key
    · -- This entry counts unless a later one of the key does.
      subst hk
      rw [fields.normaliseEntry_of_shapeOf hs] at hvalue
      obtain ⟨o, ho, rfl⟩ := map_eq_ok.1 hvalue
      obtain ⟨hlater, hnone⟩ := ih hrest (putOrTake k o acc)
      have hfold : (some (k, o) :: known').filterMap id = (k, o) :: known'.filterMap id := rfl
      rw [Option.map_some, hfold, List.foldl_cons]
      refine ⟨fun r' hr' => ?_, fun hr' => ?_⟩
      · cases hlast : Raw.lastOf k rest with
        | some r'' =>
          simp only [Raw.lastOf, hlast, Option.some_or, Option.some.injEq] at hr'
          exact hlater r' (by rw [hlast, hr'])
        | none =>
          simp only [Raw.lastOf, hlast, Option.none_or, if_true, Option.some.injEq] at hr'
          rw [hnone hlast, lookup_putOrTake, if_pos rfl, ← hr']
          exact ho
      · simp [Raw.lastOf] at hr'
    · have hlast : Raw.lastOf key ((k, r) :: rest) = Raw.lastOf key rest := by
        simp [Raw.lastOf, hk]
      rw [hlast]
      cases value with
      | none => exact ih hrest acc
      | some o =>
        have hacc : lookup key (putOrTake k o acc) = lookup key acc := by
          rw [lookup_putOrTake, if_neg hk]
        obtain ⟨hlater, hnone⟩ := ih hrest (putOrTake k o acc)
        exact ⟨hlater, fun hr => (hnone hr).trans hacc⟩

/-- What an object shows under the key of a field is what stands there, in the form of the field, or
else what is written in its stead. -/
theorem Shape.get?_normalise {whole : Shape} {r : Raw} {j : Json}
    (hs : whole.fields.shapeOf key = some shape) (h : whole.normalise r = .ok j) :
    ∃ o, Decoder.optional shape.normalise (r.under key) = .ok o ∧
      j.get? key = o.or (whole.fields.standIn key) := by
  cases whole with
  | record name fields =>
    cases r with
    | obj es =>
      rw [Shape.normalise] at h
      obtain ⟨known, hknown, h⟩ := bind_eq_ok.1 h
      obtain rfl : Json.obj (fields.complete (entriesOf (known.filterMap id))) = j :=
        Except.ok.inj h
      obtain ⟨hsome, hnone⟩ := lookup_fields hs hknown []
      refine ⟨lookup key (entriesOf (known.filterMap id)), ?_, Fields.lookup_complete _ _⟩
      cases hr : Raw.lastOf key es with
      | some r =>
        simp only [Raw.under, Raw.field?, hr, Option.getD_some]
        exact hsome r hr
      | none =>
        have hmissing : lookup key (entriesOf (known.filterMap id)) = none := hnone hr
        simp only [Raw.under, Raw.field?, hr, Option.getD_none, hmissing]
        rfl
    | _ => simp [Shape.normalise, Decoder.mistaken] at h
  | _ => cases hs

theorem Decoder.optional_eq_ok {α : Type} {d : Decoder α} {r : Raw} {o : Option α}
    (h : Decoder.optional d r = .ok o) :
    (r = .null ∧ o = none) ∨ ∃ a, d r = .ok a ∧ o = some a := by
  cases r with
  | null => exact .inl ⟨rfl, (Except.ok.inj h).symm⟩
  | _ =>
    obtain ⟨a, ha, ho⟩ := map_eq_ok.1 h
    exact .inr ⟨a, ha, ho.symm⟩

/-! ## Structures -/

namespace Record

variable {α β : Type} {r : Record α} {es : List (String × Raw)}

theorem lookup_of_checkEntries (hk : k ∈ r.names) {seen : List String}
    (h : r.checkEntries seen es = .ok ()) :
    es.lookup k = Raw.lastOf k es ∧ (k ∈ seen → Raw.lastOf k es = none) := by
  induction es generalizing seen with
  | nil => exact ⟨rfl, fun _ => rfl⟩
  | cons e rest ih =>
    obtain ⟨k', raw⟩ := e
    rw [checkEntries] at h
    split at h
    · cases h
    · next hnew =>
      obtain ⟨-, -, h⟩ := bind_eq_ok.1 h
      obtain ⟨hrest, hseen⟩ := ih h
      by_cases hkk : k' = k
      · subst hkk
        have hnone : Raw.lastOf k' rest = none := hseen List.mem_cons_self
        refine ⟨by simp [List.lookup_cons_self, Raw.lastOf, hnone], fun hmem => ?_⟩
        exact absurd ⟨hk, hmem⟩ hnew
      · have hne : (k == k') = false := beq_false_of_ne (Ne.symm hkk)
        refine ⟨by simp [List.lookup_cons, Raw.lastOf, hkk, hne, hrest], fun hmem => ?_⟩
        simp [Raw.lastOf, hkk, hseen (List.mem_cons_of_mem _ hmem)]

/-- No field of a structure stands twice in an object that it is read from. -/
theorem lookup_of_ofObject {a : α} (hk : k ∈ r.names) (h : r.ofObject es = .ok a) :
    es.lookup k = Raw.lastOf k es ∧ r.ofEntries es = .ok a := by
  obtain ⟨⟨⟩, hcheck, h⟩ := bind_eq_ok.1 h
  exact ⟨(lookup_of_checkEntries hk hcheck).1, h⟩

/-- Each field of a structure is read from the entry of its name, or stands in for it. -/
theorem ofEntries_field {r : Record (β → α)} {f : Field β} {a : α}
    (h : (r.field f).ofEntries es = .ok a) :
    ∃ g b, r.ofEntries es = .ok g ∧ a = g b ∧
      ((∃ raw, es.lookup f.name = some raw ∧ f.read raw = .ok b) ∨ f.absent = some b) := by
  obtain ⟨g, hg, h⟩ := bind_eq_ok.1 h
  cases hraw : es.lookup f.name with
  | some raw =>
    rw [hraw] at h
    obtain ⟨b, hb, rfl⟩ := map_eq_ok.1 h
    exact ⟨g, b, hg, rfl, .inl ⟨raw, rfl, hb⟩⟩
  | none =>
    cases habsent : f.absent with
    | some b =>
      rw [hraw, habsent] at h
      exact ⟨g, b, hg, (Except.ok.inj h).symm, .inr rfl⟩
    | none =>
      rw [hraw, habsent] at h
      cases h

end Record

/-! ## Lists -/

theorem Decoder.items_eq_ok {α : Type} {d : Decoder α} {items : List Raw} {as : List α} :
    Decoder.items d items = .ok as ↔ List.Forall₂ (fun r a => d r = .ok a) items as := by
  induction items generalizing as with
  | nil =>
    rw [List.forall₂_nil_left_iff]
    exact ⟨fun h => (Except.ok.inj h).symm, fun h => by rw [h]; rfl⟩
  | cons r rest ih =>
    rw [Decoder.items, bind_eq_ok, List.forall₂_cons_left_iff]
    constructor
    · rintro ⟨a, ha, h⟩
      obtain ⟨as', has, h⟩ := bind_eq_ok.1 h
      exact ⟨a, as', ha, ih.1 has, (Except.ok.inj h).symm⟩
    · rintro ⟨a, as', ha, has, rfl⟩
      exact ⟨a, ha, bind_eq_ok.2 ⟨as', ih.2 has, rfl⟩⟩

/-! ## Values as they would stand in a text -/

theorem mem_keys_putEntry {v : Json} (h : k ∈ (putEntry name v es).map (·.1)) :
    k = name ∨ k ∈ es.map (·.1) := by
  induction es with
  | nil => simpa [putEntry] using h
  | cons e rest ih =>
    obtain ⟨k', v'⟩ := e
    rw [putEntry] at h
    split at h
    · simpa using h
    · split at h
      · rw [List.map_cons, List.mem_cons] at h ⊢
        rcases h with h | h
        · exact .inr (.inl h)
        · exact (ih h).imp id .inr
      · rw [List.map_cons, List.mem_cons] at h
        exact h.imp id fun h => List.mem_cons_of_mem _ h

theorem sorted_putEntry {v : Json} (h : (es.map (·.1)).Pairwise (· < ·)) :
    ((putEntry k v es).map (·.1)).Pairwise (· < ·) := by
  induction es with
  | nil => simp [putEntry]
  | cons e rest ih =>
    obtain ⟨k', v'⟩ := e
    obtain ⟨hhead, hrest⟩ := List.pairwise_cons.1 h
    rw [putEntry]
    split
    · next hlt =>
      refine List.pairwise_cons.2 ⟨fun x hx => ?_, h⟩
      rcases List.mem_cons.1 hx with rfl | hx
      · exact hlt
      · exact hlt.trans (hhead x hx)
    · next hle =>
      split
      · next hlt =>
        refine List.pairwise_cons.2 ⟨fun x hx => ?_, ih hrest⟩
        rcases mem_keys_putEntry hx with rfl | hx
        · exact hlt
        · exact hhead x hx
      · next hge =>
        obtain rfl : k = k' := le_antisymm (not_lt.1 hge) (not_lt.1 hle)
        exact h

theorem sorted_foldl_putEntry {fs : List (String × Json)} (h : (fs.map (·.1)).Pairwise (· < ·)) :
    ((es.foldl (fun acc e => putEntry e.1 e.2 acc) fs).map (·.1)).Pairwise (· < ·) := by
  induction es generalizing fs with
  | nil => exact h
  | cons e rest ih => exact ih (sorted_putEntry h)

/-- Nothing stands twice in an object that is built. -/
theorem nodup_foldl_putEntry (es : List (String × Json)) :
    ((es.foldl (fun acc e => putEntry e.1 e.2 acc) []).map (·.1)).Nodup :=
  (sorted_foldl_putEntry List.Pairwise.nil).imp ne_of_lt

theorem lookup_eq_none : {es : List (String × Json)} → k ∉ es.map (·.1) → lookup k es = none
  | [], _ => rfl
  | (k', v) :: rest, hk => by
    rw [List.map_cons, List.mem_cons, not_or] at hk
    rw [lookup, if_neg (Ne.symm hk.1), lookup_eq_none hk.2]

/-- The entries of an object that is built from fields, each of which may be missing. -/
def presentEntries (fields : List (String × Option Json)) : List (String × Json) :=
  fields.filterMap fun e => e.2.map (e.1, ·)

theorem lookup_presentEntries {fields : List (String × Option Json)}
    (h : (fields.map (·.1)).Nodup) :
    lookup key (presentEntries fields).reverse = (fields.lookup key).join := by
  induction fields with
  | nil => rfl
  | cons e rest ih =>
    obtain ⟨k, o⟩ := e
    obtain ⟨hnew, hrest⟩ := List.nodup_cons.1 h
    by_cases hk : k = key
    · subst hk
      rw [lookup_eq_none_iff_not_mem.2 hnew] at ih
      cases o with
      | none => simpa [presentEntries, List.lookup_cons_self] using ih hrest
      | some v =>
        have hcons : presentEntries ((k, some v) :: rest) = (k, v) :: presentEntries rest := rfl
        rw [hcons, List.reverse_cons, lookup_append, ih hrest]
        simp [lookup, List.lookup_cons_self]
    · have hne : (key == k) = false := beq_false_of_ne (Ne.symm hk)
      rw [List.lookup_cons, hne]
      cases o with
      | none => exact ih hrest
      | some v =>
        have hcons : presentEntries ((k, some v) :: rest) = (k, v) :: presentEntries rest := rfl
        rw [hcons, List.reverse_cons, lookup_append, ih hrest]
        simp [lookup, hk]

theorem get?_objectOf {fields : List (String × Option Json)} (h : (fields.map (·.1)).Nodup) :
    (objectOf fields).get? key = (fields.lookup key).join :=
  get?_object.trans (lookup_presentEntries h)

namespace Raw

theorem lastOf_ofEntries (h : (es.map (·.1)).Nodup) :
    lastOf key (ofEntries es) = (lookup key es).map of := by
  induction es with
  | nil => rfl
  | cons e rest ih =>
    obtain ⟨k', v⟩ := e
    obtain ⟨hnew, hrest⟩ := List.nodup_cons.1 h
    rw [ofEntries, lastOf, ih hrest, lookup]
    split
    · next hk =>
      subst hk
      rw [lookup_eq_none hnew]
      rfl
    · rw [Option.or_none]

/-- What a written object says under a key is the value of the field of that name. -/
theorem field?_of_objectOf {fields : List (String × Option Json)} (h : (fields.map (·.1)).Nodup) :
    (of (objectOf fields)).field? key = ((fields.lookup key).join).map of := by
  rw [← get?_objectOf h]
  exact lastOf_ofEntries (nodup_foldl_putEntry _)

end Raw

end Cordon.Json
