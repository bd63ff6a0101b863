import Cordon.Json.Decode
import Cordon.Proofs.Json.Entries
import Mathlib.Data.List.Nodup

/-! # Unknown keys

A `Layout` says where the structures are in what a decoder reads, and which keys each of them knows;
`Layout.prune` takes all other keys out of the objects there.  A decoder that a layout suits reads
the same before and after (`Layout.Suits`), be it a value or an error.

A structure is suited by the names and layouts of its fields (`Record.Suits.decode`), which are
joined field by field (`Record.Suits.field`).
-/

namespace Cordon.Json

/-- What is read: a value as a whole, a list, or a structure with fields of these names. -/
inductive Layout where
  | leaf
  | list (item : Layout)
  | record (fields : List (String × Layout))

namespace Layout

mutual

/-- What is left of a value without the unknown keys of its structures. -/
def prune : Layout → Raw → Raw
  | .list item, .arr items => .arr (pruneItems item items)
  | .record fields, .obj es => .obj (pruneEntries fields es)
  | .record fields, .arr items => .arr (pruneFields fields items)
  | _, r => r

def pruneItems (item : Layout) : List Raw → List Raw
  | [] => []
  | r :: rest => item.prune r :: pruneItems item rest

def pruneEntries (fields : List (String × Layout)) : List (String × Raw) → List (String × Raw)
  | [] => []
  | (k, r) :: rest =>
    match fields.lookup k with
    | some layout => (k, layout.prune r) :: pruneEntries fields rest
    | none => pruneEntries fields rest

/-- A structure may also be written as the list of its fields. -/
def pruneFields : List (String × Layout) → List Raw → List Raw
  | f :: fields, r :: rest => f.2.prune r :: pruneFields fields rest
  | _, rest => rest

end

variable {α β : Type} {layout : Layout} {fields : List (String × Layout)}

theorem kind_prune (layout : Layout) (r : Raw) : (layout.prune r).kind = r.kind := by
  cases layout <;> cases r <;> rfl

/-- A decoder does not see what the layout takes out. -/
def Suits (layout : Layout) (d : Decoder α) : Prop := ∀ r, d (layout.prune r) = d r

theorem suits_leaf (d : Decoder α) : Layout.leaf.Suits d := by
  intro r
  cases r <;> rfl

theorem Suits.items {d : Decoder α} (h : layout.Suits d) (items : List Raw) :
    Decoder.items d (pruneItems layout items) = Decoder.items d items := by
  induction items with
  | nil => rfl
  | cons r rest ih => rw [pruneItems, Decoder.items, Decoder.items, h, ih]

theorem Suits.list {d : Decoder α} (h : layout.Suits d) : (Layout.list layout).Suits d.list := by
  intro r
  cases r with
  | arr items => exact h.items items
  | _ => rfl

theorem optional_of_ne_null (d : Decoder α) {r : Raw} (hr : r.kind ≠ .null) :
    d.optional r = (d r).map some := by
  cases r with
  | null => exact absurd rfl hr
  | _ => rfl

theorem Suits.optional {d : Decoder α} (h : layout.Suits d) : layout.Suits d.optional := by
  intro r
  by_cases hr : r.kind = .null
  · cases r with
    | null => cases layout <;> rfl
    | _ => cases hr
  · rw [optional_of_ne_null d hr, optional_of_ne_null d (by rwa [kind_prune]), h]

/-! ## Structures -/

theorem lookup_pruneEntries {k : String} (hk : fields.lookup k = some layout)
    (es : List (String × Raw)) :
    (pruneEntries fields es).lookup k = (es.lookup k).map layout.prune := by
  induction es with
  | nil => rfl
  | cons e rest ih =>
    obtain ⟨k', r⟩ := e
    rw [pruneEntries, List.lookup_cons]
    by_cases hkk : k = k'
    · subst hkk
      simp only [hk, List.lookup_cons_self, beq_self_eq_true, Option.map_some]
    · rw [beq_false_of_ne hkk]
      cases fields.lookup k' with
      | none => exact ih
      | some layout' =>
        simp only [List.lookup_cons, beq_false_of_ne hkk]
        exact ih

theorem pruneFields_nil (fields : List (String × Layout)) : pruneFields fields [] = [] := by
  cases fields <;> rfl

theorem nil_pruneFields (items : List Raw) : pruneFields [] items = items := by
  cases items <;> rfl

theorem length_pruneFields (fields : List (String × Layout)) (items : List Raw) :
    (pruneFields fields items).length = items.length := by
  induction items generalizing fields with
  | nil => rw [pruneFields_nil]
  | cons r rest ih =>
    cases fields with
    | nil => rfl
    | cons f fields => simp [pruneFields, ih]

end Layout

open Layout

variable {α β : Type} {layout : Layout} {fields : List (String × Layout)}

/-- The fields of a structure have these names and are suited by these layouts, and other keys make
no difference. -/
structure Record.Suits (fields : List (String × Layout)) (r : Record α) : Prop where
  names : r.names = fields.map (·.1)
  known : ∀ k layout raw, fields.lookup k = some layout →
    r.check k (layout.prune raw) = r.check k raw
  unknown : ∀ k raw, k ∉ r.names → r.check k raw = .ok ()
  ofEntries : ∀ es es' : List (String × Raw),
    (∀ k layout, fields.lookup k = some layout → es'.lookup k = (es.lookup k).map layout.prune) →
      r.ofEntries es' = r.ofEntries es
  ofItems : ∀ name items more, r.ofItems name (pruneFields (fields ++ more) items) =
    (r.ofItems name items).map fun p => (p.1, pruneFields more p.2)

namespace Record

theorem suits_of (a : α) : (Record.of a).Suits [] where
  names := rfl
  known _ _ _ _ := rfl
  unknown _ _ _ := rfl
  ofEntries _ _ _ := rfl
  ofItems _ _ _ := rfl

theorem Suits.field {r : Record (β → α)} {f : Field β} (h : r.Suits fields)
    (hf : layout.Suits f.read) (hnew : f.name ∉ r.names) :
    (r.field f).Suits (fields ++ [(f.name, layout)]) := by
  have hnone : fields.lookup f.name = none := lookup_eq_none_iff_not_mem.2 (h.names ▸ hnew)
  have hlast : (fields ++ [(f.name, layout)]).lookup f.name = some layout := by
    rw [List.lookup_append, hnone, List.lookup_cons_self]
    rfl
  have hfirst : ∀ k, k ≠ f.name →
      (fields ++ [(f.name, layout)]).lookup k = fields.lookup k := fun k hk => by
    rw [List.lookup_append, List.lookup_cons, beq_false_of_ne hk, List.lookup_nil, Option.or_none]
  refine ⟨?_, fun k layout' raw hk => ?_, fun k raw hk => ?_, fun es es' hes => ?_,
    fun name items more => ?_⟩
  · simp [Record.field, h.names]
  · simp only [Record.field]
    split
    · next hkk =>
      subst hkk
      cases hlast.symm.trans hk
      rw [hf]
    · next hkk => exact h.known k layout' raw ((hfirst k hkk).symm.trans hk)
  · have hnames : k ∉ r.names ∧ k ≠ f.name := by
      simpa [Record.field, not_or] using hk
    simp only [Record.field, if_neg hnames.2]
    exact h.unknown k raw hnames.1
  · have hrest : r.ofEntries es' = r.ofEntries es := h.ofEntries es es' fun k layout' hk => by
      refine hes k layout' ((hfirst k fun hkk => ?_).trans hk)
      rw [hkk, hnone] at hk
      cases hk
    simp only [Record.field, hrest, hes f.name layout hlast]
    cases es.lookup f.name with
    | none => rfl
    | some raw => simp only [Option.map_some, hf raw]
  · -- The fields before take their items, and leave the next one to this field.
    have hitems := h.ofItems name items ((f.name, layout) :: more)
    simp only [Record.field, List.append_assoc, List.singleton_append, hitems]
    cases r.ofItems name items with
    | error e => rfl
    | ok p =>
      obtain ⟨g, rest⟩ := p
      cases rest with
      | nil =>
        cases f.short with
        | none => rfl
        | some b => exact congrArg (fun rest => Except.ok (g b, rest)) (pruneFields_nil more).symm
      | cons raw rest =>
        change (fun b => (g b, pruneFields more rest)) <$> f.read (layout.prune raw) =
          Except.map _ ((fun b => (g b, rest)) <$> f.read raw)
        rw [hf]
        cases f.read raw <;> rfl

theorem Suits.leaf {r : Record (β → α)} {f : Field β} (h : r.Suits fields)
    (hnew : f.name ∉ r.names) : (r.field f).Suits (fields ++ [(f.name, .leaf)]) :=
  h.field (suits_leaf f.read) hnew

/-- Whether an unknown key has stood before plays no part. -/
theorem Suits.checkEntries {r : Record α} (h : r.Suits fields) {seen seen' : List String}
    (hseen : ∀ k ∈ r.names, k ∈ seen' ↔ k ∈ seen) (es : List (String × Raw)) :
    r.checkEntries seen' (pruneEntries fields es) = r.checkEntries seen es := by
  induction es generalizing seen seen' with
  | nil => rfl
  | cons e rest ih =>
    obtain ⟨k, raw⟩ := e
    rw [pruneEntries, Record.checkEntries]
    cases hk : fields.lookup k with
    | some layout =>
      have hname : k ∈ r.names := by
        rw [h.names]
        obtain ⟨front, back, rfl, -⟩ := List.lookup_eq_some_iff.1 hk
        simp
      have hsame : ∀ k' ∈ r.names, k' ∈ k :: seen' ↔ k' ∈ k :: seen := fun k' hk' => by
        rw [List.mem_cons, List.mem_cons, hseen k' hk']
      simp only [Record.checkEntries, hseen k hname, h.known k layout raw hk, ih hsame]
    | none =>
      have hname : k ∉ r.names := by
        rw [h.names]
        exact lookup_eq_none_iff_not_mem.1 hk
      rw [if_neg fun hdouble => hname hdouble.1, h.unknown k raw hname]
      refine ih fun k' hk' => ?_
      rw [hseen k' hk', List.mem_cons, or_iff_right]
      exact fun hkk => hname (hkk ▸ hk')

/-- A structure is suited by the names and layouts of its fields. -/
theorem Suits.decode {r : Record α} {name : String} (h : r.Suits fields)
    (hlayout : layout = .record fields) : layout.Suits (r.decode name) := by
  intro raw
  subst hlayout
  cases raw with
  | obj es =>
    show r.ofObject (pruneEntries fields es) = r.ofObject es
    rw [ofObject, ofObject, h.checkEntries (fun _ _ => Iff.rfl), h.ofEntries es]
    exact fun k layout hk => lookup_pruneEntries hk es
  | arr items =>
    have hitems : ∀ text, r.ofItems text (pruneFields fields items) = r.ofItems text items := by
      intro text
      have hprune := h.ofItems text items []
      simp only [List.append_nil, nil_pruneFields] at hprune
      rw [hprune]
      exact id_map (r.ofItems text items)
    simp only [Record.decode, prune, hitems, length_pruneFields]
  | _ => rfl

end Record

end Cordon.Json
