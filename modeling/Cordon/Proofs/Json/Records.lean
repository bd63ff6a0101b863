import Cordon.Proofs.Json.Merge

/-! # Structures that are read back

Of an object a structure reads what stands under the names of its fields, if nothing stands there
twice (`Record.Reads.decode`).  So a structure comes back from the object that it was written to
(`Record.Reads.decode_objectOf`), and also from one that the written object has been merged into,
whatever stood there before (`Record.Reads.decode_merge`).
-/

namespace Cordon.Json

variable {α β : Type} {key k name : String}

/-! ## What an object holds -/

namespace Raw

variable {es : List (String × Raw)} {o : Option Raw}

/-- What entries hold under a key, where nothing stands twice. -/
def Holds (es : List (String × Raw)) (key : String) (o : Option Raw) : Prop :=
  es.filter (·.1 = key) = (o.map (key, ·)).toList

theorem holds_cons_self {r : Raw} (h : Holds ((key, r) :: es) key o) :
    o = some r ∧ Holds es key none := by
  rw [Holds, List.filter_cons, if_pos (by simp)] at h
  cases o with
  | none => cases h
  | some r' =>
    obtain ⟨hhead, hrest⟩ := List.cons.inj h
    cases hhead
    exact ⟨rfl, hrest⟩

theorem holds_cons_ne {r : Raw} (hk : k ≠ key) :
    Holds ((k, r) :: es) key o ↔ Holds es key o := by
  rw [Holds, List.filter_cons, if_neg (by simpa using hk)]
  rfl

theorem Holds.lookup (h : Holds es key o) : es.lookup key = o := by
  induction es with
  | nil =>
    cases o with
    | none => rfl
    | some r => cases h
  | cons e rest ih =>
    obtain ⟨k, r⟩ := e
    by_cases hk : k = key
    · subst hk
      rw [List.lookup_cons_self, (holds_cons_self h).1]
    · rw [List.lookup_cons, beq_false_of_ne (Ne.symm hk)]
      exact ih ((holds_cons_ne hk).1 h)

theorem holds_ofEntries {es : List (String × Json)} (h : (es.map (·.1)).Nodup) :
    Holds (ofEntries es) key ((Json.lookup key es).map of) := by
  induction es with
  | nil => rfl
  | cons e rest ih =>
    obtain ⟨k, j⟩ := e
    obtain ⟨hnew, hrest⟩ := List.nodup_cons.1 h
    rw [Json.lookup]
    split
    · next hk =>
      subst hk
      have hnone := ih hrest
      rw [lookup_eq_none hnew] at hnone
      rw [Holds, ofEntries, List.filter_cons, if_pos (by simp), hnone]
      rfl
    · next hk => exact (holds_cons_ne hk).2 (ih hrest)

theorem holds_put : Holds (put key o es) key o := by
  rw [Holds, put, List.filter_append, List.filter_filter]
  cases o <;> simp

theorem Holds.put_ne {v : Option Raw} (h : Holds es key o) (hk : k ≠ key) :
    Holds (put k v es) key o := by
  have hcomm : (fun e : String × Raw => decide (e.1 = key) && decide (e.1 ≠ k)) =
      fun e => decide (e.1 = key) := by
    funext e
    by_cases he : e.1 = key
    · simp [he, Ne.symm hk]
    · simp [he]
  rw [Holds, put, List.filter_append, List.filter_filter, hcomm, h]
  cases v <;> simp [hk]

theorem Holds.mergeEntries {patch : List (String × Json)} (h : Holds es key o)
    (hpatch : key ∉ patch.map (·.1)) : Holds (mergeEntries patch es) key o := by
  induction patch generalizing es with
  | nil => exact h
  | cons e rest ih =>
    rw [List.map_cons, List.mem_cons, not_or] at hpatch
    exact ih (h.put_ne (Ne.symm hpatch.1)) hpatch.2

/-- A list that a patch puts under a key stands there, whatever stood there before. -/
theorem holds_mergeEntries {patch : List (String × Json)} {items : List Json}
    (h : (patch.map (·.1)).Nodup) (hkey : Json.lookup key patch = some (.arr items)) :
    Holds (mergeEntries patch es) key (some (of (.arr items))) := by
  induction patch generalizing es with
  | nil => cases hkey
  | cons e rest ih =>
    obtain ⟨k, j⟩ := e
    obtain ⟨hnew, hrest⟩ := List.nodup_cons.1 h
    rw [Json.lookup] at hkey
    split at hkey
    · next hk =>
      subst hk
      cases hkey
      have hput : (if Json.arr items = .null then none
          else some (merge (.arr items) ((lastOf k es).getD .null))) = some (of (.arr items)) := by
        rw [if_neg (by simp), merge_list]
      -- The patch does not name the key again, so this is the last that is put there.
      rw [mergeEntries, hput]
      exact Holds.mergeEntries holds_put hnew
    · exact ih hrest hkey

end Raw

/-! ## Fields and structures -/

/-- What a field is, from what stands under its name. -/
def Field.value (f : Field α) : Option Raw → Except Mismatch α
  | some raw => f.read raw
  | none =>
    match f.absent with
    | some a => .ok a
    | none => .error (.missingField f.name)

namespace Record

variable {shown : String → Option Raw} {es : List (String × Raw)} {r : Record α} {a : α}

/-- From an object that shows this under the names of the fields a structure is read. -/
structure Reads (r : Record α) (shown : String → Option Raw) (a : α) : Prop where
  unknown : ∀ k raw, k ∉ r.names → r.check k raw = .ok ()
  known : ∀ k raw, k ∈ r.names → shown k = some raw → r.check k raw = .ok ()
  ofEntries : ∀ es : List (String × Raw), (∀ k ∈ r.names, es.lookup k = shown k) →
    r.ofEntries es = .ok a

theorem reads_of (a : α) : (Record.of a).Reads shown a :=
  ⟨fun _ _ _ => rfl, fun _ _ _ _ => rfl, fun _ _ => rfl⟩

theorem Reads.field {r : Record (β → α)} {g : β → α} {f : Field β} {b : β} (h : r.Reads shown g)
    (hf : f.value (shown f.name) = .ok b) : (r.field f).Reads shown (g b) where
  unknown k raw hk := by
    have hnames : k ∉ r.names ∧ k ≠ f.name := by
      simpa [Record.field, not_or] using hk
    simp only [Record.field, if_neg hnames.2]
    exact h.unknown k raw hnames.1
  known k raw hk hshown := by
    simp only [Record.field]
    split
    · next hname =>
      subst hname
      rw [hshown] at hf
      rw [show f.read raw = .ok b from hf]
      rfl
    · next hne =>
      have hnames : k ∈ r.names := by
        simpa [Record.field, hne] using hk
      exact h.known k raw hnames hshown
  ofEntries es hes := by
    have hg : r.ofEntries es = .ok g := h.ofEntries es fun k hk => hes k (List.mem_append_left _ hk)
    have hlookup : es.lookup f.name = shown f.name := hes f.name (by simp [Record.field])
    simp only [Record.field, hg, hlookup]
    cases hshown : shown f.name with
    | some raw =>
      rw [hshown] at hf
      show g <$> f.read raw = _
      rw [show f.read raw = .ok b from hf]
      rfl
    | none =>
      rw [hshown] at hf
      cases habsent : f.absent with
      | none => simp [Field.value, habsent] at hf
      | some b' =>
        obtain rfl : b' = b := by simpa [Field.value, habsent] using hf
        rfl

/-- The entries are checked one by one; `seen` holds the keys of those that have been. -/
theorem Reads.checkEntries (h : r.Reads shown a) {seen : List String}
    (hes : ∀ k ∈ r.names, ∃ o, Raw.Holds es k o ∧ (k ∈ seen → o = none) ∧
      ∀ raw, o = some raw → shown k = some raw) : r.checkEntries seen es = .ok () := by
  induction es generalizing seen with
  | nil => rfl
  | cons e rest ih =>
    obtain ⟨k, raw⟩ := e
    have hother : ∀ k' ∈ r.names, k' ≠ k → ∃ o, Raw.Holds rest k' o ∧
        (k' ∈ k :: seen → o = none) ∧ ∀ raw, o = some raw → shown k' = some raw := by
      intro k' hk' hne
      obtain ⟨o, ho, hseen, hshown⟩ := hes k' hk'
      exact ⟨o, (Raw.holds_cons_ne (Ne.symm hne)).1 ho,
        fun hmem => hseen ((List.mem_cons.1 hmem).resolve_left hne), hshown⟩
    by_cases hk : k ∈ r.names
    · -- A known key stands once, so it is new here and does not come again.
      obtain ⟨o, ho, hseen, hshown⟩ := hes k hk
      obtain ⟨rfl, hrest⟩ := Raw.holds_cons_self ho
      have hnew : k ∉ seen := fun hmem => nomatch hseen hmem
      rw [Record.checkEntries, if_neg (fun hdouble => hnew hdouble.2),
        h.known k raw hk (hshown raw rfl)]
      refine ih fun k' hk' => ?_
      by_cases hkk : k' = k
      · subst hkk
        exact ⟨none, hrest, fun _ => rfl, by simp⟩
      · exact hother k' hk' hkk
    · rw [Record.checkEntries, if_neg (fun hdouble => hk hdouble.1), h.unknown k raw hk]
      exact ih fun k' hk' => hother k' hk' fun hkk => hk (hkk ▸ hk')

/-- A structure is read from an object that holds its fields, each at most once. -/
theorem Reads.decode (h : r.Reads shown a) (hes : ∀ k ∈ r.names, Raw.Holds es k (shown k)) :
    r.decode name (.obj es) = .ok a := by
  have hcheck : r.checkEntries [] es = .ok () :=
    h.checkEntries fun k hk => ⟨shown k, hes k hk, by simp, fun _ hshown => hshown⟩
  show r.ofObject es = .ok a
  rw [Record.ofObject, hcheck]
  exact h.ofEntries es fun k hk => (hes k hk).lookup

/-- A structure comes back from an object that was written from it. -/
theorem Reads.decode_objectOf {fields : List (String × Option Json)}
    (h : r.Reads (fun k => ((fields.lookup k).join).map Raw.of) a)
    (hfields : (fields.map (·.1)).Nodup) : r.decode name (Raw.of (objectOf fields)) = .ok a := by
  refine h.decode fun k _ => ?_
  rw [← get?_objectOf hfields]
  exact Raw.holds_ofEntries (nodup_foldl_putEntry _)

theorem join_lookup_map_some (entries : List (String × Json)) :
    ((entries.map fun e => (e.1, some e.2)).lookup k).join = entries.lookup k := by
  induction entries with
  | nil => rfl
  | cons e rest ih =>
    rw [List.map_cons, List.lookup_cons, List.lookup_cons]
    cases k == e.1 with
    | true => rfl
    | false => exact ih

theorem Reads.decode_object {entries : List (String × Json)}
    (h : r.Reads (fun k => (entries.lookup k).map Raw.of) a)
    (hentries : (entries.map (·.1)).Nodup) : r.decode name (Raw.of (object entries)) = .ok a := by
  have hobject : object entries = objectOf (entries.map fun e => (e.1, some e.2)) := by
    simp [objectOf, List.filterMap_map]
  rw [hobject]
  refine Reads.decode_objectOf ?_ ?_
  · simpa only [join_lookup_map_some] using h
  · simpa [List.map_map, Function.comp_def] using hentries

/-- A structure of lists comes back from any object that it has been merged into. -/
theorem Reads.decode_merge {entries : List (String × Json)} {old : Raw} (h : r.Reads shown a)
    (hentries : ∀ k ∈ r.names, ∃ items, lookup k entries.reverse = some (.arr items) ∧
      shown k = some (Raw.of (.arr items))) :
    r.decode name (Raw.merge (object entries) old) = .ok a := by
  refine h.decode fun k hk => ?_
  obtain ⟨items, hlookup, hshown⟩ := hentries k hk
  rw [← get?_object] at hlookup
  rw [hshown]
  exact Raw.holds_mergeEntries (nodup_foldl_putEntry _) hlookup

end Record

/-- A list comes back if its items do. -/
theorem Decoder.list_of_map {d : Decoder α} {f : α → Json} (h : ∀ a, d (Raw.of (f a)) = .ok a)
    (l : List α) : Decoder.list d (Raw.of (.arr (l.map f))) = .ok l := by
  show Decoder.items d (Raw.ofItems (l.map f)) = .ok l
  induction l with
  | nil => rfl
  | cons a rest ih => rw [List.map_cons, Raw.ofItems, Decoder.items, h, ih]; rfl

end Cordon.Json
