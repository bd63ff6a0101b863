import Cordon.Isolation.PodFilter
import Cordon.Proofs.Isolation.Marked
import Cordon.Proofs.Json.Merge
import Mathlib.Data.List.Nodup

/-! # Orphaned labels

The change that marks a pod takes labels away and sets others, one after the other.  No step undoes
another one: `recoverKey` takes the mark off a key again, so that different labels move to different
keys, and a key with the mark is never moved itself.  `get?_markedLabels_iff` says from this what
each label of a marked pod is.

The main statements are `marking_orphans` and `marking_recoverable`: no selector that names a moved
key finds the pod any more, and the labels that the pod had can be read off the ones it got.
-/

namespace Cordon

namespace Dict

variable {α : Type}

theorem nodup_keys (d : Dict α) : (d.entries.map (·.1)).Nodup := by
  refine List.pairwise_map.2 (d.increasing.imp fun hlt heq => ?_)
  rw [heq] at hlt
  exact String.lt_irrefl _ hlt

/-- A written map says under each key what the map has there. -/
theorem lookup_entries (d : Dict α) (write : α → Json) (key : String) :
    Json.lookup key (d.entries.map fun e => (e.1, write e.2)) = (d.get? key).map write := by
  obtain ⟨entries, hentries⟩ := d
  show Json.lookup key (entries.map _) = (findEntry key entries).map write
  clear hentries
  induction entries with
  | nil => rfl
  | cons e rest ih =>
    obtain ⟨k, v⟩ := e
    by_cases hk : k = key
    · simp [Json.lookup, findEntry, hk]
    · simpa [Json.lookup, findEntry, hk] using ih

/-- A map is the map of any list of its entries that has each key once. -/
theorem ofList_eq {l : List (String × α)} {d : Dict α} (hl : (l.map (·.1)).Nodup)
    (h : ∀ e, e ∈ l ↔ e ∈ d.entries) : ofList l = d := by
  refine ext_get? fun key => Option.ext fun value => ⟨fun hget => ?_, fun hget => ?_⟩
  · exact get?_eq_some_iff.2 ((h _).1 (mem_of_get?_ofList hget))
  · exact get?_ofList_of_mem hl ((h _).2 (get?_eq_some_iff.1 hget))

end Dict

namespace Marking

variable {labels : Labels} {patch : LabelPatch} {key value : String}
  {moved : List (String × String)}

/-! ## Keys without their marks -/

theorem splitKey_eta (key : List Char) : (splitKey key).1 ++ (splitKey key).2 = key := by
  induction key with
  | nil => rfl
  | cons c rest ih =>
    rw [splitKey]
    by_cases hc : ((splitKey rest).1.isEmpty && c != '/') = true
    · have hhead : (splitKey rest).1 = [] := by
        simp only [Bool.and_eq_true, List.isEmpty_iff] at hc
        exact hc.1
      rw [hhead, List.nil_append] at ih
      simp [hc, ih]
    · simp [hc, ih]

theorem splitKey_slash (front : List Char) {name : List Char} (hname : '/' ∉ name) :
    splitKey (front ++ '/' :: name) = (front ++ ['/'], name) := by
  induction front with
  | nil => simp [splitKey, splitKey_of_not_mem hname]
  | cons c rest ih => simp [splitKey, ih]

theorem head_splitKey (key : List Char) :
    (splitKey key).1 = [] ∨ ∃ front, (splitKey key).1 = front ++ ['/'] := by
  induction key with
  | nil => exact .inl rfl
  | cons c rest ih =>
    rw [splitKey]
    by_cases hc : ((splitKey rest).1.isEmpty && c != '/') = true
    · exact .inl (by simp [hc])
    · simp only [hc, Bool.false_eq_true, if_false]
      rcases ih with hempty | ⟨front, hfront⟩
      · have hslash : c = '/' := by simpa [hempty] using hc
        exact .inr ⟨[], by simp [hempty, hslash]⟩
      · exact .inr ⟨c :: front, by simp [hfront]⟩

/-- A key is split behind its last slash, or not at all if it has none. -/
theorem splitKey_eq_iff {key head name : List Char} : splitKey key = (head, name) ↔
    head ++ name = key ∧ '/' ∉ name ∧ (head = [] ∨ ∃ front, head = front ++ ['/']) := by
  constructor
  · intro h
    have hparts := And.intro (splitKey_eta key) (And.intro (not_mem_name key) (head_splitKey key))
    rwa [h] at hparts
  · rintro ⟨rfl, hname, rfl | ⟨front, rfl⟩⟩
    · exact splitKey_of_not_mem hname
    · simpa using splitKey_slash front hname

/-- A name without the mark in front, if it is there. -/
def stripMark (name : List Char) : List Char :=
  if mark.isPrefixOf name then name.drop mark.length else name

/-- Where an orphaned label came from: the mark is taken off its name, behind the last slash. -/
def recoverKey (key : String) : String :=
  let (head, name) := splitKey key.toList
  String.ofList (head ++ stripMark name)

theorem recoverKey_orphanKey (key : String) : recoverKey (orphanKey key) = key := by
  have hmark : '/' ∉ mark := by decide
  have hname : '/' ∉ mark ++ (splitKey key.toList).2 := by
    simp [hmark, not_mem_name]
  have hsplit : splitKey (orphanKey key).toList =
      ((splitKey key.toList).1, mark ++ (splitKey key.toList).2) := by
    rw [orphanKey, String.toList_ofList, List.append_assoc]
    exact splitKey_eq_iff.2 ⟨rfl, hname, head_splitKey _⟩
  have hstrip : stripMark (mark ++ (splitKey key.toList).2) = (splitKey key.toList).2 := by
    simp [stripMark]
  rw [recoverKey, hsplit]
  show String.ofList ((splitKey key.toList).1 ++ stripMark _) = key
  rw [hstrip, splitKey_eta, String.ofList_toList]

theorem orphanKey_injective : Function.Injective orphanKey := fun a b h => by
  rw [← recoverKey_orphanKey a, h, recoverKey_orphanKey]

/-! ## What a change says of a moved label -/

/-- A label that marking moves: neither the sentinel nor moved before. -/
def Moves (key : String) : Prop := key ≠ Convention.sentinelKey ∧ isOrphanKey key = false

instance (key : String) : Decidable (Moves key) := inferInstanceAs (Decidable (_ ∧ _))

theorem moves_or_stays (key : String) :
    Moves key ∨ key = Convention.sentinelKey ∨ isOrphanKey key = true := by
  by_cases hkey : key = Convention.sentinelKey
  · exact .inr (.inl hkey)
  · cases horphan : isOrphanKey key with
    | true => exact .inr (.inr rfl)
    | false => exact .inl ⟨hkey, horphan⟩

theorem Moves.ne_orphanKey (h : Moves key) (other : String) : orphanKey other ≠ key := by
  intro heq
  have horphan := isOrphanKey_orphanKey other
  rw [heq, h.2] at horphan
  cases horphan

theorem orphan_of_moves {label : String × String} (h : Moves label.1) :
    orphan patch label = (patch.insert label.1 none).insert (orphanKey label.1) (some label.2) :=
  if_neg (by simp [h.1, h.2])

theorem orphan_of_not_moves {label : String × String} (h : ¬ Moves label.1) :
    orphan patch label = patch :=
  if_pos (by simpa using (moves_or_stays label.1).resolve_left h)

/-- A change says the same of a key after more labels have moved, if none of them is moved from
there or to there. -/
theorem get?_foldl_orphan {l : List (String × String)}
    (h : ∀ e ∈ l, Moves e.1 → e.1 ≠ key ∧ orphanKey e.1 ≠ key) :
    (l.foldl orphan patch).get? key = patch.get? key := by
  induction l generalizing patch with
  | nil => rfl
  | cons e rest ih =>
    rw [List.foldl_cons, ih fun x hx => h x (List.mem_cons_of_mem _ hx)]
    by_cases hmoves : Moves e.1
    · obtain ⟨hold, hnew⟩ := h e List.mem_cons_self hmoves
      rw [orphan_of_moves hmoves, Dict.get?_insert, if_neg hnew, Dict.get?_insert, if_neg hold]
    · rw [orphan_of_not_moves hmoves]

/-- Each moved label is taken from its key and set at its new one. -/
theorem get?_foldl_orphan_of_mem {l : List (String × String)} (hl : (l.map (·.1)).Nodup)
    {e : String × String} (he : e ∈ l) (hmoves : Moves e.1) :
    (l.foldl orphan patch).get? e.1 = some none ∧
      (l.foldl orphan patch).get? (orphanKey e.1) = some (some e.2) := by
  induction l generalizing patch with
  | nil => cases he
  | cons a rest ih =>
    rw [List.map_cons, List.nodup_cons] at hl
    rw [List.foldl_cons]
    rcases List.mem_cons.1 he with rfl | he
    · -- No later label is moved from either key or to it.
      have hother : ∀ x ∈ rest, x.1 ≠ e.1 := fun x hx heq =>
        hl.1 (List.mem_map.2 ⟨x, hx, heq⟩)
      have hfrom : (rest.foldl orphan (orphan patch e)).get? e.1 = (orphan patch e).get? e.1 :=
        get?_foldl_orphan fun x hx _ => ⟨hother x hx, hmoves.ne_orphanKey x.1⟩
      have hto : (rest.foldl orphan (orphan patch e)).get? (orphanKey e.1) =
          (orphan patch e).get? (orphanKey e.1) :=
        get?_foldl_orphan fun x hx hx' =>
          ⟨(hx'.ne_orphanKey e.1).symm, fun heq => hother x hx (orphanKey_injective heq)⟩
      rw [hfrom, hto, orphan_of_moves hmoves]
      simp [hmoves.ne_orphanKey e.1]
    · exact ih hl.2 he

/-- What a change sets is a moved label. -/
theorem mem_of_get?_foldl_orphan {l : List (String × String)}
    (h : (l.foldl orphan patch).get? key = some (some value)) :
    patch.get? key = some (some value) ∨
      ∃ e ∈ l, Moves e.1 ∧ orphanKey e.1 = key ∧ e.2 = value := by
  induction l generalizing patch with
  | nil => exact .inl h
  | cons a rest ih =>
    rcases ih h with hget | ⟨e, he, hmoved⟩
    · by_cases hmoves : Moves a.1
      · rw [orphan_of_moves hmoves, Dict.get?_insert] at hget
        by_cases hnew : orphanKey a.1 = key
        · rw [if_pos hnew] at hget
          exact .inr ⟨a, List.mem_cons_self, hmoves, hnew, by simpa using hget⟩
        · rw [if_neg hnew, Dict.get?_insert] at hget
          by_cases hold : a.1 = key
          · simp [hold] at hget
          · exact .inl (by simpa [hold] using hget)
      · rw [orphan_of_not_moves hmoves] at hget
        exact .inl hget
    · exact .inr ⟨e, List.mem_cons_of_mem _ he, hmoved⟩

/-! ## The labels of a marked pod -/

/-- Labels after the change that marks their pod, as they are if the pod is marked. -/
def afterMarking (labels : Labels) : Labels := (markPatch labels).elim labels (applyPatch labels)

theorem afterMarking_eq (labels : Labels) : afterMarking labels = markedLabels labels := by
  rw [afterMarking, markPatch_eq]
  by_cases hempty : (markChange labels).isEmpty = true
  · have hnone : (markChange labels).entries = [] := List.isEmpty_iff.1 hempty
    rw [if_pos hempty, markedLabels, applyPatch, hnone]
    rfl
  · rw [if_neg hempty]
    rfl

/-- A moved label is gone from its key and stands at its new one. -/
theorem get?_markedLabels_of_moves (h : labels.get? key = some value) (hmoves : Moves key) :
    (markedLabels labels).get? key = none ∧
      (markedLabels labels).get? (orphanKey key) = some value := by
  obtain ⟨hfrom, hto⟩ : (markChange labels).get? key = some none ∧
      (markChange labels).get? (orphanKey key) = some (some value) :=
    get?_foldl_orphan_of_mem labels.nodup_keys (Dict.get?_eq_some_iff.1 h) hmoves
  rw [markedLabels, get?_applyPatch, get?_applyPatch, hfrom, hto]
  exact ⟨rfl, rfl⟩

theorem get?_sentinelPatch (labels : Labels) (hkey : key ≠ Convention.sentinelKey) :
    (sentinelPatch labels).get? key = none := by
  rw [sentinelPatch]
  split
  · rfl
  · simp [Dict.singleton, Ne.symm hkey]

/-- Apart from the sentinel, a label of a marked pod has moved or had the mark before. -/
theorem get?_markedLabels (h : (markedLabels labels).get? key = some value)
    (hkey : key ≠ Convention.sentinelKey) :
    (∃ old, labels.get? old = some value ∧ Moves old ∧ orphanKey old = key) ∨
      labels.get? key = some value ∧ isOrphanKey key = true := by
  have horphan : isOrphanKey key = true :=
    (key_of_mem_markedLabels (Dict.get?_eq_some_iff.1 h)).resolve_left hkey
  rw [markedLabels, get?_applyPatch] at h
  cases hpatch : (markChange labels).get? key with
  | none =>
    rw [hpatch] at h
    exact .inr ⟨h, horphan⟩
  | some change =>
    rw [hpatch, Option.getD_some] at h
    rw [h, markChange] at hpatch
    rcases mem_of_get?_foldl_orphan hpatch with hsentinel | ⟨e, he, hmoves, hnew, rfl⟩
    · rw [get?_sentinelPatch labels hkey] at hsentinel
      cases hsentinel
    · exact .inl ⟨e.1, Dict.get?_eq_some_iff.2 he, hmoves, hnew⟩

/-- No label of a marked pod has a key that is moved. -/
theorem get?_markedLabels_eq_none (labels : Labels) (hmoves : Moves key) :
    (markedLabels labels).get? key = none := by
  cases hget : (markedLabels labels).get? key with
  | none => rfl
  | some value =>
    rcases key_of_mem_markedLabels (Dict.get?_eq_some_iff.1 hget) with hkey | horphan
    · exact absurd hkey hmoves.1
    · rw [hmoves.2] at horphan
      cases horphan

theorem labelsMatch_eq_false {selector : Labels} (hkey : selector.contains key = true)
    (hnone : labels.get? key = none) : labelsMatch labels selector = false := by
  obtain ⟨value, hvalue⟩ := Option.isSome_iff_exists.1 hkey
  have hmem : (key, value) ∈ selector.entries := Dict.get?_eq_some_iff.1 hvalue
  rw [labelsMatch, Bool.and_eq_false_iff]
  refine .inr (List.all_eq_false.2 ⟨(key, value), hmem, ?_⟩)
  simp [hnone]

/-- To apply a change to labels is to merge the written change into the written labels. -/
theorem field?_merge_patchToJson (labels : Labels) (patch : LabelPatch) (key : String) :
    (Json.Raw.merge (patchToJson patch) (.of labels.toJson)).field? key =
      ((applyPatch labels patch).get? key).map .str := by
  have hpatch : ((patch.entries.map fun e => (e.1, Json.textOrNull e.2)).map (·.1)).Nodup := by
    simpa [List.map_map, Function.comp_def] using patch.nodup_keys
  have hlabels : ((labels.entries.map fun e => (e.1, Json.str e.2)).map (·.1)).Nodup := by
    simpa [List.map_map, Function.comp_def] using labels.nodup_keys
  have hold : Json.Raw.lastOf key (Json.Raw.of labels.toJson).entries =
      ((labels.get? key).map Json.str).map .of := by
    rw [← Dict.lookup_entries]
    exact Json.Raw.lastOf_ofEntries hlabels
  have hmerged : (Json.Raw.merge (patchToJson patch) (.of labels.toJson)).field? key =
      Json.Raw.mergedField ((patch.get? key).map Json.textOrNull)
        (((labels.get? key).map Json.str).map .of) := by
    rw [← Dict.lookup_entries, ← hold]
    exact Json.Raw.lastOf_mergeEntries hpatch
  rw [hmerged, get?_applyPatch]
  rcases patch.get? key with _ | _ | value
  · simp [Json.Raw.mergedField, Json.Raw.of, Function.comp_def]
  · simp [Json.Raw.mergedField, Json.textOrNull, Json.orNull]
  · simp [Json.Raw.mergedField, Json.textOrNull, Json.orNull, Json.Raw.merge, Json.Raw.of]

/-- To mark a pod is to take it from its controller.  The marked pod has the sentinel, and all its
other labels have the mark; each label without the mark is gone from its key and stands at the one
it moved to.  There is nothing to change on the marked pod, and a selector that names a key without
the mark, other than the sentinel's, does not match it, whatever else the selector asks for.  The
change is a merge patch: merged into the written labels it gives the written labels after. -/
theorem marking_orphans (labels : Labels) :
    (afterMarking labels).get? Convention.sentinelKey = some Convention.sentinelValue ∧
    (∀ key, (afterMarking labels).contains key = true →
      key = Convention.sentinelKey ∨ isOrphanKey key = true) ∧
    (∀ key value, labels.get? key = some value → key ≠ Convention.sentinelKey →
      isOrphanKey key = false → (afterMarking labels).get? key = none ∧
        (afterMarking labels).get? (orphanKey key) = some value) ∧
    markPatch (afterMarking labels) = none ∧
    (∀ selector : Labels, (∃ key, selector.contains key = true ∧ key ≠ Convention.sentinelKey ∧
      isOrphanKey key = false) → labelsMatch (afterMarking labels) selector = false) ∧
    ∀ patch, markPatch labels = some patch → ∀ key,
      (Json.Raw.merge (patchToJson patch) (.of labels.toJson)).field? key =
        ((afterMarking labels).get? key).map .str := by
  rw [afterMarking_eq]
  refine ⟨sentinel_markedLabels labels, fun key hkey => ?_, fun key value hget hkey horphan => ?_,
    markPatch_markedLabels labels, fun selector hselector => ?_, fun patch hpatch key => ?_⟩
  · obtain ⟨value, hvalue⟩ := Option.isSome_iff_exists.1 hkey
    exact key_of_mem_markedLabels (Dict.get?_eq_some_iff.1 hvalue)
  · exact get?_markedLabels_of_moves hget ⟨hkey, horphan⟩
  · obtain ⟨key, hmem, hmoves⟩ := hselector
    exact labelsMatch_eq_false hmem (get?_markedLabels_eq_none labels hmoves)
  · rw [← afterMarking_eq, afterMarking, hpatch, Option.elim_some]
    exact field?_merge_patchToJson labels patch key

namespace Sample

/-- Labels with a name behind a slash, one that had the mark before, and another sentinel. -/
def shop : Labels := .ofList [("app", "web"), ("app.kubernetes.io/name", "shop"),
  ("quarantine", "no"), ("quarantined-app", "old")]

def shopSelector : Labels := .ofList [("app", "web"), ("quarantined-app", "web")]

end Sample

open Sample in
theorem marking_orphans_sample :
    (shop.get? "app.kubernetes.io/name" = some "shop" ∧
      (afterMarking shop).get? "app.kubernetes.io/quarantined-name" = some "shop") ∧
    (shop.get? "app" = some "web" ∧ (afterMarking shop).get? "quarantined-app" = some "web") ∧
    (shopSelector.contains "app" = true ∧
      labelsMatch (afterMarking shop) shopSelector = false) := by
  obtain ⟨_, _, hmoved, _, hselector, _⟩ := marking_orphans shop
  exact ⟨⟨by decide +kernel, (hmoved "app.kubernetes.io/name" "shop" (by decide +kernel)
      (by decide +kernel) (by decide +kernel)).2⟩,
    ⟨by decide +kernel, (hmoved "app" "web" (by decide +kernel) (by decide +kernel)
      (by decide +kernel)).2⟩,
    by decide +kernel, hselector shopSelector ⟨"app", by decide +kernel, by decide +kernel,
      by decide +kernel⟩⟩

/-! ## What the labels were -/

/-- The labels that a marked pod had, as they can be read off the ones it has. -/
def recovered (marked : Labels) : List (String × String) :=
  (marked.erase Convention.sentinelKey).entries.map fun e => (recoverKey e.1, e.2)

/-- If no label had the mark, those of the marked pod are the moved ones and the sentinel. -/
theorem get?_markedLabels_iff
    (hnew : ∀ key, labels.contains key = true → isOrphanKey key = false)
    (hkey : key ≠ Convention.sentinelKey) :
    (markedLabels labels).get? key = some value ↔
      ∃ old, labels.get? old = some value ∧ old ≠ Convention.sentinelKey ∧
        orphanKey old = key := by
  have hunmarked : ∀ {k v}, labels.get? k = some v → isOrphanKey k = false := fun h =>
    hnew _ (Option.isSome_iff_exists.2 ⟨_, h⟩)
  constructor
  · intro h
    rcases get?_markedLabels h hkey with ⟨old, hold, hmoves, heq⟩ | ⟨hold, horphan⟩
    · exact ⟨old, hold, hmoves.1, heq⟩
    · rw [hunmarked hold] at horphan
      cases horphan
  · rintro ⟨old, hold, hne, rfl⟩
    exact (get?_markedLabels_of_moves hold ⟨hne, hunmarked hold⟩).2

theorem perm_markedLabels (hnew : ∀ key, labels.contains key = true → isOrphanKey key = false) :
    ((markedLabels labels).erase Convention.sentinelKey).entries.Perm
      ((labels.erase Convention.sentinelKey).entries.map fun e => (orphanKey e.1, e.2)) := by
  have hkeys := List.Nodup.map orphanKey_injective
    (labels.erase Convention.sentinelKey).nodup_keys
  rw [List.map_map] at hkeys
  refine (List.perm_ext_iff_of_nodup (Dict.nodup_keys _).of_map ?_).2 fun ⟨key, value⟩ => ?_
  · exact List.Nodup.of_map (·.1) (by simpa [List.map_map, Function.comp_def] using hkeys)
  · simp only [← Dict.get?_eq_some_iff, Dict.get?_erase, List.mem_map, Prod.exists, Prod.mk.injEq]
    by_cases hkey : key = Convention.sentinelKey
    · simp [hkey, orphanKey_ne_sentinelKey]
    · rw [if_neg (Ne.symm hkey), get?_markedLabels_iff hnew hkey]
      grind

/-- Nothing is lost by marking.  No two keys move to one, and of labels without the mark the marked
pod still shows which they were: with the sentinel left out and the mark taken off each key, its
labels are those that the pod had besides the sentinel, none of them twice. -/
theorem marking_recoverable :
    Function.Injective orphanKey ∧ ∀ labels : Labels,
      (∀ key, labels.contains key = true → isOrphanKey key = false) →
      ((recovered (afterMarking labels)).map (·.1)).Nodup ∧
      (recovered (afterMarking labels)).Perm (labels.erase Convention.sentinelKey).entries ∧
      Dict.ofList (recovered (afterMarking labels)) = labels.erase Convention.sentinelKey := by
  refine ⟨orphanKey_injective, fun labels hnew => ?_⟩
  have hperm : (recovered (afterMarking labels)).Perm
      (labels.erase Convention.sentinelKey).entries := by
    have hmap := (perm_markedLabels hnew).map fun e => (recoverKey e.1, e.2)
    rw [List.map_map] at hmap
    rw [recovered, afterMarking_eq]
    simpa [Function.comp_def, recoverKey_orphanKey] using hmap
  have hkeys : ((recovered (afterMarking labels)).map (·.1)).Nodup :=
    (hperm.map (·.1)).nodup_iff.2 (Dict.nodup_keys _)
  exact ⟨hkeys, hperm, Dict.ofList_eq hkeys fun e => hperm.mem_iff⟩

open Sample in
theorem marking_recoverable_sample :
    (∀ key, (shop.erase "quarantined-app").contains key = true → isOrphanKey key = false) ∧
      Dict.ofList (recovered (afterMarking (shop.erase "quarantined-app"))) =
        .ofList [("app", "web"), ("app.kubernetes.io/name", "shop")] := by
  have hentries : ∀ e ∈ (shop.erase "quarantined-app").entries, isOrphanKey e.1 = false := by
    decide +kernel
  have hnew : ∀ key, (shop.erase "quarantined-app").contains key = true →
      isOrphanKey key = false := by
    intro key hkey
    obtain ⟨value, hvalue⟩ := Option.isSome_iff_exists.1 hkey
    exact hentries (key, value) (Dict.get?_eq_some_iff.1 hvalue)
  exact ⟨hnew, (marking_recoverable.2 _ hnew).2.2.trans (by decide +kernel)⟩

end Marking

end Cordon
