import Cordon.Isolation.Repelling
import Cordon.Proofs.Json.Merge
import Cordon.Proofs.Kube.Documents
import Cordon.Remote.Store

/-! # Lists that others write to as well

The taints of a node, the tolerations of a workload's pods and the finalizers of a quarantine are
lists in which one entry is the quarantine's and all others belong to somebody else.  A `Roster` is
such a list of a document, and `Roster.Edit` is what a change of the document may do to it: nothing,
or adding the one entry behind the others, or taking it away, where the others stay, each with what
it says and in order.

The patches that write a roster replace the whole list.  They leave everything else that counts
(`taintsPatch_spares` and the like), and the list that they write says the entries it was made from
(`taintsPatch_lists` and the like).
-/

namespace Cordon.Remote

open Json (Raw)
open Json.Raw (merge)

/-! ## Rosters -/

/-- A list of a document in which one entry is ours. -/
structure Roster where
  Item : Type
  /-- Where the list stands. -/
  path : List String
  /-- What an entry of the list says. -/
  Of : Item → Raw → Prop
  /-- Whether an entry is ours. -/
  isOurs : Item → Bool
  /-- The entry that is put there. -/
  mark : Item

namespace Roster

def taints : Roster where
  Item := Kube.Taint
  path := ["spec", "taints"]
  Of := Kube.Taint.Of
  isOurs t := t.key = Convention.taintKey && t.value = some Convention.taintValue
  mark := ⟨Convention.taintKey, some Convention.taintValue, Convention.taintEffect, none⟩

def tolerations : Roster where
  Item := Kube.Toleration
  path := ["spec", "template", "spec", "tolerations"]
  Of := Kube.Toleration.Of
  isOurs t := t.key = some Convention.taintKey && t.value = some Convention.taintValue
  mark := ⟨some Convention.taintKey, some "Equal", some Convention.taintValue,
    some Convention.taintEffect, none⟩

def finalizers : Roster where
  Item := String
  path := ["metadata", "finalizers"]
  Of s r := r = .str s
  isOurs s := s = Convention.finalizer
  mark := Convention.finalizer

/-- A document has this list, entry by entry. -/
def Lists (R : Roster) (d : Raw) (l : List R.Item) : Prop := List.Forall₂ R.Of l (d.listAt R.path)

/-- What may become of a list: it stays; or else our entry comes behind the others, if it is to be
added, or it goes, if not. -/
inductive Edit (R : Roster) (d d' : Raw) : (adds : Bool) → Prop
  | kept {adds : Bool} (h : d'.listAt R.path = d.listAt R.path) : Edit R d d' adds
  | added (l : List R.Item) (h : R.Lists d l) (hnew : ∀ a ∈ l, R.isOurs a = false)
      (h' : R.Lists d' (l ++ [R.mark])) : Edit R d d' true
  | removed (l : List R.Item) (h : R.Lists d l) (h' : R.Lists d' (l.filter (!R.isOurs ·))) :
      Edit R d d' false

end Roster

/-- What a writer is out for. -/
inductive Aim where
  | addTaint
  | removeTaint
  | addToleration
  | removeToleration
  | addFinalizer
  | removeFinalizer
deriving DecidableEq

def Aim.roster : Aim → Roster
  | addTaint | removeTaint => .taints
  | addToleration | removeToleration => .tolerations
  | addFinalizer | removeFinalizer => .finalizers

def Aim.adds : Aim → Bool
  | addTaint | addToleration | addFinalizer => true
  | removeTaint | removeToleration | removeFinalizer => false

/-! ## Patches -/

def namePath : List String := ["metadata", "name"]

def namespacePath : List String := ["metadata", "namespace"]

/-- What counts of a document: its lists, its name and its namespace. -/
def watched : List (List String) :=
  [Roster.taints.path, Roster.tolerations.path, Roster.finalizers.path, namePath, namespacePath]

/-- A patch leaves what counts of a document, but for what stands at one place. -/
def Spares (patch : Json) (own : List String) : Prop :=
  ∀ d : Raw, ∀ path ∈ watched, path ≠ own → (merge patch d).down path = d.down path

section Patches

variable {n : Kube.Node} {w : Workload} {q : Quarantine} {p : Kube.Pod} {d : Raw}

theorem nest_eq_object (key : String) (j : Json) : nest key j = Json.object [(key, j)] := rfl

theorem object_ne_null (es : List (String × Json)) : Json.object es ≠ .null := by
  simp [Json.object]

theorem taintsPatch_spares {l : List Kube.Taint} :
    Spares (taintsPatch n l) Roster.taints.path := by
  intro d
  simp [watched, Roster.taints, Roster.tolerations, Roster.finalizers, namePath, namespacePath,
    Raw.down, taintsPatch, nest_eq_object, object_ne_null, Raw.under_merge, Json.lookup, version]

theorem tolerationsPatch_spares {j : Json} :
    Spares (podTemplatePatch w "tolerations" j) Roster.tolerations.path := by
  intro d
  simp [watched, Roster.taints, Roster.tolerations, Roster.finalizers, namePath, namespacePath,
    Raw.down, podTemplatePatch, nest_eq_object, object_ne_null, Raw.under_merge, Json.lookup,
    version]

theorem finalizersPatch_spares {l : List String} :
    Spares (finalizersPatch q l) Roster.finalizers.path := by
  intro d
  simp [watched, Roster.taints, Roster.tolerations, Roster.finalizers, namePath, namespacePath,
    Raw.down, finalizersPatch, nest_eq_object, object_ne_null, Raw.under_merge, Json.lookup,
    version]

theorem podLabelsPatch_spares {patch : Marking.LabelPatch} :
    Spares (podLabelsPatch p patch) ["metadata", "labels"] := by
  intro d
  simp [watched, Roster.taints, Roster.tolerations, Roster.finalizers, namePath, namespacePath,
    Raw.down, podLabelsPatch, nest_eq_object, object_ne_null, Raw.under_merge, Json.lookup,
    version]

theorem ofItems_eq_map : (l : List Json) → Raw.ofItems l = l.map Raw.of
  | [] => rfl
  | j :: rest => by rw [Raw.ofItems, ofItems_eq_map rest, List.map_cons]

theorem merge_arr (l : List Json) (r : Raw) : merge (.arr l) r = .arr (l.map Raw.of) := by
  rw [Raw.merge_list, Raw.of, ofItems_eq_map]

theorem Roster.lists_of_map {R : Roster} {write : R.Item → Raw} {l : List R.Item}
    (h : d.listAt R.path = l.map write) (hwrite : ∀ a, R.Of a (write a)) : R.Lists d l := by
  unfold Roster.Lists
  rw [h, List.forall₂_map_right_iff]
  exact List.forall₂_same.2 fun a _ => hwrite a

theorem taintsPatch_lists {l : List Kube.Taint} :
    Roster.taints.Lists (merge (taintsPatch n l) d) l := by
  have hlist : (merge (taintsPatch n l) d).listAt Roster.taints.path =
      l.map fun t => Raw.of t.toJson := by
    simp [Raw.listAt, Raw.down, Roster.taints, taintsPatch, nest_eq_object, object_ne_null,
      Raw.under_merge, Json.lookup, Kube.taintsToJson, merge_arr, Raw.list?, Function.comp_def]
  exact Roster.lists_of_map hlist fun t => t.of_toJson

theorem tolerationsPatch_lists {l : List Kube.Toleration} :
    Roster.tolerations.Lists
      (merge (podTemplatePatch w "tolerations" (Kube.tolerationsToJson l)) d) l := by
  have hlist : (merge (podTemplatePatch w "tolerations" (Kube.tolerationsToJson l)) d).listAt
      Roster.tolerations.path = l.map fun t => Raw.of t.toJson := by
    simp [Raw.listAt, Raw.down, Roster.tolerations, podTemplatePatch, nest_eq_object,
      object_ne_null, Raw.under_merge, Json.lookup, Kube.tolerationsToJson, merge_arr, Raw.list?,
      Function.comp_def]
  exact Roster.lists_of_map hlist fun t => t.of_toJson

theorem finalizersPatch_lists {l : List String} :
    Roster.finalizers.Lists (merge (finalizersPatch q l) d) l := by
  have hlist : (merge (finalizersPatch q l) d).listAt Roster.finalizers.path =
      l.map fun s => Raw.str s := by
    simp [Raw.listAt, Raw.down, Roster.finalizers, finalizersPatch, nest_eq_object,
      object_ne_null, Raw.under_merge, Json.lookup, Json.texts, merge_arr, Raw.list?,
      Function.comp_def, Raw.of]
  exact Roster.lists_of_map hlist fun s => rfl

/-! ## What the patches do to the lists -/

theorem Roster.Edit.of_not_any {R : Roster} {d' : Raw} {l : List R.Item} (h : R.Lists d l)
    (hnone : ¬ l.any R.isOurs) (h' : R.Lists d' (l ++ [R.mark])) : R.Edit d d' true := by
  refine .added l h (fun a ha => ?_) h'
  exact Bool.eq_false_iff.2 fun hours => hnone (List.any_eq_true.2 ⟨a, ha, hours⟩)

theorem edit_withTaint {l l' : List Kube.Taint} (h : Roster.taints.Lists d l)
    (hl : Repelling.withTaint l = some l') :
    Roster.taints.Edit d (merge (taintsPatch n l') d) true := by
  rw [Repelling.withTaint] at hl
  split at hl
  · cases hl
  · next hnone =>
    obtain rfl := Option.some.inj hl
    exact .of_not_any h hnone taintsPatch_lists

theorem edit_withoutTaint {l l' : List Kube.Taint} (h : Roster.taints.Lists d l)
    (hl : Repelling.withoutTaint l = some l') :
    Roster.taints.Edit d (merge (taintsPatch n l') d) false := by
  rw [Repelling.withoutTaint] at hl
  split at hl
  · obtain rfl := Option.some.inj hl
    exact .removed l h taintsPatch_lists
  · cases hl

theorem edit_withToleration {l l' : List Kube.Toleration} (h : Roster.tolerations.Lists d l)
    (hl : Repelling.withToleration l = some l') :
    Roster.tolerations.Edit d
      (merge (podTemplatePatch w "tolerations" (Kube.tolerationsToJson l')) d) true := by
  rw [Repelling.withToleration] at hl
  split at hl
  · cases hl
  · next hnone =>
    obtain rfl := Option.some.inj hl
    exact .of_not_any h hnone tolerationsPatch_lists

theorem edit_withoutToleration {l l' : List Kube.Toleration} (h : Roster.tolerations.Lists d l)
    (hl : Repelling.withoutToleration l = some l') :
    Roster.tolerations.Edit d
      (merge (podTemplatePatch w "tolerations" (Kube.tolerationsToJson l')) d) false := by
  rw [Repelling.withoutToleration] at hl
  split at hl
  · obtain rfl := Option.some.inj hl
    exact .removed l h tolerationsPatch_lists
  · cases hl

theorem listAt_finalizers {l : List String} (h : Roster.finalizers.Lists d l) :
    d.listAt Roster.finalizers.path = l.map .str := by
  have hsame : List.Forall₂ (fun x (s : String) => x = Raw.str s)
    (d.listAt Roster.finalizers.path) l := h.flip
  rwa [← List.forall₂_map_right_iff (f := Raw.str), List.forall₂_eq_eq_eq] at hsame

theorem edit_withFinalizer {l : List String} (h : Roster.finalizers.Lists d l) :
    Roster.finalizers.Edit d (merge (finalizersPatch q (withFinalizer l)) d) true := by
  have hwritten := finalizersPatch_lists (q := q) (d := d) (l := withFinalizer l)
  rw [withFinalizer] at hwritten ⊢
  split at hwritten
  · next hmem =>
    -- The finalizer is there, and the list is written as it is.
    rw [if_pos hmem]
    exact .kept ((listAt_finalizers hwritten).trans (listAt_finalizers h).symm)
  · next hnew =>
    rw [if_neg hnew]
    refine .added l h (fun (s : String) hs => ?_) hwritten
    exact Bool.eq_false_iff.2 fun hours => hnew (of_decide_eq_true hours ▸ hs)

theorem edit_withoutFinalizer {l : List String} (h : Roster.finalizers.Lists d l) :
    Roster.finalizers.Edit d (merge (finalizersPatch q (withoutFinalizer l)) d) false := by
  have hfilter : withoutFinalizer l = l.filter (!Roster.finalizers.isOurs ·) :=
    List.filter_congr fun (s : String) _ => by simp [Roster.finalizers]
  refine .removed l h ?_
  rw [← hfilter]
  exact finalizersPatch_lists

end Patches

/-- A write with an aim does to the one list what it is out for, and leaves all else that counts.
-/
structure Change (aim : Aim) (d d' : Raw) : Prop where
  edit : aim.roster.Edit d d' aim.adds
  others : ∀ path ∈ watched, path ≠ aim.roster.path → d'.down path = d.down path

theorem Aim.path_mem_watched (aim : Aim) : aim.roster.path ∈ watched := by
  cases aim <;> simp [roster, watched]

theorem Change.of_spares {aim : Aim} {patch : Json} {own : List String} {d : Raw}
    (h : Spares patch own) (hown : own ∉ watched) : Change aim d (merge patch d) := by
  have hall : ∀ path ∈ watched, (merge patch d).down path = d.down path := fun path hpath =>
    h d path hpath fun heq => hown (heq ▸ hpath)
  refine ⟨.kept ?_, fun path hpath _ => hall path hpath⟩
  rw [Raw.listAt, hall _ aim.path_mem_watched, Raw.listAt]

theorem Change.name {aim : Aim} {d d' : Raw} (h : Change aim d d') :
    d'.down namePath = d.down namePath ∧ d'.down namespacePath = d.down namespacePath :=
  ⟨h.others _ (by simp [watched]) (by cases aim <;> decide),
    h.others _ (by simp [watched]) (by cases aim <;> decide)⟩

end Cordon.Remote
