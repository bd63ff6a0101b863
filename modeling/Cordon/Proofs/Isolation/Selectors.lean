import Cordon.Cluster.State
import Mathlib.Data.List.Basic

/-! # What selectors ask for

A query is sent to a cluster as two texts.  `readSelector` takes the one for labels apart again, at
its commas and equals signs, and `readField` the one for the node.

Of a query that has been put together of labels without such signs (`Composed`), the text gives back
its labels, one for one and in their order (`readSelector_labelSelector`).  So the texts ask for
what the query asks for (`selectors_agree`), and a cluster that reads them answers as one that
compares labels does (`selects_iff`).
-/

namespace Cordon

variable {labels selector : Labels}

theorem Dict.isEmpty_iff {α : Type} {d : Dict α} : d.isEmpty = true ↔ d = .empty := by
  constructor
  · intro h
    have hnil : d.entries = [] := List.isEmpty_iff.1 h
    refine Dict.ext_get? fun key => ?_
    rw [Dict.get?, hnil]
    rfl
  · rintro rfl
    rfl

/-- Labels match a selector that asks for something if they say all that it asks for. -/
theorem labelsMatch_iff : labelsMatch labels selector = true ↔
    selector ≠ .empty ∧ ∀ key value, selector.get? key = some value →
      labels.get? key = some value := by
  simp [labelsMatch, ← Bool.not_eq_true, Dict.isEmpty_iff, Dict.get?_eq_some_iff]

namespace PodFilter

variable {f : PodFilter} {key value text : String} {e : String × String}
  {entries : List (String × String)}

/-! ## Reading selectors -/

/-- A requirement: a key and a value with an equals sign in between. -/
def readRequirement (part : List Char) : Option (String × String) :=
  match part.splitOn '=' with
  | [key, value] => some (.ofList key, .ofList value)
  | _ => none

/-- The requirements of a selector, with commas in between. -/
def readSelector (text : String) : Option (List (String × String)) :=
  (text.toList.splitOn ',').mapM readRequirement

/-- Labels are selected if they meet every requirement of a selector. -/
def SelectedBy (text : String) (labels : Labels) : Prop :=
  ∃ requirements, readSelector text = some requirements ∧
    ∀ r ∈ requirements, labels.get? r.1 = some r.2

/-- The field that a requirement on a field names, and the value it asks for: what is before the
first equals sign, and what is behind. -/
def readField (text : String) : String × String :=
  (.ofList (text.toList.takeWhile (· ≠ '=')), .ofList ((text.toList.dropWhile (· ≠ '=')).drop 1))

/-! ## Queries that can be written -/

/-- A text without the signs that divide a selector. -/
def Undivided (s : String) : Prop := ',' ∉ s.toList ∧ '=' ∉ s.toList

instance (s : String) : Decidable (Undivided s) := inferInstanceAs (Decidable (_ ∧ _))

/-- No key and no value among these labels divides a selector. -/
def Writable (entries : List (String × String)) : Prop :=
  ∀ e ∈ entries, Undivided e.1 ∧ Undivided e.2

instance (entries : List (String × String)) : Decidable (Writable entries) :=
  inferInstanceAs (Decidable (∀ e ∈ entries, _))

/-- A query that has been put together step by step, of labels that do not divide a selector. -/
inductive Composed : PodFilter → Prop
  | everything : Composed .everything
  | onNode (name : String) : Composed (.onNode name)
  | inNamespace (name : String) : Composed (.inNamespace name)
  | withNamespace {f : PodFilter} (h : Composed f) (name : String) : Composed (f.withNamespace name)
  | withLabel {f : PodFilter} (h : Composed f) {key value : String} (hkey : Undivided key)
      (hvalue : Undivided value) : Composed (f.withLabel key value)
  | withLabels {f : PodFilter} (h : Composed f) {labels : Labels}
      (hlabels : Writable labels.entries) : Composed (f.withLabels labels)

theorem Writable.insert (h : Writable labels.entries) (hkey : Undivided key)
    (hvalue : Undivided value) : Writable (labels.insert key value).entries := by
  intro e he
  rcases Dict.key_of_mem_insertEntry he with rfl | he
  · exact ⟨hkey, hvalue⟩
  · exact h e he

theorem Writable.foldl_insert (h : Writable labels.entries) (hentries : Writable entries) :
    Writable (entries.foldl (fun d e => d.insert e.1 e.2) labels).entries := by
  induction entries generalizing labels with
  | nil => exact h
  | cons e rest ih =>
    obtain ⟨hkey, hvalue⟩ := hentries e List.mem_cons_self
    exact ih (h.insert hkey hvalue) fun e he => hentries e (List.mem_cons_of_mem _ he)

theorem Composed.writable (h : Composed f) : Writable f.labels.entries := by
  induction h with
  | everything | onNode | inNamespace =>
    intro e he
    cases he
  | withNamespace _ _ ih => exact ih
  | withLabel _ hkey hvalue ih => exact ih.insert hkey hvalue
  | withLabels _ hlabels ih => exact ih.foldl_insert hlabels

/-! ## Reading what has been written -/

/-- The written form of a requirement. -/
def requirement (e : String × String) : List Char := e.1.toList ++ '=' :: e.2.toList

theorem readRequirement_requirement (h : Undivided e.1 ∧ Undivided e.2) :
    readRequirement (requirement e) = some e := by
  have hparts : requirement e = ['='].intercalate [e.1.toList, e.2.toList] := by
    simp [requirement, List.intercalate]
  have hsplit : (requirement e).splitOn '=' = [e.1.toList, e.2.toList] := by
    rw [hparts]
    exact List.splitOn_intercalate '=' (by simp [h.1.2, h.2.2]) (by simp)
  simp [readRequirement, hsplit]

theorem mapM_readRequirement (h : Writable entries) :
    (entries.map requirement).mapM readRequirement = some entries := by
  induction entries with
  | nil => rfl
  | cons e rest ih =>
    have hhead := readRequirement_requirement (h e List.mem_cons_self)
    have hrest := ih fun e he => h e (List.mem_cons_of_mem _ he)
    rw [List.map_cons, List.mapM_cons, hhead, hrest]
    rfl

theorem comma_not_mem_requirement (h : Undivided e.1 ∧ Undivided e.2) : ',' ∉ requirement e := by
  simp [requirement, h.1.1, h.2.1]

theorem labelSelector_eq_none : f.labelSelector = none ↔ f.labels = .empty := by
  simp [labelSelector, Dict.isEmpty_iff]

theorem toList_labelSelector (htext : f.labelSelector = some text) :
    text.toList = [','].intercalate (f.labels.entries.map requirement) := by
  unfold labelSelector at htext
  split at htext
  · cases htext
  · cases htext
    have hparts : (String.toList ∘ fun e : String × String => e.1 ++ "=" ++ e.2) = requirement :=
      funext fun e => by simp [requirement]
    rw [String.toList_intercalate, List.map_map, hparts]
    rfl

/-- A selector gives back the labels that it has been written from, in their order. -/
theorem readSelector_labelSelector (h : Writable f.labels.entries)
    (htext : f.labelSelector = some text) : readSelector text = some f.labels.entries := by
  have hnonempty : f.labels.entries.map requirement ≠ [] := by
    intro hnil
    have hempty : f.labels = .empty :=
      Dict.isEmpty_iff.1 (List.isEmpty_iff.2 (List.map_eq_nil_iff.1 hnil))
    rw [labelSelector_eq_none.2 hempty] at htext
    cases htext
  have hcommas : ∀ part ∈ f.labels.entries.map requirement, ',' ∉ part := by
    intro part hpart
    obtain ⟨e, he, rfl⟩ := List.mem_map.1 hpart
    exact comma_not_mem_requirement (h e he)
  rw [readSelector, toList_labelSelector htext, List.splitOn_intercalate ',' hcommas hnonempty,
    mapM_readRequirement h]

theorem selectedBy_iff (h : Writable f.labels.entries) (htext : f.labelSelector = some text) :
    SelectedBy text labels ↔ ∀ e ∈ f.labels.entries, labels.get? e.1 = some e.2 := by
  simp [SelectedBy, readSelector_labelSelector h htext]

theorem readField_fieldSelector :
    f.fieldSelector.map readField = f.nodeName.map fun node => ("spec.nodeName", node) := by
  unfold fieldSelector
  cases f.nodeName with
  | none => rfl
  | some node => simp [readField]

/-- The texts of a query say what it asks for.  Reading the one for labels gives back its labels,
and there is none if it asks for no label; it selects exactly the labels that match those of the
query.  The one for the node names the node of the query. -/
theorem selectors_agree (h : Composed f) :
    (f.labelSelector = none ↔ f.labels = .empty) ∧
    (∀ text, f.labelSelector = some text →
      readSelector text = some f.labels.entries ∧
      ∀ labels, SelectedBy text labels ↔ labelsMatch labels f.labels = true) ∧
    f.fieldSelector.map readField = f.nodeName.map fun node => ("spec.nodeName", node) := by
  refine ⟨labelSelector_eq_none, fun text htext => ?_, readField_fieldSelector⟩
  refine ⟨readSelector_labelSelector h.writable htext, fun labels => ?_⟩
  have hnonempty : f.labels ≠ .empty := by
    rw [Ne, ← labelSelector_eq_none, htext]
    simp
  rw [selectedBy_iff h.writable htext, labelsMatch_iff, and_iff_right hnonempty]
  simp [Dict.get?_eq_some_iff]

/-- The query for the pods of `web` on a node, whose labels come from two steps. -/
theorem selectors_agree_of_web :
    let shop : Labels := .ofList [("tier", "front"), ("app", "web")]
    let f := ((PodFilter.onNode "w=1").withLabel "app" "api").withLabels shop
    Composed f ∧ f.labelSelector = some "app=web,tier=front" ∧
      readSelector "app=web,tier=front" = some [("app", "web"), ("tier", "front")] ∧
      SelectedBy "app=web,tier=front" shop ∧
      ¬ SelectedBy "app=web,tier=front" (.ofList [("app", "web")]) ∧
      f.fieldSelector.map readField = some ("spec.nodeName", "w=1") := by
  intro shop f
  have hcomposed : Composed f :=
    ((Composed.onNode "w=1").withLabel (by decide +kernel) (by decide +kernel)).withLabels
      (by decide +kernel)
  have htext : f.labelSelector = some "app=web,tier=front" := by decide +kernel
  obtain ⟨-, hlabels, hfield⟩ := selectors_agree hcomposed
  obtain ⟨hread, hselected⟩ := hlabels _ htext
  refine ⟨hcomposed, htext, hread, (hselected _).2 (by decide +kernel), fun h => ?_, hfield⟩
  have hmatch := (hselected _).1 h
  revert hmatch
  decide +kernel

/-- A cluster that reads the texts of a query, and looks into the namespace that it names, answers
as one that compares the labels of its pods. -/
theorem selects_iff {s : ClusterState} (hs : s.ignoresLabels = false)
    (h : Writable f.labels.entries) (p : Kube.Pod) :
    s.selects f p = true ↔
      (∀ ns, f.namespaceName = some ns → p.metadata.namespaceName = some ns) ∧
      (∀ text, f.fieldSelector = some text →
        ∃ node, readField text = ("spec.nodeName", node) ∧ p.nodeName = some node) ∧
      ∀ text, f.labelSelector = some text → SelectedBy text p.labels := by
  have hplace : (f.namespaceName.isNone || p.metadata.namespaceName == f.namespaceName) = true ↔
      ∀ ns, f.namespaceName = some ns → p.metadata.namespaceName = some ns := by
    cases f.namespaceName <;> simp
  have hnode : (f.nodeName.isNone || p.nodeName == f.nodeName) = true ↔
      ∀ text, f.fieldSelector = some text →
        ∃ node, readField text = ("spec.nodeName", node) ∧ p.nodeName = some node := by
    cases hname : f.nodeName <;> simp [fieldSelector, readField, hname]
  have hlabels : (f.labels.entries.all fun e => p.labels.get? e.1 == some e.2) = true ↔
      ∀ text, f.labelSelector = some text → SelectedBy text p.labels := by
    cases htext : f.labelSelector with
    | none => simp [labelSelector_eq_none.1 htext, Dict.empty]
    | some text => simp [selectedBy_iff h htext]
  rw [ClusterState.selects, hs, Bool.false_or, Bool.and_eq_true, Bool.and_eq_true, hplace, hnode,
    hlabels, and_assoc]

end PodFilter

end Cordon
