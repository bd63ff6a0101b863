import Cordon.Proofs.Json.Fields
import Cordon.Quarantine.Object
import Cordon.Remote.Cluster

/-! # What is read of a document

A node, a workload or a quarantine that is read of a document has the version, the name and the
lists that the document says: the taints of a node, the tolerations of a workload's pods and the
finalizers of a quarantine are the entries of the document's lists, one for one and in order
(`Node.of_decode`, `Workload.of_document`, `Quarantine.of_decode`).  What an entry says is stated of
the entry as it stands, so that fields in any order, null fields and times in any zone are covered.
-/

namespace Cordon

open Json (Raw Decoder Shape)

namespace Json.Raw

def textAt (key : String) (r : Raw) : Option String := (r.under key).text?

def intAt (key : String) (r : Raw) : Option Int :=
  match r.under key with
  | .num (.int n) => some n
  | _ => none

/-- The items of the list that the keys lead to; none where there is no list. -/
def listAt (path : List String) (r : Raw) : List Raw := (r.down path).list?.getD []

variable {key : String} {r : Raw}

/-! ## Written objects -/

section Written

variable {fields : List (String × Option Json)} (h : (fields.map (·.1)).Nodup)

include h

theorem textAt_of_objectOf {o : Option String} (ho : fields.lookup key = some (o.map .str)) :
    (of (objectOf fields)).textAt key = o := by
  rw [textAt, under, field?_of_objectOf h, ho]
  cases o <;> rfl

theorem intAt_of_objectOf {o : Option Int} (ho : fields.lookup key = some (o.map Json.int)) :
    (of (objectOf fields)).intAt key = o := by
  rw [intAt, under, field?_of_objectOf h, ho]
  cases o <;> rfl

end Written

end Json.Raw

/-! ## Fields -/

namespace Json.Shape

variable {whole inner item : Shape} {key : String} {r : Raw} {j : Json}

/-- The value of a field: null or missing with what is written in its stead, or in the form of the
field. -/
theorem get?_cases (hs : whole.fields.shapeOf key = some inner) (h : whole.normalise r = .ok j) :
    (r.under key = .null ∧ j.get? key = whole.fields.standIn key) ∨
      ∃ j', inner.normalise (r.under key) = .ok j' ∧ j.get? key = some j' := by
  obtain ⟨o, ho, hj⟩ := get?_normalise hs h
  rcases Decoder.optional_eq_ok ho with ⟨hnull, rfl⟩ | ⟨j', hj', rfl⟩
  · exact .inl ⟨hnull, by rw [hj, Option.none_or]⟩
  · exact .inr ⟨j', hj', by rw [hj, Option.some_or]⟩

theorem normalise_text (h : Shape.text.normalise r = .ok j) : ∃ s, r = .str s ∧ j = .str s := by
  rw [Shape.normalise] at h
  obtain ⟨s, hs, rfl⟩ := map_eq_ok.1 h
  cases r with
  | str s' =>
    obtain rfl : s' = s := Except.ok.inj hs
    exact ⟨s', rfl, rfl⟩
  | _ => cases hs

theorem textAt_normalise (hs : whole.fields.shapeOf key = some .text)
    (h : whole.normalise r = .ok j) :
    Kube.textAt key j = (r.textAt key).or ((whole.fields.standIn key).bind Json.asText?) := by
  rcases get?_cases hs h with ⟨hnull, hj⟩ | ⟨j', hj', hj⟩
  · rw [Kube.textAt, hj, Raw.textAt, hnull]
    rfl
  · obtain ⟨s, hr, rfl⟩ := normalise_text hj'
    rw [Kube.textAt, hj, Raw.textAt, hr]
    rfl

/-- A time is read in universal time and in whole seconds. -/
def SameTime (written read : Option String) : Prop :=
  read = written ∨
    ∃ s t, written = some s ∧ Time.parse s = .ok t ∧ read = some t.zuluText

theorem timeAt_normalise (hs : whole.fields.shapeOf key = some .time)
    (hnone : whole.fields.standIn key = none) (h : whole.normalise r = .ok j) :
    SameTime (r.textAt key) (Kube.textAt key j) := by
  rcases get?_cases hs h with ⟨hnull, hj⟩ | ⟨j', hj', hj⟩
  · left
    rw [Kube.textAt, hj, hnone, Raw.textAt, hnull]
    rfl
  · right
    rw [Shape.normalise] at hj'
    obtain ⟨t, ht, rfl⟩ := map_eq_ok.1 hj'
    rw [Kube.textAt, hj, Raw.textAt]
    cases hr : r.under key with
    | str s =>
      refine ⟨s, t, rfl, ?_, rfl⟩
      rw [hr, Decoder.time] at ht
      cases hp : Time.parse s with
      | ok t' =>
        rw [hp] at ht
        rw [Except.ok.inj ht]
      | error e =>
        rw [hp] at ht
        cases ht
    | _ =>
      rw [hr] at ht
      cases ht

theorem intAt_normalise (hs : whole.fields.shapeOf key = some .int64)
    (hnone : whole.fields.standIn key = none) (h : whole.normalise r = .ok j) :
    (j.get? key).bind Json.asInt? = r.intAt key := by
  rcases get?_cases hs h with ⟨hnull, hj⟩ | ⟨j', hj', hj⟩
  · rw [hj, hnone, Raw.intAt, hnull]
    rfl
  · rw [Shape.normalise] at hj'
    obtain ⟨n, hn, rfl⟩ := map_eq_ok.1 hj'
    rw [hj, Raw.intAt]
    rcases hr : r.under key with _ | b | (m | x) | s | l | es | f
    case num.int =>
      rw [hr, Decoder.int64, Decoder.integer] at hn
      split at hn
      · rw [Except.ok.inj hn]
        rfl
      · cases hn
    all_goals
      rw [hr] at hn
      cases hn

/-- The items of a list are read in order, one for one; null stands for none. -/
theorem listAt_normalise (hs : whole.fields.shapeOf key = some (.list item))
    (hnone : whole.fields.standIn key = none) (h : whole.normalise r = .ok j) :
    List.Forall₂ (fun x y => item.normalise x = .ok y) (r.listAt [key])
      ((Kube.listAt key j).getD []) := by
  rcases get?_cases hs h with ⟨hnull, hj⟩ | ⟨j', hj', hj⟩
  · rw [Kube.listAt, hj, hnone, Raw.listAt, Raw.down, Raw.down, hnull]
    exact List.Forall₂.nil
  · rw [Shape.normalise] at hj'
    obtain ⟨items, hitems, rfl⟩ := map_eq_ok.1 hj'
    rw [Kube.listAt, hj, Raw.listAt, Raw.down, Raw.down]
    cases hr : r.under key with
    | arr l =>
      rw [hr] at hitems
      exact Decoder.items_eq_ok.1 hitems
    | _ =>
      rw [hr] at hitems
      cases hitems

end Json.Shape

namespace Kube

open Json.Shape

/-! ## Metadata -/

/-- The metadata that is read of what stands in a text. -/
structure ObjectMeta.Of (m : ObjectMeta) (r : Raw) : Prop where
  name : m.name = r.textAt "name"
  namespaceName : m.namespaceName = r.textAt "namespace"
  resourceVersion : m.resourceVersion = r.textAt "resourceVersion"
  finalizers : r.listAt ["finalizers"] = (m.finalizers.getD []).map .str

theorem texts_of_normalise {items : List Raw} {values : List Json}
    (h : List.Forall₂ (fun x y => Shape.text.normalise x = .ok y) items values) :
    items = (values.filterMap Json.asText?).map .str := by
  induction h with
  | nil => rfl
  | cons hx _ ih =>
    obtain ⟨s, rfl, rfl⟩ := normalise_text hx
    exact congrArg (Raw.str s :: ·) ih

theorem metaShape_finalizers : metaShape.fields.shapeOf "finalizers" = some (.list .text) := rfl

theorem ObjectMeta.of_normalise {r : Raw} {j : Json} (h : metaShape.normalise r = .ok j) :
    (ObjectMeta.ofNormal j).Of r where
  name := (textAt_normalise rfl h).trans Option.or_none
  namespaceName := (textAt_normalise rfl h).trans Option.or_none
  resourceVersion := (textAt_normalise rfl h).trans Option.or_none
  finalizers := by
    have hitems := listAt_normalise metaShape_finalizers rfl h
    rw [texts_of_normalise hitems, ObjectMeta.ofNormal, textsAt]
    cases listAt "finalizers" j <;> rfl

theorem ObjectMeta.of_least : (ObjectMeta.ofNormal metaShape.least).Of .null :=
  ⟨rfl, rfl, rfl, rfl⟩

/-- The metadata of an object of the cluster is that of its document. -/
theorem ObjectMeta.of_object {whole : Shape} {r : Raw} {j : Json}
    (hs : whole.fields.shapeOf "metadata" = some metaShape)
    (hleast : whole.fields.standIn "metadata" = some metaShape.least)
    (h : whole.normalise r = .ok j) :
    (ObjectMeta.ofNormal ((j.get? "metadata").getD emptyObject)).Of (r.under "metadata") := by
  rcases get?_cases hs h with ⟨hnull, hj⟩ | ⟨j', hj', hj⟩
  · rw [hj, hleast, hnull]
    exact of_least
  · rw [hj]
    exact of_normalise hj'

/-! ## Taints and tolerations -/

/-- The taint that an entry of a document's list says. -/
structure Taint.Of (t : Taint) (r : Raw) : Prop where
  key : t.key = (r.textAt "key").getD ""
  value : t.value = r.textAt "value"
  effect : t.effect = (r.textAt "effect").getD ""
  timeAdded : SameTime (r.textAt "timeAdded") t.timeAdded

theorem taintShape_key : taintShape.fields.shapeOf "key" = some .text := rfl

theorem taintShape_effect : taintShape.fields.shapeOf "effect" = some .text := rfl

theorem Taint.of_normalise {r : Raw} {j : Json} (h : taintShape.normalise r = .ok j) :
    (Taint.ofNormal j).Of r where
  key := by
    rw [Taint.ofNormal, textAt_normalise taintShape_key h]
    cases r.textAt "key" <;> rfl
  value := (textAt_normalise rfl h).trans Option.or_none
  effect := by
    rw [Taint.ofNormal, textAt_normalise taintShape_effect h]
    cases r.textAt "effect" <;> rfl
  timeAdded := timeAt_normalise rfl rfl h

/-- The toleration that an entry of a document's list says. -/
structure Toleration.Of (t : Toleration) (r : Raw) : Prop where
  key : t.key = r.textAt "key"
  operator : t.operator = r.textAt "operator"
  value : t.value = r.textAt "value"
  effect : t.effect = r.textAt "effect"
  tolerationSeconds : t.tolerationSeconds = r.intAt "tolerationSeconds"

theorem Toleration.of_normalise {r : Raw} {j : Json} (h : tolerationShape.normalise r = .ok j) :
    (Toleration.ofNormal j).Of r where
  key := (textAt_normalise rfl h).trans Option.or_none
  operator := (textAt_normalise rfl h).trans Option.or_none
  value := (textAt_normalise rfl h).trans Option.or_none
  effect := (textAt_normalise rfl h).trans Option.or_none
  tolerationSeconds := intAt_normalise rfl rfl h

theorem Taint.of_toJson (t : Taint) : t.Of (.of t.toJson) where
  key := by rw [Taint.toJson, Raw.textAt_of_objectOf (o := some t.key) (by simp) rfl]; rfl
  value := (Raw.textAt_of_objectOf (by simp) rfl).symm
  effect := by rw [Taint.toJson, Raw.textAt_of_objectOf (o := some t.effect) (by simp) rfl]; rfl
  timeAdded := .inl (Raw.textAt_of_objectOf (by simp) rfl).symm

theorem Toleration.of_toJson (t : Toleration) : t.Of (.of t.toJson) where
  key := (Raw.textAt_of_objectOf (by simp) rfl).symm
  operator := (Raw.textAt_of_objectOf (by simp) rfl).symm
  value := (Raw.textAt_of_objectOf (by simp) rfl).symm
  effect := (Raw.textAt_of_objectOf (by simp) rfl).symm
  tolerationSeconds := (Raw.intAt_of_objectOf (by simp) rfl).symm

/-! ## Objects -/

/-- The items of a list of objects, read one for one. -/
theorem read_items {α : Type} {shape : Shape} {ofNormal : Json → α} {Of : α → Raw → Prop}
    (hof : ∀ r j, shape.normalise r = .ok j → Of (ofNormal j) r) {items : List Raw}
    {values : List Json}
    (h : List.Forall₂ (fun x y => shape.normalise x = .ok y) items values) :
    List.Forall₂ Of (values.map ofNormal) items := by
  rw [List.forall₂_map_left_iff]
  exact (h.imp fun x y hxy => hof x y hxy).flip

theorem nodeShape_spec : nodeShape.fields.shapeOf "spec" = some nodeSpecShape := rfl

theorem nodeSpecShape_taints : nodeSpecShape.fields.shapeOf "taints" = some (.list taintShape) :=
  rfl

theorem Node.of_decode {r : Raw} {n : Node} (h : Node.decode r = .ok n) :
    n.metadata.Of (r.under "metadata") ∧
      List.Forall₂ Taint.Of n.taints (r.listAt ["spec", "taints"]) := by
  obtain ⟨j, hj, rfl⟩ := map_eq_ok.1 h
  refine ⟨ObjectMeta.of_object rfl rfl hj, ?_⟩
  have hpath : r.listAt ["spec", "taints"] = (r.under "spec").listAt ["taints"] := rfl
  rw [hpath, Node.taints, Node.ofNormal]
  rcases get?_cases nodeShape_spec hj with ⟨hnull, hspec⟩ | ⟨spec, hspec, hget⟩
  · rw [hspec, hnull]
    exact List.Forall₂.nil
  · have htaints := read_items (fun _ _ => Taint.of_normalise)
      (listAt_normalise nodeSpecShape_taints rfl hspec)
    rw [hget]
    cases hl : listAt "taints" spec with
    | none =>
      rw [hl] at htaints
      simpa [hl] using htaints
    | some l =>
      rw [hl] at htaints
      simpa [hl] using htaints

theorem podSpecShape_tolerations :
    podSpecShape.fields.shapeOf "tolerations" = some (.list tolerationShape) := rfl

theorem templateShape_spec : templateShape.fields.shapeOf "spec" = some podSpecShape := rfl

/-- The tolerations of the pods that a workload's document describes. -/
theorem tolerations_of_podSpec {r : Raw} {j : Json} (h : podSpecShape.normalise r = .ok j) :
    List.Forall₂ Toleration.Of (((listAt "tolerations" j).getD []).map Toleration.ofNormal)
      (r.listAt ["tolerations"]) :=
  read_items (fun _ _ => Toleration.of_normalise)
    (listAt_normalise podSpecShape_tolerations rfl h)

end Kube

open Kube Json.Shape in
theorem Workload.of_shape (whole specShape : Shape) {k : ResourceKey} {r : Raw} {j : Json}
    {w : Workload} (hmeta : whole.fields.shapeOf "metadata" = some metaShape)
    (hleast : whole.fields.standIn "metadata" = some metaShape.least)
    (hspec : whole.fields.shapeOf "spec" = some specShape)
    (hnone : whole.fields.standIn "spec" = none)
    (htemplate : specShape.fields.shapeOf "template" = some templateShape)
    (hstand : specShape.fields.standIn "template" = some templateShape.least)
    (h : whole.normalise r = .ok j) (hw : Remote.workloadOf k j = some w) :
    w.resourceVersion = (r.under "metadata").textAt "resourceVersion" ∧
      List.Forall₂ Toleration.Of w.tolerations
        (r.listAt ["spec", "template", "spec", "tolerations"]) := by
  simp only [Remote.workloadOf, Option.bind_eq_bind, Option.bind_eq_some_iff] at hw
  obtain ⟨spec, hgetSpec, template, hgetTemplate, podSpec, hgetPodSpec, hw⟩ := hw
  obtain rfl := Option.some.inj hw
  refine ⟨?_, ?_⟩
  · have hversion := (ObjectMeta.of_object hmeta hleast h).resourceVersion
    rw [← hversion, ObjectMeta.ofNormal]
    cases j.get? "metadata" <;> rfl
  · -- Each part is there, for else nothing would be known of the workload.
    rcases get?_cases hspec h with ⟨-, hget⟩ | ⟨spec', hspec', hget⟩
    · rw [hgetSpec, hnone] at hget
      cases hget
    obtain rfl : spec = spec' := Option.some.inj (hgetSpec.symm.trans hget)
    rcases get?_cases htemplate hspec' with ⟨-, hget⟩ | ⟨template', htemplate', hget⟩
    · obtain rfl : template = templateShape.least :=
        Option.some.inj (hgetTemplate.symm.trans (hget.trans hstand))
      cases hgetPodSpec
    obtain rfl : template = template' := Option.some.inj (hgetTemplate.symm.trans hget)
    rcases get?_cases templateShape_spec htemplate' with ⟨-, hget⟩ | ⟨podSpec', hpodSpec', hget⟩
    · rw [hgetPodSpec] at hget
      cases hget
    obtain rfl : podSpec = podSpec' := Option.some.inj (hgetPodSpec.symm.trans hget)
    exact tolerations_of_podSpec hpodSpec'

theorem Workload.of_document {k : ResourceKey} {r : Raw} {j : Json} {w : Workload}
    (h : Remote.readWorkload k.kind r = .ok j) (hw : Remote.workloadOf k j = some w) :
    w.resourceVersion = (r.under "metadata").textAt "resourceVersion" ∧
      List.Forall₂ Kube.Toleration.Of w.tolerations
        (r.listAt ["spec", "template", "spec", "tolerations"]) := by
  cases hk : k.kind with
  | daemonset =>
    rw [hk] at h
    exact of_shape Kube.daemonsetShape Kube.daemonsetSpecShape rfl rfl rfl rfl rfl rfl h hw
  | deployment =>
    rw [hk] at h
    exact of_shape Kube.deploymentShape Kube.deploymentSpecShape rfl rfl rfl rfl rfl rfl h hw

theorem Workload.key_of_document {k : ResourceKey} {j : Json} {w : Workload}
    (hw : Remote.workloadOf k j = some w) : w.key = k := by
  simp only [Remote.workloadOf, Option.bind_eq_bind, Option.bind_eq_some_iff] at hw
  obtain ⟨spec, -, template, -, podSpec, -, hw⟩ := hw
  rw [← Option.some.inj hw]

/-- A quarantine is read of an object with its metadata as it stands there. -/
theorem Quarantine.of_decode {es : List (String × Raw)} {q : Quarantine}
    (h : Quarantine.decode (.obj es) = .ok q) :
    q.metadata.Of ((Raw.obj es).under "metadata") := by
  obtain ⟨hlookup, hq⟩ := Json.Record.lookup_of_ofObject (k := "metadata") (by decide) h
  obtain ⟨ofStatus, status, hstatus, rfl, -⟩ := Json.Record.ofEntries_field hq
  obtain ⟨ofSpec, spec, hspec, rfl, -⟩ := Json.Record.ofEntries_field hstatus
  obtain ⟨ofMeta, m, hmk, rfl, ⟨raw, hraw, hm⟩ | hm⟩ := Json.Record.ofEntries_field hspec
  · obtain rfl : Quarantine.mk = ofMeta := Except.ok.inj hmk
    obtain ⟨j, hj, rfl⟩ := map_eq_ok.1 hm
    have hunder : (Raw.obj es).under "metadata" = raw :=
      congrArg (·.getD .null) (hlookup.symm.trans hraw)
    rw [hunder]
    exact Kube.ObjectMeta.of_normalise hj
  · cases hm

end Cordon
