import Cordon.Proofs.Lifecycle.Coverage

/-! # From the stored quarantine to a pass and back

A pass starts from what is stored of a quarantine, and at its end its records are stored again.
`Quarantine.Recalls` says which marks can be found again from what is stored; they are those that
the lifecycle accounts for when the quarantine is loaded (`accounts_new`), and what a lifecycle
accounts for at the end of a pass is recalled from the records that it leaves
(`recalls_of_accounts`).

Records are kept by name.  This is sound because names are distinct: those of the request by its
validation, and those of the records since a pass writes one record for each node
(`nodup_observedNodes`).
-/

namespace Cordon

/-! ## A node and its record -/

namespace ResourceRef

theorem mem_orderedInsert {a r : ResourceRef} {l : List ResourceRef} :
    r ∈ orderedInsert a l ↔ r = a ∨ r ∈ l := by
  induction l with
  | nil => simp [orderedInsert]
  | cons b rest ih =>
    unfold orderedInsert
    split
    · exact List.mem_cons
    · rw [List.mem_cons, ih, List.mem_cons]
      exact or_left_comm

theorem mem_sort {r : ResourceRef} {l : List ResourceRef} : r ∈ sort l ↔ r ∈ l := by
  induction l with
  | nil => rfl
  | cons a rest ih =>
    show r ∈ orderedInsert a (sort rest) ↔ _
    rw [mem_orderedInsert, ih, List.mem_cons]

theorem sameSet_iff {a b : List ResourceRef} : sameSet a b = true ↔ ∀ r, r ∈ a ↔ r ∈ b := by
  simp only [sameSet, Bool.and_eq_true, List.all_eq_true, decide_eq_true_eq]
  exact ⟨fun h r => ⟨h.1 r, h.2 r⟩, fun h => ⟨fun r => (h r).1, fun r => (h r).2⟩⟩

end ResourceRef

/-- A node does not differ from its own record. -/
theorem Target.matches_observed {name : String} {isolate : Bool} {resources : List ResourceRef}
    {flags : ResolvedFlags} {debug : DebugSpec} {t : Target}
    (ht : t = ofResources name isolate resources flags debug) :
    t.daemonsetsDiffer t.observed = false ∧ t.deploymentsDiffer t.observed = false := by
  have hmem : ∀ r, r ∈ t.observed.resources ↔ r ∈ resources := by
    intro r
    show r ∈ ResourceRef.sort t.resources ↔ _
    rw [ResourceRef.mem_sort, ht, mem_resources_ofResources]
  constructor
  · rw [daemonsetsDiffer, Bool.not_eq_false', ResourceRef.sameSet_iff]
    intro r
    rw [List.mem_filter, hmem, ht]
    exact List.mem_filter
  · rw [deploymentsDiffer, Bool.not_eq_false', ResourceRef.sameSet_iff]
    intro r
    rw [List.mem_filter, hmem, ht]
    refine List.mem_filter.trans (and_congr_right fun _ => ?_)
    cases r.kind <;> decide

theorem Lifecycle.hasChanged_of_recorded {l : Lifecycle} {node : NodeSpec} {spec : QuarantineSpec}
    (h : l.records.get? (Target.resolve node spec).name =
      some (Target.resolve node spec).observed) :
    l.hasChanged (Target.resolve node spec) = false := by
  obtain ⟨hdaemonsets, hdeployments⟩ := Target.matches_observed (t := .resolve node spec) rfl
  simp only [hasChanged, h, hdaemonsets, hdeployments, Bool.or_false, bne_eq_false_iff_eq]
  rfl

/-! ## What is stored -/

namespace Quarantine

/-- Whether a mark can be found again: a node of the request reaches it, or a node on record does
that the request no longer names. -/
def Recalls (q : Quarantine) (m : Mark) : Prop :=
  (∃ n ∈ q.spec.nodes, (Target.resolve n q.spec).Reaches m) ∨
    ∃ o ∈ q.observedNodes, (∀ n ∈ q.spec.nodes, n.name ≠ o.name) ∧ o.Reaches m

/-- Names are distinct, and there is no record of a quarantine that has not been taken up. -/
structure Proper (q : Quarantine) : Prop where
  nodes : (q.spec.nodes.map (·.name)).Nodup
  records : (q.observedNodes.map (·.name)).Nodup
  fresh : q.hasFinalizer = true ∨ q.isDeleting = true ∨ q.observedNodes = []

end Quarantine

namespace Lifecycle

variable {q : Quarantine} {timeout : Nat} {m : Mark}

/-! ## Loading -/

theorem mem_nodes_new {t : Target} : t ∈ (new q timeout).nodes ↔
    ∃ n ∈ q.spec.nodes, Target.resolve n q.spec = t := List.mem_map

theorem mem_marked_new {u : Target} : u ∈ (new q timeout).marked ↔
    ∃ o ∈ q.observedNodes, (∀ n ∈ q.spec.nodes, n.name ≠ o.name) ∧
      Target.ofObserved o q.spec = u := by
  simp only [new, List.mem_map, List.mem_filter, Bool.not_eq_true', List.any_eq_false,
    beq_iff_eq, List.mem_map, forall_exists_index, and_imp, forall_apply_eq_imp_iff₂]
  constructor
  · rintro ⟨o, ⟨ho, hdropped⟩, rfl⟩
    exact ⟨o, ho, hdropped, rfl⟩
  · rintro ⟨o, ho, hdropped, rfl⟩
    exact ⟨o, ⟨ho, hdropped⟩, rfl⟩

/-- Records are loaded under their own names. -/
theorem mem_of_get?_records_new {name : String} {o : ObservedNode}
    (h : (new q timeout).records.get? name = some o) : o ∈ q.observedNodes ∧ o.name = name := by
  obtain ⟨o', ho', heq⟩ := List.mem_map.1 (Dict.mem_of_get?_ofList h)
  cases heq
  exact ⟨ho', rfl⟩

theorem get?_records_new (hq : q.Proper) {name : String} {o : ObservedNode} :
    (new q timeout).records.get? name = some o ↔ o ∈ q.observedNodes ∧ o.name = name := by
  constructor
  · exact mem_of_get?_records_new
  · rintro ⟨ho, rfl⟩
    refine Dict.get?_ofList_of_mem (e := (o.name, o)) ?_ (List.mem_map.2 ⟨o, ho, rfl⟩)
    rw [List.map_map]
    exact hq.records

theorem tidy_new (hq : q.Proper) : (new q timeout).Tidy where
  named name o ho := ((get?_records_new hq).1 ho).2
  same u hu o ho m := by
    obtain ⟨o', ho', -, rfl⟩ := mem_marked_new.1 hu
    obtain ⟨hmem, hname⟩ := (get?_records_new hq).1 ho
    have heq : o = o' := List.inj_on_of_nodup_map hq.records hmem ho' hname
    rw [heq]
    exact Target.reaches_ofObserved o' q.spec m

theorem ne_of_mem_marked_new {u n : Target} (hu : u ∈ (new q timeout).marked)
    (hn : n ∈ (new q timeout).nodes) : u.name ≠ n.name := by
  obtain ⟨o, -, hdropped, rfl⟩ := mem_marked_new.1 hu
  obtain ⟨n', hn', rfl⟩ := mem_nodes_new.1 hn
  exact (hdropped n' hn').symm

theorem apart_new (hq : q.Proper) : Apart (new q timeout).nodes (new q timeout).marked where
  apart _ hu _ hn := ne_of_mem_marked_new hu hn
  nodup := by
    show ((List.map _ _).map _).Nodup
    rw [List.map_map]
    exact hq.records.sublist (List.filter_sublist.map _)

theorem names_new : (new q timeout).nodes.map (·.name) = q.spec.nodes.map (·.name) :=
  List.map_map

theorem nodup_nodes_new (hq : q.Proper) : ((new q timeout).nodes.map (·.name)).Nodup := by
  rw [names_new]
  exact hq.nodes

/-- A loaded quarantine accounts for what it recalls. -/
theorem accounts_new (hq : q.Proper) : (new q timeout).Accounts m ↔ q.Recalls m := by
  constructor
  · rintro (⟨n, hn, hreach⟩ | ⟨u, hu, o, ho, hreach⟩)
    · obtain ⟨n', hn', rfl⟩ := mem_nodes_new.1 hn
      exact .inl ⟨n', hn', hreach⟩
    · obtain ⟨o', -, hdropped, rfl⟩ := mem_marked_new.1 hu
      obtain ⟨hmem, hname⟩ := (get?_records_new hq).1 ho
      exact .inr ⟨o, hmem, fun n hn => hname ▸ hdropped n hn, hreach⟩
  · rintro (⟨n, hn, hreach⟩ | ⟨o, ho, hdropped, hreach⟩)
    · exact .inl ⟨_, mem_nodes_new.2 ⟨n, hn, rfl⟩, hreach⟩
    · refine .inr ⟨.ofObserved o q.spec, mem_marked_new.2 ⟨o, ho, hdropped, rfl⟩, o, ?_, hreach⟩
      exact (get?_records_new hq).2 ⟨ho, rfl⟩

/-! ## Records in the order of their nodes -/

section Reloading

variable {ns : List Target} {f : String → Option ObservedNode}
  (hnamed : ∀ n ∈ ns, ∀ o, f n.name = some o → o.name = n.name)

include hnamed

/-- The names of the records are among the names of the nodes, in the same order. -/
theorem sublist_names :
    ((ns.filterMap fun n => f n.name).map (·.name)).Sublist (ns.map (·.name)) := by
  induction ns with
  | nil => exact .slnil
  | cons n rest ih =>
    have hrest := ih fun m hm => hnamed m (List.mem_cons_of_mem n hm)
    cases ho : f n.name with
    | none =>
      simp only [List.filterMap_cons, ho, List.map_cons]
      exact hrest.cons _
    | some o =>
      simp only [List.filterMap_cons, ho, List.map_cons, hnamed n (by simp) o ho]
      exact hrest.cons_cons _

/-- Records that are stored in the order of their nodes are all found when they are loaded. -/
theorem get?_ofList_filterMap (hns : (ns.map (·.name)).Nodup) {n : Target} (hn : n ∈ ns) :
    (Dict.ofList ((ns.filterMap fun n => f n.name).map fun o => (o.name, o))).get? n.name =
      f n.name := by
  refine Option.ext fun o => ⟨fun h => ?_, fun h => ?_⟩
  · obtain ⟨o', ho', heq⟩ := List.mem_map.1 (Dict.mem_of_get?_ofList h)
    obtain ⟨n', hn', hf⟩ := List.mem_filterMap.1 ho'
    rw [Prod.mk.injEq] at heq
    obtain ⟨hname, rfl⟩ := heq
    rw [← hname, hnamed n' hn' _ hf]
    exact hf
  · have hmem : o ∈ ns.filterMap fun n => f n.name := List.mem_filterMap.2 ⟨n, hn, h⟩
    rw [← hnamed n hn o h]
    refine Dict.get?_ofList_of_mem (e := (o.name, o)) ?_ (List.mem_map.2 ⟨o, hmem, rfl⟩)
    rw [List.map_map]
    exact hns.sublist (sublist_names hnamed)

end Reloading

/-! ## Keeping -/

section Keeping

variable {l : Lifecycle} {p : Quarantine}
  (hl : Concerns (new q timeout).nodes (new q timeout).marked l) (htidy : l.Tidy)
  (hrecords : p.observedNodes = l.observedNodes)

include hl htidy hrecords

/-- What a lifecycle accounts for is recalled from the records that it leaves. -/
theorem recalls_of_accounts (hspec : p.spec = q.spec) (h : l.Accounts m) : p.Recalls m := by
  rcases h with ⟨n, hn, hreach⟩ | ⟨u, hu, o, ho, hreach⟩
  · rw [hl.1] at hn
    obtain ⟨n', hn', rfl⟩ := mem_nodes_new.1 hn
    exact .inl ⟨n', hspec ▸ hn', by rw [hspec]; exact hreach⟩
  · have hu' := hu
    rw [hl.2] at hu'
    obtain ⟨o', -, hdropped, rfl⟩ := mem_marked_new.1 hu'
    refine .inr ⟨o, ?_, fun n hn => ?_, hreach⟩
    · rw [hrecords]
      exact List.mem_append_right _ (List.mem_filterMap.2 ⟨_, hu, ho⟩)
    · rw [hspec] at hn
      rw [htidy.named _ o ho]
      exact hdropped n hn

/-- One record for each node. -/
theorem nodup_observedNodes (hq : q.Proper) : (p.observedNodes.map (·.name)).Nodup := by
  have hsub : ∀ ts : List Target, ((ts.filterMap fun t => l.records.get? t.name).map
      (·.name)).Sublist (ts.map (·.name)) := fun ts =>
    sublist_names fun n _ o ho => htidy.named n.name o ho
  rw [hrecords, observedNodes, List.map_append]
  have hnames : (l.nodes.map (·.name) ++ l.marked.map (·.name)).Nodup := by
    rw [hl.1, hl.2, List.nodup_append]
    refine ⟨nodup_nodes_new hq, (apart_new hq).nodup, ?_⟩
    intro a ha b hb hab
    obtain ⟨n, hn, rfl⟩ := List.mem_map.1 ha
    obtain ⟨u, hu, rfl⟩ := List.mem_map.1 hb
    exact (apart_new hq).apart u hu n hn hab.symm
  exact hnames.sublist ((hsub l.nodes).append (hsub l.marked))

/-- The records that are kept are those that the lifecycle has of the nodes of the request. -/
theorem get?_records_kept {timeout' : Nat} (hq : q.Proper) (hp : p.Proper) {n : Target}
    (hn : n ∈ (new q timeout).nodes) :
    (new p timeout').records.get? n.name = l.records.get? n.name := by
  refine Option.ext fun o => ?_
  rw [get?_records_new hp, hrecords]
  constructor
  · rintro ⟨ho, hname⟩
    -- A record of a dropped node has another name than any node of the request.
    rcases List.mem_append.1 ho with ho | ho
    · obtain ⟨n', -, ho⟩ := List.mem_filterMap.1 ho
      rw [← hname, htidy.named _ o ho]
      exact ho
    · obtain ⟨u, hu, ho⟩ := List.mem_filterMap.1 ho
      have heq : u.name = n.name := (htidy.named _ o ho).symm.trans hname
      exact absurd heq ((apart_new hq).apart u (hl.2 ▸ hu) n hn)
  · intro ho
    refine ⟨List.mem_append_left _ (List.mem_filterMap.2 ⟨n, hl.1 ▸ hn, ho⟩), ?_⟩
    exact htidy.named _ o ho

end Keeping

end Lifecycle

end Cordon
