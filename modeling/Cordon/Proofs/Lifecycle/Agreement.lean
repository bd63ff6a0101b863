import Cordon.Proofs.Lifecycle.Load
import Mathlib.Data.Finset.Dedup
import Mathlib.Data.List.Sort
import Mathlib.Data.Prod.Lex
import Mathlib.Data.String.Basic

/-! # A node and its record

The record of a node lists what the node tracks in one fixed order, which is a linear order of
mentions (`le_iff_rank_le`).  So a record depends on what is tracked and not on how the request
lists it, and a node that is rebuilt from its record has the same record again
(`observed_ofObserved`).

A node and a record are compared kind by kind.  Since every mention is of one of the two kinds, the
two comparisons together decide whether the node and the record track the same
(`differs_iff`), and a node is up to date exactly if its record says what it would be recorded as.
-/

namespace Cordon

/-! ## The order of mentions -/

namespace ResourceRef

variable {a b : ResourceRef} {l m : List ResourceRef}

/-- What decides the order of mentions, the more important before the less important. -/
def rank (r : ResourceRef) : Bool ×ₗ String ×ₗ String ×ₗ Bool :=
  toLex (r.kind = .deployment, toLex (r.name, toLex (r.namespaceName, r.keep)))

theorem rank_injective : Function.Injective rank := by
  rintro ⟨_ | _, _, _, _⟩ ⟨_ | _, _, _, _⟩ h <;> simp_all [rank]

theorem le_iff_rank_le : a.le b = true ↔ rank a ≤ rank b := by
  simp only [rank, Prod.Lex.toLex_le_toLex, le]
  by_cases hkind : a.kind = b.kind
  · by_cases hname : a.name = b.name
    · by_cases hnamespace : a.namespaceName = b.namespaceName
      · cases a.keep <;> cases b.keep <;> simp [hkind, hname, hnamespace]
      · simp [hkind, hname, hnamespace]
    · simp [hkind, hname]
  · cases ha : a.kind <;> cases hb : b.kind <;> simp_all

theorem le_of_kinds (ha : a.kind = .daemonset) (hb : b.kind ≠ .daemonset) : a.le b = true := by
  have hne : a.kind ≠ b.kind := fun h => hb (h.symm.trans ha)
  rw [le, if_pos hne, decide_eq_true ha]

theorem perm_orderedInsert : (orderedInsert a l).Perm (a :: l) := by
  induction l with
  | nil => exact .refl _
  | cons b rest ih =>
    unfold orderedInsert
    split
    · exact .refl _
    · exact (ih.cons b).trans (.swap a b rest)

theorem perm_sort : (sort l).Perm l := by
  induction l with
  | nil => exact .refl _
  | cons a rest ih => exact perm_orderedInsert.trans (ih.cons a)

/-- Mentions in order. -/
def Ordered (l : List ResourceRef) : Prop := l.Pairwise fun a b => a.le b = true

theorem ordered_orderedInsert (h : Ordered l) : Ordered (orderedInsert a l) := by
  induction l with
  | nil => exact List.pairwise_singleton _ a
  | cons b rest ih =>
    obtain ⟨hb, hrest⟩ := List.pairwise_cons.1 h
    unfold orderedInsert
    by_cases hab : a.le b = true
    · rw [if_pos hab]
      refine List.pairwise_cons.2 ⟨fun c hc => ?_, h⟩
      rcases List.mem_cons.1 hc with rfl | hc
      · exact hab
      · exact le_iff_rank_le.2 ((le_iff_rank_le.1 hab).trans (le_iff_rank_le.1 (hb c hc)))
    · rw [if_neg hab]
      refine List.pairwise_cons.2 ⟨fun c hc => ?_, ih hrest⟩
      rcases mem_orderedInsert.1 hc with rfl | hc
      · exact le_iff_rank_le.2 (le_of_not_ge fun h => hab (le_iff_rank_le.2 h))
      · exact hb c hc

theorem ordered_sort : Ordered (sort l) := by
  induction l with
  | nil => exact .nil
  | cons a rest ih => exact ordered_orderedInsert ih

/-- Mentions stand in order in one way only. -/
theorem eq_of_ordered (hl : Ordered l) (hm : Ordered m) (h : l.Perm m) : l = m :=
  h.eq_of_pairwise (fun _ _ _ _ hab hba =>
    rank_injective ((le_iff_rank_le.1 hab).antisymm (le_iff_rank_le.1 hba))) hl hm

end ResourceRef

/-! ## What a node tracks and what its record says -/

theorem ResourceKind.ne_daemonset {k : ResourceKind} : k ≠ .daemonset ↔ k = .deployment := by
  cases k <;> decide

namespace Target

open ResourceRef

variable {t : Target} {o : ObservedNode}

/-- The workloads of a node stand with their kinds. -/
structure Parted (t : Target) : Prop where
  daemonsets : ∀ r ∈ t.daemonsets, r.kind = .daemonset
  deployments : ∀ r ∈ t.deployments, r.kind = .deployment

theorem parted_ofResources (name : String) (isolate : Bool) (resources : List ResourceRef)
    (flags : ResolvedFlags) (debug : DebugSpec) :
    (ofResources name isolate resources flags debug).Parted where
  daemonsets r hr := by simpa using (List.mem_filter.1 hr).2
  deployments r hr := ResourceKind.ne_daemonset.1 (by simpa using (List.mem_filter.1 hr).2)

theorem Parted.filter_resources (h : t.Parted) :
    t.resources.filter (·.kind = .daemonset) = t.daemonsets ∧
      t.resources.filter (·.kind = .deployment) = t.deployments := by
  have hkept : t.daemonsets.filter (·.kind = .daemonset) = t.daemonsets ∧
      t.deployments.filter (·.kind = .deployment) = t.deployments := by
    simpa [List.filter_eq_self] using And.intro h.daemonsets h.deployments
  have hleft : t.daemonsets.filter (·.kind = .deployment) = [] ∧
      t.deployments.filter (·.kind = .daemonset) = [] := by
    constructor
    · exact List.filter_eq_nil_iff.2 fun r hr => by simp [h.daemonsets r hr]
    · exact List.filter_eq_nil_iff.2 fun r hr => by simp [h.deployments r hr]
  simp [resources, List.filter_append, hkept, hleft]

/-- A node differs from a record if and only if they do not track the same, in whatever order and
however often it is mentioned. -/
theorem Parted.differs_iff (h : t.Parted) :
    (t.daemonsetsDiffer o = true ∨ t.deploymentsDiffer o = true) ↔
      t.resources.toFinset ≠ o.resources.toFinset := by
  obtain ⟨hdaemonsets, hdeployments⟩ := h.filter_resources
  -- Neither comparison finds a difference just if all mentions agree, of either kind.
  have hboth : (t.daemonsetsDiffer o = false ∧ t.deploymentsDiffer o = false) ↔
      ∀ r, r ∈ t.resources ↔ r ∈ o.resources := by
    unfold daemonsetsDiffer deploymentsDiffer
    rw [← hdaemonsets, ← hdeployments, Bool.not_eq_false', Bool.not_eq_false', sameSet_iff,
      sameSet_iff, ← forall_and]
    refine forall_congr' fun r => ?_
    cases hkind : r.kind <;> simp [List.mem_filter, hkind]
  rw [ne_eq, Finset.ext_iff, ← not_iff_not, not_not, not_or, Bool.not_eq_true, Bool.not_eq_true,
    hboth]
  simp only [List.mem_toFinset]

/-- A node that is rebuilt from its record tracks the same workloads, kind by kind. -/
theorem Parted.ofObserved_perm (h : t.Parted) (spec : QuarantineSpec) :
    (ofObserved t.observed spec).daemonsets.Perm t.daemonsets ∧
      (ofObserved t.observed spec).deployments.Perm t.deployments := by
  obtain ⟨hdaemonsets, hdeployments⟩ := h.filter_resources
  have hsorted : (sort t.resources).Perm t.resources := perm_sort
  constructor
  · exact hdaemonsets ▸ hsorted.filter _
  · rw [← hdeployments]
    simp only [← ResourceKind.ne_daemonset]
    exact hsorted.filter _

/-- The workloads of a node that is rebuilt from its record stand in the order of the record. -/
theorem resources_ofObserved (t : Target) (spec : QuarantineSpec) :
    (ofObserved t.observed spec).resources = t.observed.resources := by
  have hordered : Ordered t.observed.resources := ordered_sort
  have hrest : t.observed.resources.filter (·.kind ≠ .daemonset) =
      t.observed.resources.filter fun r => !decide (r.kind = .daemonset) :=
    List.filter_congr fun r _ => decide_not
  refine eq_of_ordered (List.pairwise_append.2 ⟨hordered.filter _, hordered.filter _, ?_⟩)
    hordered ?_
  · intro a ha b hb
    obtain ⟨-, ha⟩ := List.mem_filter.1 ha
    obtain ⟨-, hb⟩ := List.mem_filter.1 hb
    exact le_of_kinds (by simpa using ha) (by simpa using hb)
  · show (t.observed.resources.filter _ ++ t.observed.resources.filter _).Perm _
    rw [hrest]
    exact List.filter_append_perm _ _

theorem observed_ofObserved (t : Target) (spec : QuarantineSpec) :
    (ofObserved t.observed spec).observed = t.observed := by
  have hsame : sort (ofObserved t.observed spec).resources = sort t.resources := by
    rw [resources_ofObserved]
    exact eq_of_ordered ordered_sort ordered_sort perm_sort
  exact congrArg (ObservedNode.mk t.name t.isolate) hsame

end Target

/-- A node is as its record says just if it is recorded as tracking what it tracks and as tainted
or not, as it is to be. -/
theorem Lifecycle.hasChanged_eq_false_iff {l : Lifecycle} {t : Target} (ht : t.Parted) :
    l.hasChanged t = false ↔ ∃ o, l.records.get? t.name = some o ∧ o.isolate = t.isolate ∧
      o.resources.toFinset = t.resources.toFinset := by
  unfold hasChanged
  cases hrecord : l.records.get? t.name with
  | none => simp
  | some o =>
    have hsame : (t.daemonsetsDiffer o = false ∧ t.deploymentsDiffer o = false) ↔
        o.resources.toFinset = t.resources.toFinset := by
      have hdiffers := not_congr (ht.differs_iff (o := o))
      rw [not_or, Bool.not_eq_true, Bool.not_eq_true, not_ne_iff] at hdiffers
      exact hdiffers.trans eq_comm
    simp only [Bool.or_eq_false_iff, bne_eq_false_iff_eq, and_assoc, hsame, Option.some.injEq,
      exists_eq_left']

/-- The record of a node of a request and the comparison with a record agree: a node does not
differ from its own record, is rebuilt from it whatever the request has become, and differs from a
record if and only if the two track different sets of mentions. -/
theorem Target.agrees_with_record (node : NodeSpec) (spec : QuarantineSpec) :
    let t := Target.resolve node spec
    (t.daemonsetsDiffer t.observed = false ∧ t.deploymentsDiffer t.observed = false) ∧
      (∀ later : QuarantineSpec,
        let u := Target.ofObserved t.observed later
        u.name = t.name ∧ u.isolate = t.isolate ∧ u.daemonsets.Perm t.daemonsets ∧
          u.deployments.Perm t.deployments ∧ u.observed = t.observed) ∧
      (∀ o : ObservedNode, (t.daemonsetsDiffer o = true ∨ t.deploymentsDiffer o = true) ↔
        t.resources.toFinset ≠ o.resources.toFinset) ∧
      (∀ l : Lifecycle, l.hasChanged t = false ↔
        ∃ o, l.records.get? t.name = some o ∧ o.isolate = t.isolate ∧
          o.resources.toFinset = t.resources.toFinset) := by
  intro t
  have hparted : t.Parted := parted_ofResources _ _ _ _ _
  refine ⟨matches_observed rfl, fun later => ?_, fun o => hparted.differs_iff,
    fun l => Lifecycle.hasChanged_eq_false_iff hparted⟩
  obtain ⟨hdaemonsets, hdeployments⟩ := hparted.ofObserved_perm later
  exact ⟨rfl, rfl, hdaemonsets, hdeployments, t.observed_ofObserved later⟩

end Cordon
