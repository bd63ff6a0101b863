import Cordon.Proofs.Isolation.Series

/-! # Whether taints and tolerations take effect

Entries of ours are told by key and value alone, but what an entry does hangs on its effect as well:
only a taint with the effect `NoSchedule` keeps pods off, and only a toleration for that effect or
for every effect lets them on.  Where an entry of ours with another effect is there already, nothing
is put on, and the edit succeeds without effect (`effective_iff`).

Edits themselves put on effective entries only (`Genuine.of_edited`).  So where nobody else uses our
key and value every edit that succeeds is effective (`effective_of_genuine`).
-/

namespace Cordon

open Kube (Node Taint Toleration)

/-- Whether a toleration matches a taint.  An empty effect or key matches all, and the values have
to be equal unless the operator is `Exists`. -/
def Kube.Toleration.tolerates (t : Toleration) (taint : Taint) : Bool :=
  (t.effect.getD "" = "" || t.effect = some taint.effect) &&
    (t.key.getD "" = "" || t.key = some taint.key) &&
    match t.operator.getD "" with
    | "" | "Equal" => t.value.getD "" = taint.value.getD ""
    | "Exists" => true
    | _ => false

namespace Repelling

/-- Some taint has the key, the value and the effect of ours. -/
def Repels (l : List Taint) : Prop := ∃ t ∈ l, OurTaint t ∧ t.effect = quarantineTaint.effect

/-- Some toleration has the key and the value of ours and is for the effect of ours, or for all. -/
def Admits (l : List Toleration) : Prop :=
  ∃ t ∈ l, OurToleration t ∧ (t.effect.getD "" = "" ∨ t.effect = some quarantineTaint.effect)

/-- Pods with these tolerations tolerate our taint. -/
def Tolerates (l : List Toleration) : Prop := ∃ t ∈ l, t.tolerates quarantineTaint = true

/-- An entry of some kind is there after an edit if it is put in or was there before. -/
theorem exists_mem_put {α : Type} {p : α → Prop} {l : List α} {mark : α} {has : Bool}
    (hmark : p mark) :
    (∃ a ∈ if has then l else l ++ [mark], p a) ↔ has = false ∨ ∃ a ∈ l, p a := by
  cases has with
  | true => simp
  | false =>
    simp only [Bool.false_eq_true, if_false, true_or, iff_true]
    exact ⟨mark, by simp, hmark⟩

theorem taints_tainted (n : Node) : n.tainted.taints =
    if hasTaint n.taints then n.taints else n.taints ++ [quarantineTaint] := by
  unfold Node.tainted
  split <;> rfl

theorem tolerations_tolerant (w : Workload) : w.tolerant.tolerations =
    if hasToleration w.tolerations then w.tolerations
    else w.tolerations ++ [quarantineToleration] := by
  unfold Workload.tolerant
  split <;> rfl

theorem repels_tainted (n : Node) :
    Repels n.tainted.taints ↔ hasTaint n.taints = false ∨ Repels n.taints := by
  rw [taints_tainted]
  exact exists_mem_put (by decide)

theorem admits_tolerant (w : Workload) : Admits w.tolerant.tolerations ↔
    hasToleration w.tolerations = false ∨ Admits w.tolerations := by
  rw [tolerations_tolerant]
  exact exists_mem_put (by decide)

theorem tolerates_tolerant (w : Workload) : Tolerates w.tolerant.tolerations ↔
    hasToleration w.tolerations = false ∨ Tolerates w.tolerations := by
  rw [tolerations_tolerant]
  exact exists_mem_put (by decide)

end Repelling

namespace Isolation

open Clustered ClusterState Repelling

variable {s t : ClusterState} {name : String}

theorem findNode_of_taintNode (h : (taintNode name).Yields s () t) :
    ∃ n, s.findNode name = some n ∧ t.findNode name = some n.tainted := by
  obtain ⟨n, m, hget, -⟩ := yields_bind h
  obtain ⟨hn, -⟩ := findNode_of_perform (yields_call (by simp) hget)
  refine ⟨n, hn, ?_⟩
  rw [yields_taintNode h, findNode_changeNode s Node.name_tainted, if_pos rfl, hn]
  rfl

theorem findWorkload_of_isolate {u : Target} (h : (isolate u true).Yields s () t) :
    ∀ r ∈ u.resources, ∃ w, s.findWorkload r.key = some w ∧
      t.findWorkload r.key = some w.tolerant := by
  obtain ⟨lent, hlent, -, hall⟩ := (meets_isolate u true s).of_attains h
  obtain ⟨rfl, hthere⟩ := hall rfl
  intro r hr
  have hkey : r.key ∈ lends true u.resources := List.mem_map_of_mem (f := (·.key)) hr
  obtain ⟨w, hw⟩ := Option.isSome_iff_exists.1 (hthere r.key hkey)
  refine ⟨w, hw, ?_⟩
  rw [hlent.workloads, hw, Option.map_some, if_pos hkey]

/-- Once a node has been tainted it repels pods if and only if it did so before or had no taint with
our key and value, whatever its effect; and once a node to be isolated has been brought into shape,
pods of its workloads tolerate our taint if and only if they did so before or had no toleration with
our key and value. -/
theorem effective_iff (s t : ClusterState) :
    (∀ name, (taintNode name).Yields s () t → ∃ n n', s.findNode name = some n ∧
      t.findNode name = some n' ∧
      (Repels n'.taints ↔ hasTaint n.taints = false ∨ Repels n.taints)) ∧
    ∀ u, (isolate u true).Yields s () t → ∀ r ∈ u.resources, ∃ w w',
      s.findWorkload r.key = some w ∧ t.findWorkload r.key = some w' ∧
      (Admits w'.tolerations ↔ hasToleration w.tolerations = false ∨ Admits w.tolerations) ∧
      (Tolerates w'.tolerations ↔
        hasToleration w.tolerations = false ∨ Tolerates w.tolerations) := by
  refine ⟨fun name h => ?_, fun u h r hr => ?_⟩
  · obtain ⟨n, hn, hn'⟩ := findNode_of_taintNode h
    exact ⟨n, n.tainted, hn, hn', repels_tainted n⟩
  · obtain ⟨w, hw, hw'⟩ := findWorkload_of_isolate h r hr
    exact ⟨w, w.tolerant, hw, hw', admits_tolerant w, tolerates_tolerant w⟩

namespace Sample

/-- The node and the workload without entries of ours. -/
def plain : ClusterState :=
  ⟨[worker.withTaints [foreignTaint]], [], [{ workload with tolerations := [] }], false⟩

end Sample

open Sample in
/-- Where there are no entries of ours, ours are put on and take effect. -/
theorem effective_of_plain :
    (∃ n, (after (.taint "w1") plain).findNode "w1" = some n ∧ Repels n.taints) ∧
    ∃ w, (after (.isolate target true) plain).findWorkload workload.key = some w ∧
      Admits w.tolerations ∧ Tolerates w.tolerations := by
  have htaint : (taintNode "w1").Yields plain () (after (.taint "w1") plain) :=
    yields_eval (by decide +kernel)
  have hisolate : (isolate target true).Yields plain () (after (.isolate target true) plain) :=
    yields_eval (by decide +kernel)
  obtain ⟨n, n', hn, hn', hrepels⟩ := (effective_iff _ _).1 _ htaint
  obtain ⟨w, w', hw, hw', hadmits, htolerates⟩ :=
    (effective_iff _ _).2 _ hisolate ⟨.deployment, "a", "prod", false⟩ (by decide)
  have hfree : hasTaint n.taints = false := by
    cases hn
    decide
  have hintolerant : hasToleration w.tolerations = false := by
    cases hw
    decide
  exact ⟨⟨n', hn', hrepels.2 (.inl hfree)⟩, w', hw', hadmits.2 (.inl hintolerant),
    htolerates.2 (.inl hintolerant)⟩

open Sample in
/-- A weak taint and a toleration for another effect pass for ours, so that nothing is put on. -/
theorem not_always_effective :
    (¬ ∀ s t name, (taintNode name).Yields s () t →
      ∃ n, t.findNode name = some n ∧ Repels n.taints) ∧
    ¬ ∀ s t u, (isolate u true).Yields s () t → ∀ r ∈ u.resources, ∃ w,
      t.findWorkload r.key = some w ∧ Admits w.tolerations := by
  constructor
  · intro h
    have htaint : (taintNode "w1").Yields cluster () (after (.taint "w1") cluster) :=
      yields_eval (by decide +kernel)
    obtain ⟨n, hn, hrepels⟩ := h _ _ _ htaint
    have hweak : (after (.taint "w1") cluster).findNode "w1" = some worker := by decide +kernel
    cases hweak.symm.trans hn
    revert hrepels
    unfold Repels
    decide
  · intro h
    have hisolate : (isolate target true).Yields cluster ()
        (after (.isolate target true) cluster) := yields_eval (by decide +kernel)
    obtain ⟨w, hw, hadmits⟩ := h _ _ _ hisolate ⟨.deployment, "a", "prod", false⟩ (by decide)
    have hstray : (after (.isolate target true) cluster).findWorkload workload.key =
        some workload := by decide +kernel
    cases hstray.symm.trans hw
    revert hadmits
    unfold Admits
    decide

/-! ## Entries that edits have put on -/

/-- No taint or toleration passes for ours but those that edits put on. -/
structure Genuine (s : ClusterState) : Prop where
  taints : ∀ name n, s.findNode name = some n → ∀ a ∈ n.taints, OurTaint a → a = quarantineTaint
  tolerations : ∀ key w, s.findWorkload key = some w → ∀ a ∈ w.tolerations, OurToleration a →
    a = quarantineToleration

namespace Genuine

theorem changeNode (h : Genuine s) {f : Node → Node} (hname : ∀ n, (f n).name = n.name)
    (hf : ∀ n, ∀ a ∈ (f n).taints, a ∈ n.taints ∨ a = quarantineTaint) (name : String) :
    Genuine (s.changeNode name f) where
  taints other n hn a ha hours := by
    rw [findNode_changeNode s hname] at hn
    split at hn
    · obtain ⟨n', hn', rfl⟩ := Option.map_eq_some_iff.1 hn
      exact (hf n' a ha).elim (fun hmem => h.taints other n' hn' a hmem hours) id
    · exact h.taints other n hn a ha hours
  tolerations := h.tolerations

theorem lookUps (h : Genuine s) (hnodes : ∀ name, t.findNode name = s.findNode name)
    (hworkloads : ∀ key w, t.findWorkload key = some w → ∃ w', s.findWorkload key = some w' ∧
      ∀ a ∈ w.tolerations, a ∈ w'.tolerations ∨ a = quarantineToleration) : Genuine t where
  taints name n hn := h.taints name n ((hnodes name).symm.trans hn)
  tolerations key w hw a ha hours := by
    obtain ⟨w', hw', hmem⟩ := hworkloads key w hw
    exact (hmem a ha).elim (fun hmem => h.tolerations key w' hw' a hmem hours) id

theorem of_edit {e : Edit} {r : Except IsolationError Unit} (hs : Genuine s)
    (h : e.run.run.Attains Documented s r t) : Genuine t := by
  have htolerant : ∀ w : Workload, ∀ a ∈ w.tolerant.tolerations,
      a ∈ w.tolerations ∨ a = quarantineToleration := by
    intro w a ha
    rw [tolerations_tolerant] at ha
    split at ha
    · exact .inl ha
    · simpa using ha
  cases e with
  | taint name =>
    obtain ⟨-, rfl⟩ | ⟨rfl, -⟩ := (mends_taintNode s name).of_attains h
    · refine hs.changeNode Node.name_tainted (fun n a ha => ?_) name
      rw [taints_tainted] at ha
      split at ha
      · exact .inl ha
      · simpa using ha
    · exact hs
  | untaint name =>
    obtain ⟨-, rfl⟩ | ⟨rfl, -⟩ := (mends_untaintNode s name).of_attains h
    · refine hs.changeNode Node.name_untainted (fun n a ha => .inl ?_) name
      rw [n.taints_untainted] at ha
      exact (List.mem_filter.1 ha).1
    · exact hs
  | isolate u isolated =>
    obtain ⟨lent, hlent, -⟩ := (meets_isolate u isolated s).of_attains h
    refine hs.lookUps (fun name => congrArg (List.find? _) hlent.nodes) fun key w hw => ?_
    rw [hlent.workloads] at hw
    obtain ⟨w', hw', rfl⟩ := Option.map_eq_some_iff.1 hw
    refine ⟨w', hw', fun a ha => ?_⟩
    split at ha
    · exact htolerant w' a ha
    · exact .inl ha
  | removeToleration r =>
    obtain ⟨-, rfl⟩ | ⟨rfl, -⟩ := (mends_removeToleration s r).of_attains h
    · refine hs.lookUps (fun _ => rfl) fun key w hw => ?_
      rw [findWorkload_changeWorkload s Workload.key_stripped] at hw
      split at hw
      · obtain ⟨w', hw', rfl⟩ := Option.map_eq_some_iff.1 hw
        exact ⟨w', hw', fun a ha => .inl (List.mem_filter.1 ha).1⟩
      · exact ⟨w, hw, fun a ha => .inl ha⟩
    · exact hs

/-- Whatever edits are made, and whichever of them fail, only genuine entries pass for ours. -/
theorem of_edited {edits : List (Edit × Except IsolationError Unit)} (hs : Genuine s)
    (h : Edited s edits t) : Genuine t := by
  induction edits generalizing s with
  | nil =>
    cases h
    exact hs
  | cons e rest ih =>
    obtain ⟨m, he, hrest⟩ := h
    exact ih (hs.of_edit he) hrest

end Genuine

/-- Where only genuine entries pass for ours, an edit that succeeds is effective. -/
theorem effective_of_genuine (hs : Genuine s) :
    (∀ name, (taintNode name).Yields s () t →
      ∃ n, t.findNode name = some n ∧ Repels n.taints) ∧
    ∀ u, (isolate u true).Yields s () t → ∀ r ∈ u.resources,
      ∃ w, t.findWorkload r.key = some w ∧ Admits w.tolerations ∧ Tolerates w.tolerations := by
  refine ⟨fun name h => ?_, fun u h r hr => ?_⟩
  · obtain ⟨n, hn, hn'⟩ := findNode_of_taintNode h
    have hgenuine := hs.of_edit (e := .taint name) h
    obtain ⟨a, ha, his⟩ := List.any_eq_true.1 n.hasTaint_tainted
    have hours := isQuarantineTaint_iff.1 his
    exact ⟨n.tainted, hn', a, ha, hours, by rw [hgenuine.taints name _ hn' a ha hours]⟩
  · obtain ⟨w, hw, hw'⟩ := findWorkload_of_isolate h r hr
    have hgenuine := hs.of_edit (e := .isolate u true) h
    obtain ⟨a, ha, his⟩ := List.any_eq_true.1 w.hasToleration_tolerant
    have heq := hgenuine.tolerations r.key _ hw' a ha (isQuarantineToleration_iff.1 his)
    subst heq
    exact ⟨w.tolerant, hw', ⟨_, ha, by decide⟩, _, ha, by decide⟩

end Isolation

end Cordon
