import Cordon.Drain.Deschedule
import Cordon.Proofs.Isolation.Edits
import Cordon.Proofs.Isolation.Marked

/-! # What an operation has done once it has succeeded

Any call may fail, but an operation that puts something on a node passes every failure on.  So if it
returns then all of its calls have taken effect, and what it has done is one equation between the
cluster before and after (`yields_isolate`, `yields_taintNode`).
-/

namespace Cordon

open Kube (Node Pod)

namespace ClusterState

variable {s : ClusterState}

def mark (s : ClusterState) (which : Pod → Bool) : ClusterState :=
  { s with pods := s.pods.map fun p => if which p then p.marked else p }

theorem mark_congr {f g : Pod → Bool} (h : ∀ p ∈ s.pods, f p = g p) : s.mark f = s.mark g := by
  unfold mark
  rw [List.map_congr_left fun p hp => by rw [h p hp]]

theorem mark_nothing (s : ClusterState) : (s.mark fun _ => false) = s := by
  simp [mark]

theorem identities_mark (s : ClusterState) (which : Pod → Bool) :
    (s.mark which).pods.map (·.identity) = s.pods.map (·.identity) := by
  simp only [mark, List.map_map]
  refine List.map_congr_left fun p _ => ?_
  by_cases hp : which p
  · simp [hp, p.marked_frame.1]
  · simp [hp]

theorem mark_mark (s : ClusterState) (f g : Pod → Bool) :
    (s.mark f).mark g = s.mark fun p => f p || g p := by
  simp only [mark, List.map_map]
  congr 1
  refine List.map_congr_left fun p _ => ?_
  by_cases hf : f p
  · simp [hf, Pod.marked_marked]
  · simp [hf]

/-- The pods on a node that one of some workloads claims. -/
def tracks (s : ClusterState) (node : String) (resources : List ResourceRef) (p : Pod) : Bool :=
  p.nodeName == some node &&
    resources.any fun r => (s.findWorkload r.key).any (·.claims p)

/-- Which pods are tracked is not a matter of tolerations. -/
theorem tracks_eq {t : ClusterState} {lends : ResourceKey → Prop} [DecidablePred lends]
    (h : ∀ key, t.findWorkload key =
      (s.findWorkload key).map fun w => if lends key then w.tolerant else w)
    (node : String) (resources : List ResourceRef) (p : Pod) :
    t.tracks node resources p = s.tracks node resources p := by
  unfold tracks
  congr 2
  refine funext fun r => ?_
  rw [h, Option.any_map]
  congr 1
  refine funext fun w => ?_
  by_cases hr : lends r.key
  · simp only [hr, if_true, w.claims_tolerant]
  · simp only [hr, if_false]

def deployed (s : ClusterState) (u : Target) : ClusterState :=
  if (s.findPod (DebugPod.make u.name u.debug).identity).isSome then s
  else { s with pods := s.pods ++ [DebugPod.make u.name u.debug] }

/-- The cluster once the tracked pods of a node are marked and, if it is to be isolated, its
workloads tolerate the taint. -/
def withIsolated (s : ClusterState) (node : String) (isolated : Bool)
    (resources : List ResourceRef) : ClusterState :=
  (s.mark (s.tracks node resources)).changeEach (if isolated then resources else [])
    Workload.tolerant

/-- What is not changed by marking tracked pods and letting workloads tolerate the taint. -/
structure Lending (node : String) (isolated : Bool) (resources : List ResourceRef)
    (s t : ClusterState) : Prop where
  nodes : t.nodes = s.nodes
  identities : t.pods.map (·.identity) = s.pods.map (·.identity)
  pods : t.pods = s.pods.map fun p => if s.tracks node resources p then p.marked else p
  keys : t.workloads.map (·.key) = s.workloads.map (·.key)
  workloads : ∀ key, t.findWorkload key = (s.findWorkload key).map fun w =>
    if isolated = true ∧ key ∈ resources.map (·.key) then w.tolerant else w
  ignoresLabels : t.ignoresLabels = s.ignoresLabels

theorem withIsolated_frame (s : ClusterState) (node : String) (isolated : Bool)
    (resources : List ResourceRef) :
    Lending node isolated resources s (s.withIsolated node isolated resources) := by
  obtain ⟨hnodes, hpods, hlabels⟩ := changeEach_frame (f := Workload.tolerant)
    (s.mark (s.tracks node resources)) (if isolated then resources else [])
  refine ⟨hnodes, ?_, hpods, ?_, fun key => ?_, hlabels⟩
  · rw [withIsolated, hpods, identities_mark]
  · exact keys_changeEach Workload.key_tolerant _ _
  · rw [withIsolated, findWorkload_changeEach Workload.key_tolerant Workload.tolerant_tolerant]
    cases isolated <;> simp [mark, findWorkload]

end ClusterState

namespace Isolation

open Clustered

variable {s t : ClusterState} {node : String}

/-! ## Nodes -/

theorem yields_isIsolated {b : Bool} (h : (isIsolated node).Yields s b t) :
    t = s ∧ ∃ n, s.findNode node = some n ∧
      b = (n.isUnschedulable && Repelling.hasTaint n.taints) := by
  obtain ⟨n, m, hget, hrest⟩ := yields_bind h
  obtain ⟨rfl, rfl⟩ := yields_pure hrest
  obtain ⟨hn, rfl⟩ := findNode_of_perform (yields_call (by simp) hget)
  exact ⟨rfl, n, hn, rfl⟩

theorem yields_disableScheduling (h : (disableScheduling node).Yields s () t) :
    (∃ n, s.findNode node = some n) ∧ t = s.changeNode node (·.withUnschedulable true) := by
  have hcall := yields_call (by simp) h
  have hon : s.onNode (.cordonNode node) node (·.withUnschedulable true) = (.ok (), t) := hcall
  unfold ClusterState.onNode at hon
  split at hon
  · next n hn => exact ⟨⟨n, hn⟩, (Prod.ext_iff.1 hon).2.symm⟩
  · cases (Prod.ext_iff.1 hon).1

theorem yields_taintNode (h : (taintNode node).Yields s () t) :
    t = s.changeNode node Node.tainted := eq_of_mends (mends_taintNode s node) h

/-! ## Debug pods -/

theorem yields_deployDebug {u : Target} (h : (deployDebug u).Yields s () t) : t = s.deployed u := by
  obtain ⟨found, m, hget, hrest⟩ := yields_bind h
  have hcall := yields_call (by simp) hget
  have hfound : found = s.findPod (DebugPod.make u.name u.debug).identity ∧ m = s :=
    ⟨(Except.ok.inj (Prod.ext_iff.1 hcall).1).symm, (Prod.ext_iff.1 hcall).2.symm⟩
  obtain ⟨rfl, rfl⟩ := hfound
  unfold ClusterState.deployed
  cases hpod : m.findPod (DebugPod.make u.name u.debug).identity with
  | some p =>
    rw [hpod] at hrest
    exact (yields_pure hrest).2
  | none =>
    rw [hpod] at hrest
    have hcreate := yields_call (by simp) hrest
    simp only [ClusterState.perform, hpod] at hcreate
    exact (Prod.ext_iff.1 hcreate).2.symm

/-! ## Tracked workloads -/

theorem yields_markPod {w : Workload} {p : Pod} (hs : (s.pods.map (·.identity)).Nodup)
    (hp : p ∈ s.pods) (hclaimed : labelsMatch p.labels w.matchLabels = true)
    (h : (markPod w p).Yields s () t) : t = s.mark (·.identity == p.identity) := by
  have hmarked : s.changePod p.identity Pod.marked = s.mark (·.identity == p.identity) := by
    unfold ClusterState.changePod ClusterState.mark
    rw [ClusterState.changeFirst_eq_map (fun _ => beq_iff_eq) hs]
    simp only [beq_iff_eq]
  have hfind := ClusterState.findPod_of_mem hs hp
  rw [markPod, if_pos hclaimed] at h
  rw [← hmarked]
  cases hpatch : Marking.markPatch p.labels with
  | none =>
    rw [hpatch] at h
    rw [(yields_pure h).2]
    unfold ClusterState.changePod
    rw [ClusterState.changeFirst_of_fixed]
    intro q hq
    cases hfind.symm.trans hq
    rw [Pod.marked, hpatch]
  | some patch =>
    rw [hpatch] at h
    have hcall := yields_call (by simp) h
    simp only [ClusterState.perform, hfind] at hcall
    rw [← show s.changePod p.identity (ClusterState.relabel patch) = t from
      (Prod.ext_iff.1 hcall).2]
    unfold ClusterState.changePod
    rw [ClusterState.changeFirst_congr]
    intro q hq
    cases hfind.symm.trans hq
    rw [Pod.marked, hpatch]

/-- Pods that are marked in turn are all marked: marking one leaves the others as they are. -/
theorem yields_markEach {w : Workload} {pods : List Pod} (hs : (s.pods.map (·.identity)).Nodup)
    (hpods : ∀ p ∈ pods, p ∈ s.pods ∧ labelsMatch p.labels w.matchLabels = true)
    (hdistinct : (pods.map (·.identity)).Nodup) (h : (pods.forM (markPod w)).Yields s () t) :
    t = s.mark (·.identity ∈ pods.map (·.identity)) := by
  induction pods generalizing s with
  | nil =>
    rw [(yields_pure h).2]
    simp [ClusterState.mark_nothing]
  | cons p rest ih =>
    change (markPod w p >>= fun _ => rest.forM (markPod w)).Yields s () t at h
    rw [List.map_cons, List.nodup_cons] at hdistinct
    obtain ⟨_, m, hhead, hrest⟩ := yields_bind h
    obtain ⟨hp, hclaimed⟩ := hpods p List.mem_cons_self
    cases yields_markPod hs hp hclaimed hhead
    -- The pods behind the first one still have the labels by which they were found.
    have hkept : ∀ q ∈ rest, q ∈ (s.mark (·.identity == p.identity)).pods ∧
        labelsMatch q.labels w.matchLabels = true := by
      intro q hq
      obtain ⟨hmem, hclaimed⟩ := hpods q (List.mem_cons_of_mem _ hq)
      have hne : q.identity ≠ p.identity := fun heq =>
        hdistinct.1 (heq ▸ List.mem_map_of_mem (f := (·.identity)) hq)
      exact ⟨List.mem_map.2 ⟨q, hmem, by simp [hne]⟩, hclaimed⟩
    have hnodup : ((s.mark (·.identity == p.identity)).pods.map (·.identity)).Nodup := by
      rw [ClusterState.identities_mark]
      exact hs
    rw [ih hnodup hkept hdistinct.2 hrest, ClusterState.mark_mark]
    refine ClusterState.mark_congr fun q _ => ?_
    rw [Bool.eq_iff_iff]
    simp

theorem selects_podsOf {w : Workload} (hlabels : s.ignoresLabels = false)
    (hclaims : w.matchLabels.isEmpty = false) (p : Pod) :
    s.selects (podsOf node w) p = (p.nodeName == some node && w.claims p) := by
  have hunion : (Dict.empty : Labels).union w.matchLabels = w.matchLabels :=
    Dict.ofList_entries w.matchLabels
  rw [Bool.eq_iff_iff]
  simp [ClusterState.selects, podsOf, PodFilter.withNamespace, PodFilter.withLabels,
    PodFilter.onNode, PodFilter.everything, hunion, hlabels, Workload.claims, labelsMatch, hclaims]
  tauto

theorem yields_markPods {w : Workload} (hs : (s.pods.map (·.identity)).Nodup)
    (hlabels : s.ignoresLabels = false) (h : (markPods node w).Yields s () t) :
    t = s.mark fun p => p.nodeName == some node && w.claims p := by
  unfold markPods at h
  cases hclaims : w.matchLabels.isEmpty with
  | true =>
    have hnone : ∀ p, w.claims p = false := fun p => by simp [Workload.claims, labelsMatch, hclaims]
    rw [hclaims, if_pos rfl] at h
    rw [(yields_pure h).2]
    simp [hnone, ClusterState.mark_nothing]
  | false =>
    rw [hclaims, if_neg Bool.false_ne_true] at h
    obtain ⟨pods, m, hlist, hrest⟩ := yields_bind h
    have hcall := yields_call (by simp) hlist
    have hlisted : s.pods.filter (s.selects (podsOf node w)) = pods ∧ s = m :=
      ⟨Except.ok.inj (Prod.ext_iff.1 hcall).1, (Prod.ext_iff.1 hcall).2⟩
    obtain ⟨rfl, rfl⟩ := hlisted
    have hpods : ∀ p ∈ s.pods.filter (s.selects (podsOf node w)),
        p ∈ s.pods ∧ labelsMatch p.labels w.matchLabels = true := by
      intro p hp
      obtain ⟨hmem, hsel⟩ := List.mem_filter.1 hp
      rw [selects_podsOf hlabels hclaims] at hsel
      simp only [Workload.claims, Bool.and_eq_true] at hsel
      exact ⟨hmem, hsel.2.2⟩
    rw [yields_markEach hs hpods (hs.sublist (List.filter_sublist.map _)) hrest]
    refine ClusterState.mark_congr fun p hp => ?_
    rw [← selects_podsOf hlabels hclaims, Bool.eq_iff_iff, decide_eq_true_iff]
    exact ClusterState.identity_mem_filter hs hp

theorem yields_addToleration {w : Workload} (hw : s.findWorkload w.key = some w)
    (h : (addToleration w).Yields s () t) : t = s.changeWorkload w.key Workload.tolerant :=
  eq_of_mends (mends_addToleration hw) h

theorem yields_isolateWorkload {isolated : Bool} {r : ResourceRef}
    (hs : (s.pods.map (·.identity)).Nodup) (hlabels : s.ignoresLabels = false)
    (h : (isolateWorkload node isolated r).Yields s () t) :
    t = s.withIsolated node isolated [r] ∧ (s.findWorkload r.key).isSome = true := by
  obtain ⟨w, m, hget, hrest⟩ := yields_bind h
  obtain ⟨hw, rfl⟩ := findWorkload_of_perform (yields_call (by simp) hget)
  obtain ⟨_, d, hmark, htolerate⟩ := yields_bind hrest
  have hkey : w.key = r.key := ClusterState.key_of_findWorkload hw
  have hd : d = m.mark (m.tracks node [r]) := by
    rw [yields_markPods hs hlabels hmark]
    refine ClusterState.mark_congr fun p _ => ?_
    simp [ClusterState.tracks, hw]
  refine ⟨?_, by simp [hw]⟩
  cases isolated with
  | true =>
    have hw' : d.findWorkload w.key = some w := by
      rw [hd, hkey]
      exact hw
    rw [yields_addToleration hw' htolerate, hd, hkey]
    rfl
  | false =>
    rw [(yields_pure htolerate).2, hd]
    rfl

theorem mark_changeEach (s : ClusterState) (resources : List ResourceRef)
    (f : Workload → Workload) (which : Pod → Bool) :
    (s.changeEach resources f).mark which = (s.mark which).changeEach resources f := by
  induction resources generalizing s with
  | nil => rfl
  | cons r rest ih => exact ih (s.changeWorkload r.key f)

theorem withIsolated_withIsolated (s : ClusterState) (node : String) (isolated : Bool)
    (r : ResourceRef) (rest : List ResourceRef) :
    (s.withIsolated node isolated [r]).withIsolated node isolated rest =
      s.withIsolated node isolated (r :: rest) := by
  have htracks : ∀ p, (s.withIsolated node isolated [r]).tracks node rest p =
      s.tracks node rest p :=
    ClusterState.tracks_eq (s.withIsolated_frame node isolated [r]).workloads node rest
  have hboth : (fun p => s.tracks node [r] p || s.tracks node rest p) =
      s.tracks node (r :: rest) := by
    funext p
    simp [ClusterState.tracks, Bool.and_or_distrib_left]
  rw [ClusterState.withIsolated, ClusterState.mark_congr fun p _ => htracks p,
    ClusterState.withIsolated, mark_changeEach, ClusterState.mark_mark, hboth,
    ClusterState.withIsolated]
  cases isolated <;> rfl

theorem yields_isolate {u : Target} {isolated : Bool} (hs : (s.pods.map (·.identity)).Nodup)
    (hlabels : s.ignoresLabels = false) (h : (isolate u isolated).Yields s () t) :
    t = s.withIsolated u.name isolated u.resources ∧
      ∀ r ∈ u.resources, (s.findWorkload r.key).isSome = true := by
  unfold isolate at h
  generalize u.resources = resources at h
  induction resources generalizing s with
  | nil =>
    have hnone : s.tracks u.name [] = fun _ => false := by
      funext p
      simp [ClusterState.tracks]
    rw [(yields_pure h).2, ClusterState.withIsolated, hnone, ClusterState.mark_nothing]
    cases isolated <;> simp [ClusterState.changeEach]
  | cons r rest ih =>
    change (isolateWorkload u.name isolated r >>= fun _ =>
      rest.forM (isolateWorkload u.name isolated)).Yields s () t at h
    obtain ⟨_, m, hhead, hrest⟩ := yields_bind h
    obtain ⟨rfl, hr⟩ := yields_isolateWorkload hs hlabels hhead
    -- The workloads behind the first one are there as before, and claim by the same labels.
    have hframe := s.withIsolated_frame u.name isolated [r]
    obtain ⟨ht, hothers⟩ := ih (by rw [hframe.identities]; exact hs)
      (hframe.ignoresLabels.trans hlabels) hrest
    refine ⟨ht.trans (withIsolated_withIsolated s _ _ r rest), fun a ha => ?_⟩
    rcases List.mem_cons.1 ha with rfl | ha
    · exact hr
    · simpa [hframe.workloads] using hothers a ha

/-! ## Kept workloads -/

theorem yields_ifPresent {key : ResourceKey} {found : Option Workload}
    (h : (ifPresent (call (.getWorkload key))).Yields s found t) :
    found = s.findWorkload key ∧ t = s := by
  have hends : (ifPresent (call (.getWorkload key))).Meets s (fun _ => True) fun r t =>
      ∀ found, r = .ok found → found = s.findWorkload key ∧ t = s :=
    meets_ifPresent (finds_getWorkload s key) trivial
      (fun _ hfound => ⟨(Except.ok.inj hfound).symm, rfl⟩) fun _ _ hfound => by cases hfound
  exact hends.of_attains h found rfl

theorem yields_keptWorkloads {resources : List ResourceRef} {kept : List Workload}
    (h : (Drain.keptWorkloads resources).Yields s kept t) :
    kept = resources.filterMap (fun r => s.findWorkload r.key) ∧ t = s := by
  induction resources generalizing kept s with
  | nil => exact yields_pure h
  | cons r rest ih =>
    obtain ⟨found, m, hhead, hrest⟩ := yields_bind h
    obtain ⟨rfl, rfl⟩ := yields_ifPresent hhead
    obtain ⟨others, d, hothers, hrest⟩ := yields_bind hrest
    obtain ⟨rfl, rfl⟩ := yields_pure hrest
    obtain ⟨rfl, rfl⟩ := ih hothers
    refine ⟨?_, rfl⟩
    cases hw : t.findWorkload r.key <;> simp [hw]

end Isolation

end Cordon
