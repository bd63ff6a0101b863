import Cordon.Proofs.Cluster.Change
import Cordon.Proofs.Isolation.Errand
import Cordon.Proofs.Run.Reading

/-! # Regions of a cluster that are left alone

A `Region` is some nodes with the pods on them, and some workloads.  `Unharmed` says of two states
of a cluster that the region is the same in both, but for pods that may be gone.

An errand that keeps off a region (`Errand.KeepsOff`) makes calls only that leave the region: what
is replaced has been looked up by a name outside of the region, and what is marked or removed was
found by a query that finds none of the region's pods but those that may go (`harmless_of_allows`).
So nothing is done to the region while all calls are on such an errand, also if they are answered
late or not at all (`unharmed_of_grounded`).
-/

namespace Cordon

open Kube (Node Pod)
open OnCluster (calls tells)

/-- Some nodes with the pods on them, and some workloads. -/
structure Region where
  nodes : String → Prop
  workloads : ResourceKey → Prop

namespace Region

/-- A pod is on a node of the region. -/
def Hosts (R : Region) (p : Pod) : Prop := ∃ node, p.nodeName = some node ∧ R.nodes node

end Region

variable {R : Region} {exempt : Pod → Prop} {s t u : ClusterState} {c : ClusterCall} {k : Heard}

/-- A region is as it was, but that pods may be gone which are exempt. -/
structure Unharmed (R : Region) (exempt : Pod → Prop) (s t : ClusterState) : Prop where
  distinct : s.Distinct → t.Distinct
  ignoresLabels : t.ignoresLabels = s.ignoresLabels
  node : ∀ name, R.nodes name → t.findNode name = s.findNode name
  workload : ∀ key, R.workloads key → t.findWorkload key = s.findWorkload key
  came : ∀ p ∈ t.pods, R.Hosts p → p ∈ s.pods
  stays : ∀ p ∈ s.pods, R.Hosts p → p ∈ t.pods ∨ exempt p

namespace Unharmed

theorem refl (s : ClusterState) : Unharmed R exempt s s :=
  ⟨id, rfl, fun _ _ => rfl, fun _ _ => rfl, fun _ hp _ => hp, fun _ hp _ => .inl hp⟩

theorem trans (h : Unharmed R exempt s t) (h' : Unharmed R exempt t u) : Unharmed R exempt s u where
  distinct := h'.distinct ∘ h.distinct
  ignoresLabels := h'.ignoresLabels.trans h.ignoresLabels
  node name hn := (h'.node name hn).trans (h.node name hn)
  workload key hk := (h'.workload key hk).trans (h.workload key hk)
  came p hp hhosts := h.came p (h'.came p hp hhosts) hhosts
  stays p hp hhosts := by
    rcases h.stays p hp hhosts with hp | hexempt
    · exact h'.stays p hp hhosts
    · exact .inr hexempt

theorem mono {exempt' : Pod → Prop} (h : Unharmed R exempt s t)
    (hexempt : ∀ p, exempt p → exempt' p) : Unharmed R exempt' s t :=
  { h with stays := fun p hp hhosts => (h.stays p hp hhosts).imp_right (hexempt p) }

end Unharmed

/-! ## Calls that leave a region -/

/-- What a call is about is outside of a region, or may go. -/
def Harmless (R : Region) (exempt : Pod → Prop) (s : ClusterState) : ClusterCall → Prop
  | .getNode _ | .listNodes | .listPods _ | .getPod _ _ | .getWorkload _ => True
  | .cordonNode name | .uncordonNode name => ¬ R.nodes name
  | .setNodeTaints n _ | .setNodeLabel n _ _ => ¬ R.nodes n.name
  | .setWorkloadTolerations w _ | .setWorkloadNodeSelector w _ => ¬ R.workloads w.key
  | .createPod p => ¬ R.Hosts p
  | .patchPodLabels p _ => ∀ b ∈ s.pods, R.Hosts b → b.identity ≠ p.identity
  | .deletePod ns name => ∀ b ∈ s.pods, R.Hosts b → b.identity = ns ++ "/" ++ name → exempt b
  | .evictPod p _ => ∀ b ∈ s.pods, R.Hosts b → b.identity = p.identity → exempt b

theorem Harmless.later (hc : Harmless R exempt s c) (h : Unharmed R exempt s t) :
    Harmless R exempt t c := by
  cases c with
  | patchPodLabels p patch => exact fun b hb hhosts => hc b (h.came b hb hhosts) hhosts
  | deletePod ns name => exact fun b hb hhosts => hc b (h.came b hb hhosts) hhosts
  | evictPod p dryRun => exact fun b hb hhosts => hc b (h.came b hb hhosts) hhosts
  | _ => exact hc

theorem unharmed_onNode {name : String} {change : Node → Node} (hs : ¬ R.nodes name)
    (hname : ∀ n, (change n).name = n.name) : Unharmed R exempt s (s.onNode c name change).2 := by
  unfold ClusterState.onNode
  split
  · refine ⟨id, rfl, fun other hother => ?_, fun _ _ => rfl, fun _ hp _ => hp,
      fun _ hp _ => .inl hp⟩
    rw [ClusterState.findNode_changeNode s hname, if_neg]
    rintro rfl
    exact hs hother
  · exact .refl s

theorem unharmed_onWorkload {key : ResourceKey} {change : Workload → Workload}
    (hs : ¬ R.workloads key) (hkey : ∀ w, (change w).key = w.key) :
    Unharmed R exempt s (s.onWorkload c key change).2 := by
  unfold ClusterState.onWorkload
  split
  · refine ⟨id, rfl, fun _ _ => rfl, fun other hother => ?_, fun _ hp _ => hp,
      fun _ hp _ => .inl hp⟩
    rw [ClusterState.findWorkload_changeWorkload s hkey, if_neg]
    rintro rfl
    exact hs hother
  · exact .refl s

theorem unharmed_removePod (hs : s.Distinct) {identity : String}
    (hexempt : ∀ b ∈ s.pods, R.Hosts b → b.identity = identity → exempt b) :
    Unharmed R exempt s (s.removePod identity) where
  distinct hs := ClusterState.distinct_removePod hs identity
  ignoresLabels := rfl
  node _ _ := rfl
  workload _ _ := rfl
  came p hp _ := List.mem_of_mem_eraseP hp
  stays p hp hhosts := by
    by_cases hidentity : p.identity = identity
    · exact .inr (hexempt p hp hhosts hidentity)
    · rw [ClusterState.pods_removePod hs]
      exact .inl (List.mem_filter.2 ⟨hp, by simpa using hidentity⟩)

theorem unharmed_changePod (hs : s.Distinct) {identity : String} {change : Pod → Pod}
    (hidentity : ∀ p, (change p).identity = p.identity)
    (hnode : ∀ p, (change p).nodeName = p.nodeName)
    (hfree : ∀ b ∈ s.pods, R.Hosts b → b.identity ≠ identity) :
    Unharmed R exempt s (s.changePod identity change) := by
  have hpods : (s.changePod identity change).pods =
      s.pods.map fun b => if b.identity = identity then change b else b :=
    ClusterState.changeFirst_eq_map (fun _ => beq_iff_eq) hs
  refine ⟨fun _ => ?_, rfl, fun _ _ => rfl, fun _ _ => rfl, fun b hb hhosts => ?_,
    fun b hb hhosts => .inl ?_⟩
  · show (List.map _ (ClusterState.changeFirst _ change s.pods)).Nodup
    rw [Shelf.map_changeFirst hidentity]
    exact hs
  · rw [hpods] at hb
    obtain ⟨b', hb', rfl⟩ := List.mem_map.1 hb
    split at hhosts
    · -- The pod that has been changed is where it was, and so is none of the region.
      next heq =>
      rw [Region.Hosts, hnode] at hhosts
      exact absurd heq (hfree b' hb' hhosts)
    · next hne =>
      rw [if_neg hne]
      exact hb'
  · rw [hpods]
    exact List.mem_map.2 ⟨b, hb, if_neg (hfree b hb hhosts)⟩

theorem unharmed_perform (hs : s.Distinct) (hc : Harmless R exempt s c) :
    Unharmed R exempt s (s.perform c).2 := by
  cases c with
  | listNodes | listPods _ | getPod _ _ => exact .refl s
  | cordonNode _ | uncordonNode _ | setNodeTaints _ _ | setNodeLabel _ _ _ =>
    exact unharmed_onNode hc fun _ => rfl
  | setWorkloadTolerations _ _ | setWorkloadNodeSelector _ _ =>
    exact unharmed_onWorkload hc fun _ => rfl
  | getNode _ | getWorkload _ =>
    simp only [ClusterState.perform]
    split
    · exact .refl s
    · exact .refl s
  | createPod p =>
    have hdistinct := ClusterState.distinct_perform hs (.createPod p)
    simp only [ClusterState.perform] at hdistinct ⊢
    split
    · exact .refl s
    · next hnone =>
      rw [hnone] at hdistinct
      refine ⟨fun _ => hdistinct, rfl, fun _ _ => rfl, fun _ _ => rfl, fun b hb hhosts => ?_,
        fun b hb _ => .inl (List.mem_append_left _ hb)⟩
      rcases List.mem_append.1 hb with hb | hb
      · exact hb
      · cases List.mem_singleton.1 hb
        exact absurd hhosts hc
  | deletePod ns name =>
    simp only [ClusterState.perform]
    split
    · exact unharmed_removePod hs hc
    · exact .refl s
  | patchPodLabels p patch =>
    simp only [ClusterState.perform]
    split
    · exact unharmed_changePod hs (fun _ => rfl) (fun _ => rfl) hc
    · exact .refl s
  | evictPod p dryRun =>
    simp only [ClusterState.perform]
    split
    · cases dryRun with
      | true => exact .refl s
      | false => exact unharmed_removePod hs hc
    · exact .refl s

/-! ## What has been heard -/

/-- What has been heard is true of the region: objects have the names that they were looked up by,
and if a pod of the region is named like a listed pod then it is one that was asked for. -/
structure Informed (R : Region) (k : Heard) (s : ClusterState) : Prop where
  node : ∀ name n, ⟨.getNode name, .ok n⟩ ∈ k → n.name = name
  workload : ∀ key w, ⟨.getWorkload key, .ok w⟩ ∈ k → w.key = key
  pods : ∀ f pods, ⟨.listPods f, .ok pods⟩ ∈ k → ∀ p ∈ pods, ∀ b ∈ s.pods, R.Hosts b →
    b.identity = p.identity → s.selects f b = true

theorem informed_empty : Informed R ∅ s :=
  ⟨fun _ _ h => h.elim, fun _ _ h => h.elim, fun _ _ h => h.elim⟩

theorem Informed.later (hk : Informed R k s) (h : Unharmed R exempt s t) : Informed R k t where
  node := hk.node
  workload := hk.workload
  pods f pods heard p hp b hb hhosts hidentity := by
    have hselects := hk.pods f pods heard p hp b (h.came b hb hhosts) hhosts hidentity
    rwa [ClusterState.selects, h.ignoresLabels]

/-- An errand that is about nothing in a region but pods that may go. -/
structure Errand.KeepsOff (E : Errand) (R : Region) (exempt : Pod → Prop) : Prop where
  nodes : ∀ name, E.nodes name → ¬ R.nodes name
  closes : ∀ name, E.closes name → ¬ R.nodes name
  reopens : ∀ name, E.reopens name → ¬ R.nodes name
  workloads : ∀ key, E.workloads key → ¬ R.workloads key
  marks : ∀ f, E.marks f → ∃ name, f.nodeName = some name ∧ ¬ R.nodes name
  removes : ∀ f, E.removes f → ∀ (s : ClusterState) p, s.ignoresLabels = false →
    s.selects f p = true → R.Hosts p → exempt p
  deploys : ∀ t, E.deploys t → ¬ R.nodes t.name
  recalls : ∀ t, E.recalls t → ∀ p, R.Hosts p →
    p.identity = t.debug.namespaceName ++ "/" ++ t.debugPodName → exempt p

theorem Errand.keepsOff_all {P : Errand → Prop} (h : ∀ E, P E → E.KeepsOff R exempt) :
    (Errand.all P).KeepsOff R exempt where
  nodes := fun name ⟨E, hE, hn⟩ => (h E hE).nodes name hn
  closes := fun name ⟨E, hE, hn⟩ => (h E hE).closes name hn
  reopens := fun name ⟨E, hE, hn⟩ => (h E hE).reopens name hn
  workloads := fun key ⟨E, hE, hw⟩ => (h E hE).workloads key hw
  marks := fun f ⟨E, hE, hf⟩ => (h E hE).marks f hf
  removes := fun f ⟨E, hE, hf⟩ => (h E hE).removes f hf
  deploys := fun t ⟨E, hE, ht⟩ => (h E hE).deploys t ht
  recalls := fun t ⟨E, hE, ht⟩ => (h E hE).recalls t ht

theorem nodeName_of_selects {f : PodFilter} {p : Pod} {name : String}
    (h : s.selects f p = true) (hf : f.nodeName = some name) : p.nodeName = some name := by
  simp only [ClusterState.selects, hf, Bool.and_eq_true, Bool.or_eq_true, beq_iff_eq] at h
  rcases h.1.2 with hnone | heq
  · cases hnone
  · exact heq

theorem harmless_of_allows {E : Errand} (hE : E.KeepsOff R exempt)
    (hlabels : s.ignoresLabels = false) (hk : Informed R k s) (hc : E.Allows k c) :
    Harmless R exempt s c := by
  cases hc with
  | look _ | find _ | list _ | seek _ => trivial
  | taint taints h heard =>
    show ¬ R.nodes _
    rw [hk.node _ _ heard]
    exact hE.nodes _ h
  | close h => exact hE.closes _ h
  | reopen h => exact hE.reopens _ h
  | tolerate tolerations h heard =>
    show ¬ R.workloads _
    rw [hk.workload _ _ heard]
    exact hE.workloads _ h
  | mark patch h heard hp =>
    -- A pod of the region with that name would have been found on a node outside of the region.
    intro b hb hhosts hidentity
    obtain ⟨name, hf, hnot⟩ := hE.marks _ h
    have hselects := hk.pods _ _ heard _ hp b hb hhosts hidentity
    obtain ⟨node, hnode, hregion⟩ := hhosts
    cases hnode.symm.trans (nodeName_of_selects hselects hf)
    exact hnot hregion
  | evict h heard hp | delete h heard hp =>
    intro b hb hhosts hidentity
    have hselects := hk.pods _ _ heard _ hp b hb hhosts hidentity
    exact hE.removes _ h s b hlabels hselects hhosts
  | deploy h =>
    rintro ⟨node, hnode, hregion⟩
    cases hnode
    exact hE.deploys _ h hregion
  | retract h => exact fun b _ hhosts hidentity => hE.recalls _ h b hhosts hidentity

/-! ## Scenes -/

section Scenes

variable {others : ClusterState → ClusterState → Prop} {s₀ s t : Scene}

theorem unharmed_of_calls {answer : Option (Except IsolationError c.Reply)}
    (hs : s.cluster.Distinct) (hharmless : Harmless R exempt s.cluster c)
    (hc : Calls s c answer t) : Unharmed R exempt s.cluster t.cluster := by
  rcases hc.done with rfl | rfl
  · exact .refl _
  · cases ha : (s.cluster.perform c).1 with
    | error e =>
      rw [Scene.act_of_error ha]
      exact .refl _
    | ok a =>
      rw [(Scene.act_of_ok ha (.closed "")).1]
      exact unharmed_perform hs hharmless

theorem Calls.flights {answer : Option (Except IsolationError c.Reply)} (h : Calls s c answer t) :
    t.flights = s.flights := by
  rcases h.done with rfl | rfl
  · rfl
  · unfold Scene.act
    split
    · rfl
    · rfl

theorem unharmed_of_drifted (hothers : ∀ c d, others c d → Unharmed R (fun _ => False) c d)
    (h : Drifted others s t) : Unharmed R exempt s.cluster t.cluster := by
  induction h with
  | refl => exact .refl _
  | tail _ hstep ih =>
    obtain ⟨c, hc, rfl⟩ := hstep
    exact ih.trans ((hothers _ c hc).mono fun _ h => h.elim)

theorem flights_of_drifted (h : Drifted others s t) : t.flights = s.flights := by
  induction h with
  | refl => rfl
  | tail _ hstep ih =>
    obtain ⟨c, -, rfl⟩ := hstep
    exact ih

/-- What a look-up or a query has answered informs. -/
theorem informed_of_calls {answer : Option (Except IsolationError c.Reply)}
    (hs : s.cluster.Distinct) (hharmless : Harmless R exempt s.cluster c)
    (hk : Informed R k s.cluster) (hc : Calls s c answer t) :
    Informed R (k ∪ tells (I := Effects) ⟨.cluster (.call c), answer⟩) t.cluster := by
  have hunharmed := unharmed_of_calls hs hharmless hc
  have hold := hk.later hunharmed
  cases answer with
  | none => exact ⟨fun name n h => hold.node name n (h.resolve_right id),
      fun key w h => hold.workload key w (h.resolve_right id),
      fun f pods h => hold.pods f pods (h.resolve_right id)⟩
  | some a =>
    refine ⟨fun name n h => ?_, fun key w h => ?_, fun f pods h p hp b hb hhosts hidentity => ?_⟩
    · rcases h with h | h
      · exact hold.node name n h
      · -- A look-up returns what it was asked for.
        cases h
        exact hc.honest
    · rcases h with h | h
      · exact hold.workload key w h
      · cases h
        exact hc.honest
    · rcases h with h | h
      · exact hold.pods f pods h p hp b hb hhosts hidentity
      · -- Both pods were there when the query was answered, so they are one.
        cases h
        obtain ⟨hlist, -⟩ := hc.of_ok fun _ _ heq => nomatch heq
        cases hlist
        obtain ⟨hmem, hselects⟩ := List.mem_filter.1 hp
        cases List.inj_on_of_nodup_map hs (hunharmed.came b hb hhosts) hmem hidentity
        rwa [ClusterState.selects, hunharmed.ignoresLabels]

/-- A region has been left, by what has been done and by what is under way. -/
structure Spared (R : Region) (exempt : Pod → Prop) (s₀ : Scene) (k : Heard) (s : Scene) :
    Prop where
  unharmed : Unharmed R exempt s₀.cluster s.cluster
  informed : Informed R k s.cluster
  flights : ∀ r, some r ∈ s.flights → Harmless R exempt s.cluster r.call

namespace Spared

variable {E : Errand} (hE : E.KeepsOff R exempt)
  (hothers : ∀ c d, others c d → Unharmed R (fun _ => False) c d)
  (hdistinct : s₀.cluster.Distinct) (hlabels : s₀.cluster.ignoresLabels = false)
  (h : Spared R exempt s₀ k s)

include h

/-- An answer that tells nothing of the cluster changes nothing. -/
theorem silent {k' : Heard} (hnone : k' = ∅) : Spared R exempt s₀ (k ∪ k') s := by
  rwa [hnone, Set.union_empty]

include hlabels in
theorem harmless (hE : E.KeepsOff R exempt) (hc : E.Allows k c) :
    Harmless R exempt s.cluster c :=
  harmless_of_allows hE (h.unharmed.ignoresLabels.trans hlabels) h.informed hc

include hothers in
theorem drifted (hd : Drifted others s t) : Spared R exempt s₀ k t := by
  have hunharmed : Unharmed R exempt s.cluster t.cluster := unharmed_of_drifted hothers hd
  refine ⟨h.unharmed.trans hunharmed, h.informed.later hunharmed, fun r hr => ?_⟩
  rw [flights_of_drifted hd] at hr
  exact (h.flights r hr).later hunharmed

include hdistinct in
/-- A call that is harmless leaves the region, and its answer informs. -/
theorem called {answer : Option (Except IsolationError c.Reply)}
    (hharmless : Harmless R exempt s.cluster c) (hc : Calls s c answer t) :
    Spared R exempt s₀ (k ∪ tells (I := Effects) ⟨.cluster (.call c), answer⟩) t := by
  have hs := h.unharmed.distinct hdistinct
  have hunharmed := unharmed_of_calls hs hharmless hc
  refine ⟨h.unharmed.trans hunharmed, informed_of_calls hs hharmless h.informed hc,
    fun r hr => ?_⟩
  rw [hc.flights] at hr
  exact (h.flights r hr).later hunharmed

/-- A removal is licensed when it is launched, and lands later. -/
theorem launched {removal : Option Drain.Removal}
    (hharmless : ∀ r, removal = some r → Harmless R exempt s.cluster r.call) :
    Spared R exempt s₀ k (s.withFlights (s.flights ++ [removal])) := by
  refine ⟨h.unharmed, h.informed, fun r hr => ?_⟩
  rcases List.mem_append.1 hr with hr | hr
  · exact h.flights r hr
  · exact hharmless r (List.mem_singleton.1 hr).symm

include hdistinct in
theorem lands {n : Nat} {answer : Option (Fin (n + 1) × Except IsolationError Bool)}
    (hlands : Lands s n answer t) : Spared R exempt s₀ k t := by
  cases hlands with
  | vacant i =>
    exact ⟨h.unharmed, h.informed, fun r hr => h.flights r (List.mem_of_mem_eraseIdx hr)⟩
  | removal i removal _ m hflight hcall =>
    have hunharmed := unharmed_of_calls (h.unharmed.distinct hdistinct)
      (h.flights removal (List.mem_of_getElem? hflight)) hcall
    exact ⟨h.unharmed.trans hunharmed, h.informed.later hunharmed,
      fun r hr => (h.flights r (List.mem_of_mem_eraseIdx hr)).later hunharmed⟩
  | late => exact h

theorem stores {c : StoreCall} {answer : Except StoreError c.Reply} (hc : Stores s c answer t) :
    Spared R exempt s₀ k t := by
  cases hc with
  | answered => exact ⟨h.unharmed, h.informed, h.flights⟩
  | failed _ _ hdone =>
    rcases hdone with rfl | rfl
    · exact h
    · exact ⟨h.unharmed, h.informed, h.flights⟩

include hE hothers hdistinct hlabels in
/-- A question on an errand that keeps off a region leaves it. -/
theorem step {e : Effects.Event} (hcalls : ∀ c, calls e.1 c → E.Allows k c)
    (ha : Answers others e.1 s e.2 t) : Spared R exempt s₀ (k ∪ tells e) t := by
  obtain ⟨r, answer⟩ := e
  cases r with
  | cluster r =>
    cases r with
    | call c =>
      obtain ⟨d, hd, hc⟩ := ha
      have hbefore := h.drifted hothers hd
      exact hbefore.called hdistinct (hbefore.harmless hlabels hE (hcalls c rfl)) hc
    | launch removal =>
      obtain ⟨rfl, rfl⟩ := ha
      refine (h.launched fun r hr => ?_).silent rfl
      exact h.harmless hlabels hE (hcalls _ ⟨r, hr, rfl⟩)
    | await n =>
      obtain ⟨d, hd, hlands⟩ := ha
      refine ((h.drifted hothers hd).lands hdistinct hlands).silent ?_
      cases answer with
      | none => rfl
      | some _ => rfl
  | store c => exact (h.stores ha).silent rfl
  | arm _ | disarm =>
    cases ha
    have hnone : Spared R exempt s₀ k (s.withFlights []) :=
      ⟨h.unharmed, h.informed, fun r hr => by cases hr⟩
    exact hnone.silent rfl
  | now =>
    cases ha
    exact h.silent rfl

end Spared

/-- A region is left by calls on an errand that keeps off it. -/
theorem unharmed_of_grounded {E : Errand} {h : Dialogue Effects} (hE : E.KeepsOff R exempt)
    (hothers : ∀ c d, others c d → Unharmed R (fun _ => False) c d)
    (hdistinct : s.cluster.Distinct) (hlabels : s.cluster.ignoresLabels = false)
    (hflights : s.flights = []) (hf : Follows (Answers others) s h t)
    (hg : Grounded E.Allows ∅ h) : Unharmed R exempt s.cluster t.cluster := by
  obtain ⟨k, hspared⟩ := hf.grounded (J := Spared R exempt s) hg
    (fun k e m m' hcalls ha hm => hm.step hE hothers hdistinct hlabels hcalls ha)
    ⟨.refl _, informed_empty, by simp [hflights]⟩
  exact hspared.unharmed

end Scenes

end Cordon
