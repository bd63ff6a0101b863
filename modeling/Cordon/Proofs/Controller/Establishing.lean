import Cordon.Proofs.Controller.Dismantling
import Cordon.Proofs.Drain.Planning
import Cordon.Proofs.Lifecycle.Placement
import Cordon.Proofs.Lifecycle.Records

/-! # What a request is brought to, exactly

A request is put in place by a preparation and a start.  If both return then every requested node
is isolated, whatever has failed or been refused on the way (`establishes`): `Established` says
what becomes of each node, workload and pod, and `Isolated` what is to be had from it.

Marking a pod changes the labels by which workloads claim it.  It does no harm, as a pod that is
marked stays by its mark; and of a pod that is not marked nothing has changed, so that the plan for
it is that of the cluster at the beginning (`stays_iff_of_readied`).
-/

namespace Cordon

open Kube (Node Pod)

namespace Lifecycle

open Drain (Stays keptOn)

variable {us : List Target} {u : Target} {s m : ClusterState} {p : Pod}

/-- Which pods kept workloads claim is not a matter of tolerations. -/
theorem any_claims_keptOn (h : Readied us s m) :
    (keptOn m u).any (·.claims p) = (keptOn s u).any (·.claims p) := by
  unfold keptOn
  rw [List.any_filterMap, List.any_filterMap]
  refine congrArg u.kept.any (funext fun r => ?_)
  rw [h.workloads]
  cases s.findWorkload r.key with
  | none => rfl
  | some w =>
    rw [Option.map_some]
    cases lent us r.key with
    | true => exact w.claims_tolerant p
    | false => rfl

theorem stays_iff_of_readied (h : Readied us s m) {spared : List String} :
    Stays u m spared p ↔ Stays u s spared p := by
  have hplan : Drain.plan p u.flags (keptOn m u) = Drain.plan p u.flags (keptOn s u) :=
    Drain.plan_congr (any_claims_keptOn h)
  rw [Stays, Stays, hplan]

def elsewhere (us : List Target) (p : Pod) : Bool := us.all fun u => p.nodeName != some u.name

/-- Nodes are closed and, if they are to be isolated, tainted, and the workloads that isolated nodes
track tolerate the taint.  Tracked pods are marked, other pods of the nodes are gone unless they
stay, debug pods have come, and everything else is as before. -/
structure Established (us : List Target) (spared : List String) (s t : ClusterState) : Prop where
  sameNodes : t.nodes.map (·.name) = s.nodes.map (·.name)
  nodes : ∀ u ∈ us, ∃ n, s.findNode u.name = some n ∧ t.findNode u.name =
    some (if u.isolate then (n.withUnschedulable true).tainted else n.withUnschedulable true)
  otherNodes : ∀ name, name ∉ us.map (·.name) → t.findNode name = s.findNode name
  sameWorkloads : t.workloads.map (·.key) = s.workloads.map (·.key)
  workloads : ∀ u ∈ us, u.isolate = true → ∀ r ∈ u.resources, ∃ w,
    s.findWorkload r.key = some w ∧ t.findWorkload r.key = some w.tolerant
  otherWorkloads : ∀ key, (∀ u ∈ us, u.isolate = true → key ∉ u.resources.map (·.key)) →
    t.findWorkload key = s.findWorkload key
  marked : ∀ u ∈ us, ∀ p ∈ s.pods, s.tracks u.name u.resources p = true → p.marked ∈ t.pods
  left : ∀ u ∈ us, ∀ p ∈ s.pods, p.nodeName = some u.name →
    s.tracks u.name u.resources p = false → (p ∈ t.pods ↔ Stays u s spared p)
  outside : t.pods.filter (elsewhere us) = s.pods.filter (elsewhere us)
  known : ∀ p ∈ t.pods, p ∈ s.pods ∨ (∃ q ∈ s.pods, tracked us s q = true ∧ p = q.marked) ∨
    IsDebugPod us p

section Establishing

variable {new : List String} {a b : Site}

/-- The name of a node says whether it is to be isolated. -/
theorem any_isolate (hus : (us.map (·.name)).Nodup) (hu : u ∈ us) :
    (us.any fun v => v.name == u.name && v.isolate) = u.isolate := by
  rw [Bool.eq_iff_iff, List.any_eq_true]
  constructor
  · rintro ⟨v, hv, hsame⟩
    simp only [Bool.and_eq_true, beq_iff_eq] at hsame
    rw [← List.inj_on_of_nodup_map hus hv hu hsame.1]
    exact hsame.2
  · intro hisolate
    exact ⟨u, hu, by simpa using hisolate⟩

theorem lent_iff {key : ResourceKey} :
    lent us key = true ↔ ∃ u ∈ us, u.isolate = true ∧ key ∈ u.resources.map (·.key) := by
  simp [lent]

theorem tracked_of_nodeName (hus : (us.map (·.name)).Nodup) (hu : u ∈ us)
    (hnode : p.nodeName = some u.name) : tracked us s p = s.tracks u.name u.resources p := by
  rw [Bool.eq_iff_iff, tracked, List.any_eq_true]
  constructor
  · rintro ⟨v, hv, htracks⟩
    have hname : v.name = u.name := by
      simp only [ClusterState.tracks, Bool.and_eq_true, beq_iff_eq] at htracks
      exact Option.some.inj (htracks.1.symm.trans hnode)
    rwa [List.inj_on_of_nodup_map hus hv hu hname] at htracks
  · intro htracks
    exact ⟨u, hu, htracks⟩

theorem tracked_of_elsewhere (hp : elsewhere us p = true) : tracked us s p = false := by
  refine List.any_eq_false.2 fun u hu htracks => ?_
  have hnode := List.all_eq_true.1 hp u hu
  simp only [ClusterState.tracks, Bool.and_eq_true, beq_iff_eq] at htracks
  simp [htracks.1] at hnode

theorem elsewhere_of_isDebugPod (hp : IsDebugPod us p) : elsewhere us p = false := by
  obtain ⟨u, hu, -, hp⟩ := hp
  have hnode : p.nodeName = some u.name := by
    rcases hp with rfl | rfl
    · rfl
    · exact (DebugPod.make u.name u.debug).marked_frame.2.1
  exact List.all_eq_false.2 ⟨u, hu, by simp [hnode]⟩

theorem outside_of_readied (h : Readied us s m) :
    m.pods.filter (elsewhere us) = s.pods.filter (elsewhere us) := by
  obtain ⟨added, hpods, hadded⟩ := h.pods
  have hnone : added.filter (elsewhere us) = [] := by
    refine List.filter_eq_nil_iff.2 fun p hp => ?_
    rw [elsewhere_of_isDebugPod (hadded p hp)]
    exact Bool.false_ne_true
  have hsame : ∀ p, elsewhere us (if tracked us s p then p.marked else p) = elsewhere us p := by
    intro p
    split
    · simp only [elsewhere, p.marked_frame.2.1]
    · rfl
  rw [hpods, List.filter_append, hnone, List.append_nil, List.filter_map]
  simp only [Function.comp_def, hsame]
  refine (List.map_congr_left fun p hp => ?_).trans (List.map_id _)
  rw [tracked_of_elsewhere (List.mem_filter.1 hp).2]
  rfl

theorem outside_of_vacated (hm : (a.cluster.pods.map (·.identity)).Nodup)
    (h : Vacated us new a b) :
    b.cluster.pods.filter (elsewhere us) = a.cluster.pods.filter (elsewhere us) := by
  refine (h.inOrder.filter _).eq_of_length_le ?_
  refine (List.subperm_of_subset ((List.Nodup.of_map _ hm).filter _) fun p hp => ?_).length_le
  obtain ⟨hmem, houtside⟩ := List.mem_filter.1 hp
  refine List.mem_filter.2 ⟨(h.pods p hmem).2 fun u hu hnode => ?_, houtside⟩
  have hne := List.all_eq_true.1 houtside u hu
  simp [hnode] at hne

theorem Readied.mem_pods (h : Readied us s m) (hp : p ∈ s.pods) :
    (if tracked us s p then p.marked else p) ∈ m.pods := by
  obtain ⟨added, hpods, -⟩ := h.pods
  rw [hpods]
  exact List.mem_append_left _ (List.mem_map.2 ⟨p, hp, rfl⟩)

theorem Readied.known (h : Readied us s m) (hp : p ∈ m.pods) :
    p ∈ s.pods ∨ (∃ q ∈ s.pods, tracked us s q = true ∧ p = q.marked) ∨ IsDebugPod us p := by
  obtain ⟨added, hpods, hadded⟩ := h.pods
  rw [hpods] at hp
  rcases List.mem_append.1 hp with hp | hp
  · obtain ⟨q, hq, rfl⟩ := List.mem_map.1 hp
    by_cases htracked : tracked us s q = true
    · rw [if_pos htracked]
      exact .inr (.inl ⟨q, hq, htracked, rfl⟩)
    · rw [if_neg htracked]
      exact .inl hq
  · exact .inr (.inr (hadded p hp))

/-- Whether a pod is left is decided on its own node. -/
theorem Vacated.mem_pods_iff (hus : (us.map (·.name)).Nodup) (hu : u ∈ us)
    (hnode : p.nodeName = some u.name) (hp : p ∈ a.cluster.pods) (h : Vacated us new a b) :
    p ∈ b.cluster.pods ↔ Stays u a.cluster new p := by
  rw [h.pods p hp]
  refine ⟨fun hall => hall u hu hnode, fun hstays v hv hnode' => ?_⟩
  have hname : v.name = u.name := Option.some.inj (hnode'.symm.trans hnode)
  rw [List.inj_on_of_nodup_map hus hv hu hname]
  exact hstays

theorem Vacated.findWorkload (h : Vacated us new a b) (key : ResourceKey) :
    b.cluster.findWorkload key = a.cluster.findWorkload key := by
  rw [ClusterState.findWorkload, h.workloads, ClusterState.findWorkload]

theorem established_of_vacated (hus : (us.map (·.name)).Nodup) (h : Readied us s a.cluster)
    (ha : a.spared = []) (h' : Vacated us new a b) : Established us b.spared s b.cluster where
  sameNodes := h'.sameNodes.trans h.sameNodes
  nodes u hu := by
    obtain ⟨n, hn⟩ := Option.isSome_iff_exists.1 (h.there u hu).1
    refine ⟨n, hn, ?_⟩
    rw [h'.nodes, h.nodes, hn, Option.map_some, if_pos (List.mem_map_of_mem hu), Option.map_some,
      any_isolate hus hu]
  otherNodes name hname := by
    have hnone : (us.any fun v => v.name == name && v.isolate) = false := by
      refine List.any_eq_false.2 fun v hv hsame => hname ?_
      simp only [Bool.and_eq_true, beq_iff_eq] at hsame
      exact hsame.1 ▸ List.mem_map_of_mem hv
    simp [h'.nodes, h.nodes, hname, hnone]
  sameWorkloads := by
    rw [h'.workloads]
    exact h.sameWorkloads
  workloads u hu hisolate r hr := by
    obtain ⟨w, hw⟩ := Option.isSome_iff_exists.1 ((h.there u hu).2 r hr)
    have hlent := lent_iff.2 ⟨u, hu, hisolate, List.mem_map_of_mem (f := (·.key)) hr⟩
    refine ⟨w, hw, ?_⟩
    rw [h'.findWorkload, h.workloads, hw, Option.map_some, if_pos hlent]
  otherWorkloads key hkey := by
    have hnot : lent us key = false := by
      rw [Bool.eq_false_iff, ne_eq, lent_iff]
      rintro ⟨u, hu, hisolate, hmem⟩
      exact hkey u hu hisolate hmem
    simp [h'.findWorkload, h.workloads, hnot]
  marked u hu p hp htracks := by
    have htracked : tracked us s p = true := List.any_eq_true.2 ⟨u, hu, htracks⟩
    have hmarked := h.mem_pods hp
    rw [if_pos htracked] at hmarked
    -- A marked pod stays on whatever node it is.
    refine (h'.pods _ hmarked).2 fun v _ _ => ?_
    exact .inl (Drain.skip_of_isQuarantined p.isQuarantined_marked)
  left u hu p hp hnode htracks := by
    have hspared : b.spared = new := by rw [h'.spared, ha, List.append_nil]
    have hkept := h.mem_pods hp
    rw [tracked_of_nodeName hus hu hnode, htracks, if_neg Bool.false_ne_true] at hkept
    rw [h'.mem_pods_iff hus hu hnode hkept, hspared, stays_iff_of_readied h]
  outside := (outside_of_vacated h.distinct h').trans (outside_of_readied h)
  known p hp := h.known (h'.inOrder.subset hp)

end Establishing

end Lifecycle

/-! ## A preparation and a start -/

namespace Controller

open Lifecycle Pass

variable {q : Quarantine} {timeout : Nat} {s : ClusterState} {l₁ l₂ : Lifecycle} {m t : Site}

/-- Nodes are closed, and tainted exactly if they are to be isolated or had been tainted.  The pods
that they track are there and marked, and the workloads that isolated nodes track tolerate the
taint. -/
structure Isolated (us : List Target) (s t : ClusterState) : Prop where
  nodes : ∀ u ∈ us, ∃ n n', s.findNode u.name = some n ∧ t.findNode u.name = some n' ∧
    n'.isUnschedulable = true ∧ (Repelling.hasTaint n'.taints = true ↔
      u.isolate = true ∨ Repelling.hasTaint n.taints = true)
  pods : ∀ u ∈ us, ∀ p ∈ s.pods, s.tracks u.name u.resources p = true →
    ∃ p' ∈ t.pods, p'.identity = p.identity ∧ p'.nodeName = some u.name ∧
      Marking.isQuarantined p' = true
  workloads : ∀ u ∈ us, u.isolate = true → ∀ r ∈ u.resources, ∃ w,
    t.findWorkload r.key = some w ∧ Repelling.hasToleration w.tolerations = true

theorem tainted_frame (n : Node) : Repelling.hasTaint n.tainted.taints = true ∧
    n.tainted.isUnschedulable = n.isUnschedulable := by
  unfold Node.tainted
  by_cases htaint : Repelling.hasTaint n.taints = true
  · rw [if_pos htaint]
    exact ⟨htaint, rfl⟩
  · rw [if_neg htaint]
    simp [Repelling.hasTaint, Repelling.isQuarantineTaint, Repelling.quarantineTaint]

theorem isolated_of_established {us : List Target} {spared : List String} {t : ClusterState}
    (h : Established us spared s t) : Isolated us s t where
  nodes u hu := by
    obtain ⟨n, hn, hn'⟩ := h.nodes u hu
    refine ⟨n, _, hn, hn', ?_⟩
    cases u.isolate with
    | true =>
      obtain ⟨htaint, hclosed⟩ := tainted_frame (n.withUnschedulable true)
      rw [if_pos rfl]
      exact ⟨hclosed, by simp [htaint]⟩
    | false =>
      rw [if_neg Bool.false_ne_true, Node.taints_withUnschedulable]
      exact ⟨rfl, by simp⟩
  pods u hu p hp htracks := by
    have hnode : p.nodeName = some u.name := by
      simp only [ClusterState.tracks, Bool.and_eq_true, beq_iff_eq] at htracks
      exact htracks.1
    exact ⟨p.marked, h.marked u hu p hp htracks, p.marked_frame.1,
      p.marked_frame.2.1.trans hnode, p.isQuarantined_marked⟩
  workloads u hu hisolate r hr := by
    obtain ⟨w, -, hw⟩ := h.workloads u hu hisolate r hr
    exact ⟨w.tolerant, hw, w.hasToleration_tolerant⟩

theorem marked_new_eq_nil (h : ∀ o ∈ q.observedNodes, ∃ n ∈ q.spec.nodes, n.name = o.name) :
    (new q timeout).marked = [] := by
  refine List.eq_nil_iff_forall_not_mem.2 fun u hu => ?_
  obtain ⟨o, ho, hdropped, -⟩ := Lifecycle.mem_marked_new.1 hu
  obtain ⟨n, hn, hname⟩ := h o ho
  exact hdropped n hn hname

theorem phase_of_allows_preparing {phase : Phase} (h : phase.allows .preparing = true) :
    phase = .idle := by
  cases phase with
  | idle => rfl
  | _ => cases h

theorem prepared_of_prepare (hmarked : (new q timeout).marked = []) {a : Site}
    (h : prepare.Attains (new q timeout) a () l₁ m) : (new q timeout).phase = .idle ∧
      l₁ = ((new q timeout).inPhase .preparing).undropped ∧
      ∃ k, ((new q timeout).nodes.forM prepareNode).Attains k a () l₁ m := by
  obtain ⟨_, k, d, hadvance, hrest⟩ := attains_bind h
  obtain ⟨hallows, rfl, rfl⟩ := attains_advance hadvance
  have hphase := phase_of_allows_preparing hallows
  refine ⟨hphase, eq_of_gives (inSteps_prepare hphase).2 h, ?_⟩
  -- There is no node to reverse.
  obtain ⟨_, k, e, hreverse, hrest⟩ := attains_bind hrest
  cases eq_of_gives gives_reverseMarked hreverse
  have hreverse := attains_get.1 hreverse
  rw [show ((new q timeout).inPhase .preparing).marked = [] from hmarked] at hreverse
  cases (attains_pure hreverse).2
  have hprepare := attains_get.1 hrest
  rw [undropped_eq] at hprepare
  exact ⟨_, hprepare⟩

theorem observedNodes_of_start (hnames : (q.spec.nodes.map (·.name)).Nodup)
    (hphase : (new q timeout).phase = .idle)
    (h : start.Attains ((new q timeout).inPhase .preparing).undropped m () l₂ t) :
    l₂.observedNodes = q.spec.nodes.map fun n => (Target.resolve n q.spec).observed := by
  have hnodes : ((new q timeout).nodes.map (·.name)).Nodup := by
    rw [names_new]
    exact hnames
  have hapart : ∀ u ∈ (new q timeout).marked, ∀ n ∈ (new q timeout).nodes, u.name ≠ n.name :=
    fun u hu n hn => ne_of_mem_marked_new hu hn
  have hinactive : (new q timeout).wasActive = false := by
    cases hactive : q.isActive with
    | false => exact hactive
    | true => simp [new, hactive, Phase.ofActive] at hphase
  have hsettled : (new q timeout).settled = (new q timeout).placed := by
    rw [settled, hinactive]
    rfl
  have hl₂ : l₂ = (new q timeout).placed := by
    rw [eq_of_gives (inSteps_start (phase_undropped _)).2 h, placed, undropped_eq]
    rfl
  have hrecords := (records_placed hapart hnodes).1
  have hobserved := observedNodes_settled hapart hnodes
  rw [hsettled] at hobserved
  rw [hl₂, hobserved, List.filterMap_congr hrecords]
  simp [new]

/-- A request for nodes of different names, with no others on record and none of them isolated, on a
cluster that tells its pods apart and heeds their labels.  If a preparation and then a start return
then the nodes are isolated, all that is to stay is there, all else on them is gone, and every node
is on record. -/
theorem establishes (hnames : (q.spec.nodes.map (·.name)).Nodup)
    (hrecords : ∀ o ∈ q.observedNodes, ∃ n ∈ q.spec.nodes, n.name = o.name)
    (hfresh : ∀ n ∈ q.spec.nodes, ∀ node, s.findNode n.name = some node →
      (node.isUnschedulable && Repelling.hasTaint node.taints) = false)
    (hpods : (s.pods.map (·.identity)).Nodup) (hlabels : s.ignoresLabels = false)
    (hprepare : prepare.Attains (new q timeout) (.new s) () l₁ m)
    (hstart : start.Attains l₁ m () l₂ t) :
    Isolated (new q timeout).nodes s t.cluster ∧
      Established (new q timeout).nodes t.spared s t.cluster ∧
      l₂.observedNodes = q.spec.nodes.map fun n => (Target.resolve n q.spec).observed := by
  have hus : ((new q timeout).nodes.map (·.name)).Nodup := by
    rw [names_new]
    exact hnames
  have hunisolated : ∀ u ∈ (new q timeout).nodes, Unisolated s u := by
    intro u hu node hnode
    obtain ⟨n, hn, rfl⟩ := mem_nodes_new.1 hu
    exact hfresh n hn node hnode
  obtain ⟨hphase, rfl, k, hall⟩ := prepared_of_prepare (marked_new_eq_nil hrecords) hprepare
  obtain ⟨hspared, hreadied⟩ := readied_of_prepareAll hpods hlabels hus hunisolated hall
  have hobserved := observedNodes_of_start hnames hphase hstart
  obtain ⟨_, _, _, hadvance, hrest⟩ := attains_bind hstart
  obtain ⟨-, rfl, rfl⟩ := attains_advance hadvance
  have hempty := attains_get.1 hrest
  rw [undropped_eq] at hempty
  obtain ⟨new, hvacated⟩ := vacated_of_startAll hreadied.distinct hus hempty
  have hestablished := established_of_vacated hus hreadied hspared hvacated
  exact ⟨isolated_of_established hestablished, hestablished, hobserved⟩

namespace Sample

def controlled (p : Pod) : Pod :=
  { p with metadata := { p.metadata with
      ownerReferences := some [⟨"apps/v1", none, some true, "ReplicaSet", "r", "u"⟩] } }

/-- On the first node a pod of the workload, a pod that may be evicted and one that may not be
removed; and a pod on the second node. -/
def crowded : ClusterState :=
  { cluster with
    workloads := [⟨workload.key, none, .singleton "app" "a", [], .empty⟩]
    pods := [pod "a" "w1" (.singleton "app" "a"), controlled (pod "b" "w1" .empty),
      pod "c" "w1" .empty, pod "d" "w2" .empty] }

/-- A request for the first node that passes over errors of single pods. -/
def lenient : Quarantine :=
  ⟨{ Kube.ObjectMeta.blank with name := some "m", namespaceName := some "ns" },
    { request [ask "w1" true [workload]] with
      flags := { DrainFlags.unset with ignoreErrors := some true } }, none⟩

def readied : (Except ControllerError Unit × Lifecycle) × Site :=
  (prepare.run.run (new lenient 10)).run Site.answer (.new crowded)

def started : (Except ControllerError Unit × Lifecycle) × Site :=
  (Lifecycle.start.run.run readied.1.2).run Site.answer readied.2

end Sample

open Sample in
/-- The pod of the workload is marked and stays, the second one is gone, and the third one stays
as it may not be removed and errors are passed over. -/
theorem establishes_crowded :
    Established (new lenient 10).nodes started.2.spared crowded started.2.cluster ∧
      started.2.cluster.pods.map (fun p => (p.name, Marking.isQuarantined p)) =
        [("a", true), ("c", false), ("d", false)] ∧
      (started.2.cluster.findNode "w1").map (fun n => (n.isUnschedulable, n.taints)) =
        some (true, [Repelling.quarantineTaint]) ∧
      started.1.2.observedNodes = [⟨"w1", true, [workload]⟩] := by
  have hprepare := attains_answer (p := prepare) (l := new lenient 10) (s := .new crowded)
    (a := ()) (by decide +kernel)
  have hstart := attains_answer (p := Lifecycle.start) (l := readied.1.2) (s := readied.2) (a := ())
    (by decide +kernel)
  obtain ⟨-, hestablished, -⟩ := establishes (q := lenient) (s := crowded)
    (by decide) (by decide) (by decide +kernel) (by decide +kernel) rfl hprepare hstart
  exact ⟨hestablished, by decide +kernel, by decide +kernel, by decide +kernel⟩

end Controller

end Cordon
