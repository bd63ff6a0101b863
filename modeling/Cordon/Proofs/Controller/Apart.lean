import Cordon.Proofs.Controller.Commission
import Cordon.Proofs.Controller.Dismantling
import Cordon.Proofs.Isolation.Region

/-! # Quarantines that have nothing in common

Two quarantines are *apart* if they know no node and track no workload in common.  A reconcile of
one leaves the nodes and workloads of the other as they are, whatever calls fail and wherever it is
broken off (`requests_apart`).  It leaves the pods on these nodes too, but for two kinds: the
reconcile of a deleted quarantine sweeps marked pods from all nodes, and a debug pod is deleted by
its name, on whatever node it is.
-/

namespace Cordon.Controller

open Lifecycle (new visited mem_nodes_new mem_marked_new debugIdentity)

variable {others : ClusterState → ClusterState → Prop} {timing : Timing} {ns name : String}
  {q A B : Quarantine} {s t : Scene} {h : Dialogue Effects} {u : Target} {timeout : Nat}

/-- A workload is tracked on a node of the request, or on record. -/
def Tracked (q : Quarantine) (key : ResourceKey) : Prop :=
  (∃ n ∈ q.spec.nodes, ∃ r ∈ ResourceRef.merge n.resources q.spec.resources, r.key = key) ∨
    ∃ o ∈ q.observedNodes, ∃ r ∈ o.resources, r.key = key

/-- What a quarantine is about. -/
def region (q : Quarantine) : Region := ⟨Known q, Tracked q⟩

/-- A pod that a reconcile removes from whatever node it is on. -/
def Swept (q : Quarantine) (p : Kube.Pod) : Prop :=
  (q.isDeleting = true ∧ Marking.isQuarantined p = true) ∨
    ∃ node, Known q node ∧ p.identity = debugPodOf q node

/-- Two quarantines know no node and track no workload in common. -/
structure Apart (A B : Quarantine) : Prop where
  nodes : ∀ node, Known A node → ¬ Known B node
  workloads : ∀ key, Tracked A key → ¬ Tracked B key

/-! ## What a quarantine commissions keeps off the other one -/

theorem known_of_visited (hu : u ∈ (new q timeout).visited) : Known q u.name :=
  (known_iff_visited timeout).2 (List.mem_map_of_mem hu)

theorem tracked_of_visited (hu : u ∈ (new q timeout).visited) {r : ResourceRef}
    (hr : r ∈ u.resources) : Tracked q r.key := by
  rcases List.mem_append.1 hu with hu | hu
  · obtain ⟨n, hn, rfl⟩ := mem_nodes_new.1 hu
    exact .inl ⟨n, hn, r, Target.mem_resources_ofResources.1 hr, rfl⟩
  · obtain ⟨o, ho, -, rfl⟩ := mem_marked_new.1 hu
    exact .inr ⟨o, ho, r, Target.mem_resources_ofResources.1 hr, rfl⟩

/-- A query for pods of a node finds none on a node that only the other quarantine knows. -/
theorem not_hosts_of_selects (hapart : Apart A B) {node : String} (hknown : Known A node)
    {s : ClusterState} {f : PodFilter} {p : Kube.Pod} (hf : f.nodeName = some node)
    (hselects : s.selects f p = true) : ¬ (region B).Hosts p := by
  rintro ⟨node', hnode', hB⟩
  cases hnode'.symm.trans (nodeName_of_selects hselects hf)
  exact hapart.nodes _ hknown hB

theorem keepsOff_shaping (hapart : Apart A B) (hu : u ∈ (new A timeout).nodes) :
    (Errand.shaping u).KeepsOff (region B) (Swept A) := by
  have hvisited : u ∈ (new A timeout).visited := List.mem_append_left _ hu
  have hfree := hapart.nodes _ (known_of_visited hvisited)
  exact {
    nodes := fun _ hn => hn ▸ hfree
    closes := fun _ hn => hn ▸ hfree
    reopens := fun _ hn => hn.elim
    workloads := fun _ ⟨r, hr, hkey⟩ => hkey ▸ hapart.workloads _ (tracked_of_visited hvisited hr)
    marks := fun _ hf => ⟨_, hf, hfree⟩
    removes := fun _ hf _ _ _ hselects hhosts => by
      subst hf
      exact absurd hhosts (not_hosts_of_selects hapart (known_of_visited hvisited) rfl hselects)
    deploys := fun _ ht => ht ▸ hfree
    recalls := fun _ ht => ht.elim }

theorem keepsOff_reverting (hapart : Apart A B) (hu : u ∈ (new A timeout).visited) :
    (Errand.reverting u).KeepsOff (region B) (Swept A) := by
  have hfree := hapart.nodes _ (known_of_visited hu)
  exact {
    nodes := fun _ hn => hn ▸ hfree
    closes := fun _ hn => hn.elim
    reopens := fun _ hn => hn ▸ hfree
    workloads := fun _ ⟨r, hr, hkey⟩ => hkey ▸ hapart.workloads _ (tracked_of_visited hu hr)
    marks := fun _ hf => hf.elim
    removes := fun _ hf _ _ _ hselects hhosts => by
      subst hf
      exact absurd hhosts (not_hosts_of_selects hapart (known_of_visited hu) rfl hselects)
    deploys := fun _ ht => ht.elim
    recalls := fun _ ht p _ hidentity => by
      subst ht
      exact .inr ⟨_, known_of_visited hu, hidentity.trans (debugIdentity_of_visited hu)⟩ }

theorem keepsOff_stripping (hapart : Apart A B) {o : ObservedNode} (ho : o ∈ A.observedNodes) :
    (Errand.stripping o.resources).KeepsOff (region B) (Swept A) where
  nodes _ hn := hn.elim
  closes _ hn := hn.elim
  reopens _ hn := hn.elim
  workloads _ := fun ⟨r, hr, hkey⟩ => hapart.workloads _ (.inr ⟨o, ho, r, hr, hkey⟩)
  marks _ hf := hf.elim
  removes _ hf := hf.elim
  deploys _ ht := ht.elim
  recalls _ ht := ht.elim

theorem keepsOff_sweeping (hdeleting : A.isDeleting = true) :
    Errand.sweeping.KeepsOff (region B) (Swept A) where
  nodes _ hn := hn.elim
  closes _ hn := hn.elim
  reopens _ hn := hn.elim
  workloads _ hw := hw.elim
  marks _ hf := hf.elim
  removes := fun _ hf s p hlabels hselects _ => by
    subst hf
    rw [Isolation.selects_marked hlabels] at hselects
    exact .inl ⟨hdeleting, hselects⟩
  deploys _ ht := ht.elim
  recalls _ ht := ht.elim

theorem keepsOff_commission (hapart : Apart A B) :
    (commission A).KeepsOff (region B) (Swept A) := by
  refine Errand.keepsOff_all fun E hE => ?_
  unfold Commissions at hE
  split at hE
  · next hdeleting =>
    -- Only the sweep is about pods wherever they are, and only a deleted quarantine sweeps.
    rcases hE with ⟨u, hu, rfl⟩ | rfl
    · exact keepsOff_reverting hapart hu
    · exact keepsOff_sweeping hdeleting
  · rcases hE with ⟨n, hn, rfl⟩ | ⟨u, hu, rfl⟩ | ⟨o, ho, rfl⟩
    · exact keepsOff_shaping hapart hn
    · exact keepsOff_reverting hapart (List.mem_append_right _ hu)
    · exact keepsOff_stripping hapart ho

/-! ## Reconciles -/

/-- A reconcile of a quarantine leaves the nodes and workloads of one that is apart from it.  On
these nodes there is no pod after the reconcile that was not there before, and of those that were
there only such are gone as are swept. -/
theorem requests_apart (hapart : Apart A B)
    (hothers : ∀ c d, others c d → Unharmed (region B) (fun _ => False) c d)
    (hdistinct : s.cluster.Distinct) (hlabels : s.cluster.ignoresLabels = false)
    (hflights : s.flights = []) (hstored : stored ns name s = some A)
    (ho : (reconcile timing (some ns) name).run.Opens h) (hf : Follows (Answers others) s h t) :
    (∀ node, Known B node → t.cluster.findNode node = s.cluster.findNode node) ∧
    (∀ key, Tracked B key → t.cluster.findWorkload key = s.cluster.findWorkload key) ∧
    ∀ p node, p.nodeName = some node → Known B node →
      (p ∈ t.cluster.pods → p ∈ s.cluster.pods) ∧
      (p ∈ s.cluster.pods → p ∈ t.cluster.pods ∨ Swept A p) := by
  have hgrounded : Grounded (commission A).Allows ∅ h := by
    cases hloaded : loaded h with
    | none =>
      -- The look-up in the store has failed, so there is no pass.
      exact grounded_of_silent fun e he =>
        not_calls_of_onCluster (absent_of_opens ho hloaded e he).1
    | some q =>
      cases hstored.symm.trans (stored_of_loaded ho hf hloaded)
      exact grounded_of_opens ho hloaded ∅
  have hunharmed := unharmed_of_grounded (keepsOff_commission hapart) hothers hdistinct hlabels
    hflights hf hgrounded
  exact ⟨hunharmed.node, hunharmed.workload, fun p node hnode hknown =>
    ⟨fun hp => hunharmed.came p hp ⟨node, hnode, hknown⟩,
      fun hp => hunharmed.stays p hp ⟨node, hnode, hknown⟩⟩⟩

namespace Sample

/-- A quarantine of the other node. -/
def neighbour : Quarantine :=
  ⟨{ Kube.ObjectMeta.blank with name := some "n", namespaceName := some "ns" },
    request [ask "w2" true []], none⟩

def marked : Kube.Pod := pod "a" "w2" (.singleton Convention.sentinelKey Convention.sentinelValue)

/-- A pod that is named like the debug pod of the first node. -/
def namesake : Kube.Pod := pod "quarantine-debug-w1" "w2" .empty

def plain : Kube.Pod := pod "b" "w2" .empty

/-- Pods on the node of the neighbour. -/
def crowd : ClusterState := { cluster with pods := [marked, namesake, plain] }

/-- A quarantine of the first node, with its debug pods in the namespace of the crowd. -/
def settled : Scene := (reconciled (respecified "ns" "m" (start [])
  { request [ask "w1" true []] with debug := ⟨true, "busybox", "prod"⟩ })).drift crowd

/-- The quarantine of the first node is deleted. -/
def departing : Scene := deleted "ns" "m" settled "now"

theorem known_departing (hA : stored "ns" "m" departing = some A) :
    A.spec.debug.namespaceName = "prod" ∧ ∀ node, Known A node → node = "w1" := by
  have hall : ∀ q ∈ stored "ns" "m" departing, q.spec.debug.namespaceName = "prod" ∧
      (∀ n ∈ q.spec.nodes, n.name = "w1") ∧ q.observedNodes = [] := by
    decide +kernel
  obtain ⟨hdebug, hnodes, hrecords⟩ := hall A hA
  refine ⟨hdebug, ?_⟩
  rintro node (⟨n, hn, rfl⟩ | ⟨o, ho, -⟩)
  · exact hnodes n hn
  · rw [hrecords] at ho
    cases ho

theorem apart_departing (hA : stored "ns" "m" departing = some A) : Apart A neighbour where
  nodes := by
    rintro node hknown (⟨n, hn, rfl⟩ | ⟨o, ho, -⟩)
    · cases List.mem_singleton.1 hn
      exact absurd ((known_departing hA).2 "w2" hknown) (by decide)
    · cases ho
  workloads := by
    rintro key - (⟨n, hn, r, hr, -⟩ | ⟨o, ho, -⟩)
    · cases List.mem_singleton.1 hn
      cases hr
    · cases ho

theorem distinct_departing : departing.cluster.Distinct :=
  (by decide : (crowd.pods.map (·.identity)).Nodup)

/-- A pod with another name is not a debug pod of the quarantine. -/
theorem identity_ne_debugPodOf (hA : stored "ns" "m" departing = some A) {p : Kube.Pod}
    (hp : p.identity ≠ "prod/quarantine-debug-w1") (node : String) (hknown : Known A node) :
    p.identity ≠ debugPodOf A node := by
  obtain ⟨hdebug, hnames⟩ := known_departing hA
  cases hnames node hknown
  rw [debugPodOf, hdebug]
  exact hp

/-- Some of the pods on nodes of a quarantine that is apart are left. -/
def SparesPods (which : Quarantine → Kube.Pod → Prop) : Prop :=
  ∀ (A B : Quarantine) (s : Scene), Apart A B → s.cluster.Distinct →
    s.cluster.ignoresLabels = false → s.flights = [] → stored "ns" "m" s = some A →
    ∀ p node, p.nodeName = some node → Known B node → which A p → p ∈ s.cluster.pods →
      p ∈ (reconciled s).cluster.pods

end Sample

open Sample in
/-- A quarantine that is deleted leaves its neighbour. -/
theorem requests_apart_of_departing :
    (reconciled departing).cluster.findNode "w2" = departing.cluster.findNode "w2" ∧
    plain ∈ (reconciled departing).cluster.pods := by
  have hsome : (stored "ns" "m" departing).isSome = true := by decide +kernel
  obtain ⟨A, hA⟩ := Option.isSome_iff_exists.1 hsome
  obtain ⟨hnodes, -, hpods⟩ := requests_apart (apart_departing hA)
    (fun _ _ (h : nobody _ _) => h.elim) distinct_departing rfl rfl hA
    (Program.speaks_transcript Scene.answer (reconcile Sample.timing (some "ns") "m").run
      departing).opens
    (follows_transcript (Scene.answers_answer nobody) _ _)
  have hknown : Known neighbour "w2" := by decide
  refine ⟨hnodes "w2" hknown, ((hpods plain "w2" rfl hknown).2 (by decide)).resolve_right ?_⟩
  rintro (⟨-, hmarked⟩ | ⟨node, hnode, hidentity⟩)
  · exact absurd hmarked (by decide)
  · exact identity_ne_debugPodOf hA (by decide) node hnode hidentity

open Sample in
/-- Not all pods are left, not even all that are not marked, or all that are not named like a debug
pod. -/
theorem not_requests_apart :
    ¬ SparesPods (fun _ p => Marking.isQuarantined p = false) ∧
    ¬ SparesPods (fun A p => ∀ node, Known A node → p.identity ≠ debugPodOf A node) := by
  have hsome : (stored "ns" "m" departing).isSome = true := by decide +kernel
  obtain ⟨A, hA⟩ := Option.isSome_iff_exists.1 hsome
  have hknown : Known neighbour "w2" := by decide
  have hgone : marked ∉ (reconciled departing).cluster.pods ∧
      namesake ∉ (reconciled departing).cluster.pods := by decide +kernel
  refine ⟨fun h => hgone.2 ?_, fun h => hgone.1 ?_⟩
  · exact h A neighbour departing (apart_departing hA) distinct_departing rfl rfl hA namesake "w2"
      rfl hknown (show Marking.isQuarantined namesake = false by decide) (by decide)
  · exact h A neighbour departing (apart_departing hA) distinct_departing rfl rfl hA marked "w2"
      rfl hknown (identity_ne_debugPodOf hA (by decide)) (by decide)

end Cordon.Controller
