import Cordon.Proofs.Controller.Dismantling
import Cordon.Proofs.Lifecycle.Phases

/-! # Stopping where nothing was done

A cluster that a quarantine has left no trace on (`Untraced`) has no taint, no toleration, no debug
pod and no marked pod of it.  All steps of a stop but one look for such a trace and find none there;
the one that opens a node does not look.  So a stop opens the nodes that the quarantine knows and
does nothing else (`dismantled_untraced`), and the cluster stays as it is if and only if none of
these nodes was closed by somebody else (`stop_untraced`).
-/

namespace Cordon

open Kube (Node Pod)

/-! ## Opening nodes -/

namespace ClusterState

/-- Some nodes are opened, one after the other. -/
def openNodes (s : ClusterState) (names : List String) : ClusterState :=
  names.foldl (fun s name => s.changeNode name (·.withUnschedulable false)) s

variable {s : ClusterState} {names : List String}

theorem openNodes_frame (s : ClusterState) (names : List String) :
    (s.openNodes names).pods = s.pods ∧ (s.openNodes names).workloads = s.workloads ∧
      (s.openNodes names).ignoresLabels = s.ignoresLabels := by
  induction names generalizing s with
  | nil => exact ⟨rfl, rfl, rfl⟩
  | cons name rest ih => exact ih (s.changeNode name (·.withUnschedulable false))

theorem findNode_openNodes (s : ClusterState) (names : List String) (name : String) :
    (s.openNodes names).findNode name =
      (s.findNode name).map fun n => if name ∈ names then n.withUnschedulable false else n := by
  induction names generalizing s with
  | nil => simp [openNodes]
  | cons first rest ih =>
    have hhead := findNode_changeNode s (Node.name_withUnschedulable · false) first name
    rw [openNodes, List.foldl_cons, ← openNodes, ih, hhead]
    by_cases heq : first = name
    · by_cases hrest : name ∈ rest
      · simp [heq, hrest, Function.comp_def, Node.withUnschedulable, Node.specOrBlank]
      · simp [heq, hrest, Function.comp_def]
    · simp [heq, Ne.symm heq]

/-- Nothing changes if and only if the nodes say already that they are open. -/
theorem openNodes_eq_iff :
    s.openNodes names = s ↔
      ∀ name ∈ names, ∀ n, s.findNode name = some n → n.withUnschedulable false = n := by
  constructor
  · intro h name hname n hn
    have hfind := findNode_openNodes s names name
    rw [h, hn, Option.map_some, if_pos hname] at hfind
    exact (Option.some.inj hfind).symm
  · intro h
    induction names with
    | nil => rfl
    | cons name rest ih =>
      have hsame : s.changeNode name (·.withUnschedulable false) = s :=
        changeNode_of_fixed (h name List.mem_cons_self)
      rw [openNodes, List.foldl_cons, hsame]
      exact ih fun other hother => h other (List.mem_cons_of_mem _ hother)

end ClusterState

/-! ## Nothing to undo -/

namespace Lifecycle

open ClusterState

variable {s : ClusterState} {u : Target} {l : Lifecycle}

/-- There is nothing on a cluster that a stop would have to undo on a node, save perhaps that the
node is closed. -/
structure Bare (s : ClusterState) (u : Target) : Prop where
  untainted : ∀ n, s.findNode u.name = some n → Repelling.hasTaint n.taints = false
  intolerant : ∀ r ∈ u.resources, ∀ w, s.findWorkload r.key = some w →
    Repelling.hasToleration w.tolerations = false
  undebugged : s.findPod (debugIdentity u) = none
  unmarked : ∀ p ∈ s.pods, Marking.isQuarantined p = false
  ignoresLabels : s.ignoresLabels = false

theorem changeEach_of_intolerant {resources : List ResourceRef}
    (h : ∀ r ∈ resources, ∀ w, s.findWorkload r.key = some w →
      Repelling.hasToleration w.tolerations = false) :
    s.changeEach resources Workload.stripped = s := by
  induction resources with
  | nil => rfl
  | cons r rest ih =>
    have hsame : s.changeWorkload r.key Workload.stripped = s :=
      changeWorkload_of_fixed fun w hw =>
        w.stripped_of_intolerant (h r List.mem_cons_self w hw)
    rw [changeEach, List.foldl_cons, hsame]
    exact ih fun r' hr' => h r' (List.mem_cons_of_mem _ hr')

/-- Where no pod is marked no pod is asked for by a query for marked pods. -/
theorem clear_of_unmarked {f : PodFilter} (h : ∀ p ∈ s.pods, s.selects f p = false) :
    s.clear f = s := by
  have hnone : s.pods.filter (s.selects f) = [] :=
    List.filter_eq_nil_iff.2 fun p hp => by simp [h p hp]
  rw [clear, hnone]
  rfl

/-- To undo a node that is bare is to open it. -/
theorem undone_of_bare (h : Bare s u) :
    undone s u = s.changeNode u.name (·.withUnschedulable false) := by
  have huntainted : s.changeNode u.name Node.untainted = s :=
    changeNode_of_fixed fun n hn => by
      rw [Node.untainted, h.untainted n hn, if_neg Bool.false_ne_true]
  have hunrepelled : unrepelled s u = s := by
    rw [unrepelled, huntainted, changeEach_of_intolerant h.intolerant]
  have hunmarked : unmarked s u = s := by
    rw [unmarked, removePod_of_absent h.undebugged]
    refine clear_of_unmarked fun p hp => ?_
    rw [Isolation.selects_markedOnNode h.ignoresLabels, h.unmarked p hp, Bool.and_false]
  rw [undone, hunrepelled, hunmarked]

theorem Bare.opened (h : Bare s u) (name : String) :
    Bare (s.changeNode name (·.withUnschedulable false)) u where
  untainted n hn := by
    rw [findNode_changeNode s (Node.name_withUnschedulable · false)] at hn
    split at hn
    · obtain ⟨n₀, hn₀, rfl⟩ := Option.map_eq_some_iff.1 hn
      rw [Node.taints_withUnschedulable]
      exact h.untainted n₀ hn₀
    · exact h.untainted n hn
  intolerant := h.intolerant
  undebugged := h.undebugged
  unmarked := h.unmarked
  ignoresLabels := h.ignoresLabels

theorem foldl_undone {us : List Target} (h : ∀ u ∈ us, Bare s u) :
    us.foldl undone s = s.openNodes (us.map (·.name)) := by
  induction us generalizing s with
  | nil => rfl
  | cons u rest ih =>
    rw [List.foldl_cons, undone_of_bare (h u List.mem_cons_self)]
    exact ih fun u' hu' => (h u' (List.mem_cons_of_mem _ hu')).opened u.name

/-- To dismantle what was not put up is to open all nodes. -/
theorem dismantled_untraced (h : ∀ u ∈ l.visited, Bare s u)
    (hmarked : ∀ p ∈ s.pods, Marking.isQuarantined p = false) (hlabels : s.ignoresLabels = false) :
    l.dismantled s = s.openNodes (l.visited.map (·.name)) := by
  obtain ⟨hpods, -, hignores⟩ := openNodes_frame s (l.visited.map (·.name))
  rw [dismantled, foldl_undone h]
  refine clear_of_unmarked fun p hp => ?_
  rw [hpods] at hp
  rw [Isolation.selects_marked (hignores.trans hlabels), hmarked p hp]

end Lifecycle

/-! ## A stop -/

namespace Controller

open Lifecycle (stop new visited)

variable {q : Quarantine} {timeout : Nat} {l : Lifecycle} {w : World}

/-- A cluster bears no trace of a quarantine. Whether its nodes are closed is left open. -/
structure Untraced (q : Quarantine) (s : ClusterState) : Prop where
  untainted : ∀ name n, Known q name → s.findNode name = some n →
    Repelling.hasTaint n.taints = false
  intolerant : ∀ key w, Listed q key → s.findWorkload key = some w →
    Repelling.hasToleration w.tolerations = false
  undebugged : ∀ node, Known q node → s.findPod (debugPodOf q node) = none
  unmarked : ∀ p ∈ s.pods, Marking.isQuarantined p = false

theorem bare_of_untraced {s : ClusterState} {u : Target} (h : Untraced q s)
    (hlabels : s.ignoresLabels = false) (hu : u ∈ (new q timeout).visited) :
    Lifecycle.Bare s u where
  untainted n hn :=
    h.untainted u.name n ((known_iff_visited timeout).2 (List.mem_map_of_mem hu)) hn
  intolerant r hr w hw :=
    h.intolerant r.key w ((listed_iff_visited timeout).2
      (List.mem_flatMap.2 ⟨u, hu, List.mem_map_of_mem hr⟩)) hw
  undebugged := by
    rw [debugIdentity_of_visited hu]
    exact h.undebugged u.name ((known_iff_visited timeout).2 (List.mem_map_of_mem hu))
  unmarked := h.unmarked
  ignoresLabels := hlabels

/-- A stop where a quarantine has left no trace, at any phase but the last, returns and leaves all
workloads, all pods and all nodes that the quarantine does not know as they are.  The nodes that it
knows are opened.  So the cluster is as it was if and only if these nodes said before that they are
open, and every node takes pods as it did if and only if none of these was closed. -/
theorem stop_untraced (hl : Lifecycle.Concerns (new q timeout).nodes (new q timeout).marked l)
    (hphase : l.phase ≠ .stopped) (hfaults : w.faults = [])
    (hlabels : w.cluster.ignoresLabels = false) (hs : Untraced q w.cluster) :
    ∃ l' w', w.runEffects (stop.run.run l) = ((.ok (), l'), w') ∧ w'.shelf = w.shelf ∧
      w'.cluster.pods = w.cluster.pods ∧ w'.cluster.workloads = w.cluster.workloads ∧
      (∀ name, w'.cluster.findNode name = (w.cluster.findNode name).map fun n =>
        if Known q name then n.withUnschedulable false else n) ∧
      (w'.cluster = w.cluster ↔ ∀ name n, Known q name → w.cluster.findNode name = some n →
        n.withUnschedulable false = n) ∧
      ((∀ name n n', w.cluster.findNode name = some n → w'.cluster.findNode name = some n' →
          n'.isUnschedulable = n.isUnschedulable) ↔
        ∀ name n, Known q name → w.cluster.findNode name = some n → n.isUnschedulable = false) := by
  have hallows : l.phase.allows .stopped = true :=
    Bool.eq_true_of_not_eq_false (mt Phase.allows_stopped.1 hphase)
  have hvisited : l.visited = (new q timeout).visited := by
    rw [visited, hl.1, hl.2, visited]
  obtain ⟨w', hrun, -, hcluster, hshelf⟩ :=
    Lifecycle.does_stop hallows w w.shelf ⟨hfaults, rfl, rfl⟩
  rw [Lifecycle.dismantled_untraced (fun u hu => bare_of_untraced hs hlabels (hvisited ▸ hu))
    hs.unmarked hlabels, hvisited] at hcluster
  obtain ⟨hpods, hworkloads, -⟩ := ClusterState.openNodes_frame w.cluster
    ((new q timeout).visited.map (·.name))
  have hfind : ∀ name, w'.cluster.findNode name = (w.cluster.findNode name).map fun n =>
      if Known q name then n.withUnschedulable false else n := by
    intro name
    simp only [hcluster, ClusterState.findNode_openNodes, known_iff_visited timeout]
  refine ⟨_, w', hrun, hshelf, ?_, ?_, hfind, ?_, ?_⟩
  · rw [hcluster, hpods]
  · rw [hcluster, hworkloads]
  · rw [hcluster, ClusterState.openNodes_eq_iff]
    simp only [known_iff_visited timeout]
    exact ⟨fun h name n hname => h name hname n, fun h name hname n => h name n hname⟩
  · constructor
    · intro h name n hknown hn
      have hopened : w'.cluster.findNode name = some (n.withUnschedulable false) := by
        rw [hfind, hn, Option.map_some, if_pos hknown]
      exact (h name n _ hn hopened).symm
    · intro h name n n' hn hn'
      rw [hfind, hn, Option.map_some, Option.some.injEq] at hn'
      subst hn'
      by_cases hknown : Known q name
      · rw [if_pos hknown, h name n hknown hn]
        rfl
      · rw [if_neg hknown]

namespace Sample

/-- Of two nodes the one that nobody asks for is closed. -/
def apartWorld : World :=
  .new { cluster with
    nodes := [(node "w1").withUnschedulable false, (node "w2").withUnschedulable true] } [] []

/-- The requested node has been closed by its administrator. -/
def closedWorld : World :=
  .new { cluster with nodes := [(node "w1").withUnschedulable true, node "w2"] } [] []

/-- A request for one node that has not been acted on. -/
def pending : Quarantine :=
  ⟨{ Kube.ObjectMeta.blank with name := some "m", namespaceName := some "ns" },
    request [ask "w1" true [workload]], none⟩

theorem known_pending {name : String} (h : Known pending name) : name = "w1" := by
  rcases h with ⟨n, hn, rfl⟩ | ⟨o, ho, -⟩
  · rw [List.mem_singleton.1 hn]
    rfl
  · exact absurd ho List.not_mem_nil

theorem untraced_pending {s : ClusterState} (h : ∀ n, s.findNode "w1" = some n → n.taints = [])
    (hworkloads : s.workloads = cluster.workloads) (hpods : s.pods = []) : Untraced pending s where
  untainted name n hname hn := by
    rw [known_pending hname] at hn
    rw [h n hn]
    rfl
  intolerant key w _ hw := by
    have hw := List.mem_of_find?_eq_some hw
    rw [hworkloads] at hw
    rw [List.mem_singleton.1 hw]
    rfl
  undebugged node _ := by
    rw [ClusterState.findPod, hpods]
    rfl
  unmarked p hp := by
    rw [hpods] at hp
    exact absurd hp List.not_mem_nil

end Sample

open Sample in
/-- A node that nobody asks for stays closed, and nothing changes on the cluster. -/
theorem stop_untraced_apart :
    ∃ l' w', apartWorld.runEffects (stop.run.run (new pending 10)) = ((.ok (), l'), w') ∧
      w'.cluster = apartWorld.cluster := by
  have hl : Lifecycle.Concerns (new pending 10).nodes (new pending 10).marked (new pending 10) :=
    ⟨rfl, rfl⟩
  have hs : Untraced pending apartWorld.cluster :=
    untraced_pending (fun n hn => by cases hn; rfl) rfl rfl
  obtain ⟨l', w', hrun, -, -, -, -, hsame, -⟩ :=
    stop_untraced (w := apartWorld) hl (by decide) rfl rfl hs
  refine ⟨l', w', hrun, hsame.2 fun name n hname hn => ?_⟩
  rw [known_pending hname] at hn
  cases hn
  rfl

open Sample in
/-- A node that its administrator has closed is opened by a stop of a request that has never been
acted on. -/
theorem not_stop_untraced :
    ¬ ∀ (q : Quarantine) (timeout : Nat) (w : World), w.faults = [] →
      w.cluster.ignoresLabels = false → Untraced q w.cluster →
        (w.runEffects (stop.run.run (new q timeout))).2.cluster = w.cluster := by
  intro hall
  have hs : Untraced pending closedWorld.cluster :=
    untraced_pending (fun n hn => by cases hn; rfl) rfl rfl
  have hsame := hall pending 10 closedWorld rfl rfl hs
  have hopened : ((closedWorld.runEffects (stop.run.run (new pending 10))).2.cluster.findNode
      "w1").map (·.isUnschedulable) = some false := by decide +kernel
  rw [hsame] at hopened
  exact absurd hopened (by decide +kernel)

end Controller

end Cordon
