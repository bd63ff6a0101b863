import Cordon.Proofs.Controller.Teardown
import Cordon.Proofs.Lifecycle.Calm

/-! # What a stop does, exactly

On a world without faults, a stop returns from every phase but the last, and its effect on the
cluster depends on the request and its records alone (`stop_exactly`).  It opens and untaints nodes,
takes tolerations from workloads and deletes pods; `Undoes` is the shape of such an effect.  Effects
of this shape are put together (`Undoes.trans`), because what is undone twice is undone once
(`released_released`, `stripped_stripped`).
-/

namespace Cordon

open Kube (Node Pod)

/-! ## What is undone -/

/-- The node without quarantine taints and open to scheduling. -/
def Kube.Node.released (n : Node) : Node := n.untainted.withUnschedulable false

namespace Kube.Node

theorem taints_released (n : Node) :
    n.released.taints = n.taints.filter fun t => !Repelling.isQuarantineTaint t := by
  rw [released, taints_withUnschedulable, untainted]
  split
  · rfl
  · next htaint =>
    have hnone : ∀ t ∈ n.taints, Repelling.isQuarantineTaint t = false := by
      simpa [Repelling.hasTaint] using htaint
    exact (List.filter_eq_self.2 fun t ht => by simp [hnone t ht]).symm

theorem isUnschedulable_released (n : Node) : n.released.isUnschedulable = false := rfl

theorem hasTaint_released (n : Node) : Repelling.hasTaint n.released.taints = false := by
  rw [taints_released]
  simp [Repelling.hasTaint]

theorem released_released (n : Node) : n.released.released = n.released := by
  have hsame : n.released.untainted = n.released := by
    rw [untainted, hasTaint_released, if_neg Bool.false_ne_true]
  rw [released, hsame]
  rfl

end Kube.Node

namespace ClusterState

def clear (s : ClusterState) (f : PodFilter) : ClusterState :=
  s.removePods (s.pods.filter (s.selects f))

/-- Nodes are opened and untainted, workloads lose their quarantine tolerations, pods are gone, and
everything else is as before. -/
structure Undoes (names : List String) (keys : List ResourceKey) (gone : Pod → Bool)
    (s t : ClusterState) : Prop where
  sameNames : t.nodes.map (·.name) = s.nodes.map (·.name)
  nodes : ∀ name, t.findNode name =
    (s.findNode name).map fun n => if name ∈ names then n.released else n
  sameKeys : t.workloads.map (·.key) = s.workloads.map (·.key)
  workloads : ∀ key, t.findWorkload key =
    (s.findWorkload key).map fun w => if key ∈ keys then w.stripped else w
  pods : t.pods = s.pods.filter (!gone ·)
  ignoresLabels : t.ignoresLabels = s.ignoresLabels

theorem undoes_nothing (s : ClusterState) : Undoes [] [] (fun _ => false) s s where
  sameNames := rfl
  nodes name := by simp
  sameKeys := rfl
  workloads key := by simp
  pods := by simp
  ignoresLabels := rfl

theorem Undoes.trans {names names' : List String} {keys keys' : List ResourceKey}
    {gone gone' : Pod → Bool} {s m t : ClusterState} (h : Undoes names keys gone s m)
    (h' : Undoes names' keys' gone' m t) :
    Undoes (names ++ names') (keys ++ keys') (fun p => gone p || gone' p) s t where
  sameNames := h'.sameNames.trans h.sameNames
  nodes name := by
    rw [h'.nodes, h.nodes, Option.map_map]
    refine congrArg (Option.map · _) (funext fun n => ?_)
    by_cases hn : name ∈ names
    · by_cases hn' : name ∈ names'
      · simp [hn, hn', Node.released_released]
      · simp [hn, hn']
    · simp [hn]
  sameKeys := h'.sameKeys.trans h.sameKeys
  workloads key := by
    rw [h'.workloads, h.workloads, Option.map_map]
    refine congrArg (Option.map · _) (funext fun w => ?_)
    by_cases hw : key ∈ keys
    · by_cases hw' : key ∈ keys'
      · simp [hw, hw', Workload.stripped_stripped]
      · simp [hw, hw']
    · simp [hw]
  pods := by
    rw [h'.pods, h.pods, List.filter_filter]
    refine List.filter_congr fun p _ => ?_
    simp [Bool.and_comm]
  ignoresLabels := h'.ignoresLabels.trans h.ignoresLabels

theorem nodup_of_undoes {names : List String} {keys : List ResourceKey} {gone : Pod → Bool}
    {s t : ClusterState} (h : Undoes names keys gone s t)
    (hs : (s.pods.map (·.identity)).Nodup) : (t.pods.map (·.identity)).Nodup := by
  rw [h.pods]
  exact hs.sublist (List.filter_sublist.map _)

theorem undoes_clear {s : ClusterState} (hs : (s.pods.map (·.identity)).Nodup) (f : PodFilter) :
    Undoes [] [] (s.selects f) s (s.clear f) := by
  obtain ⟨hnodes, hworkloads, hlabels⟩ := removePods_frame (s := s) (s.pods.filter (s.selects f))
  refine ⟨congrArg _ hnodes, fun name => ?_, congrArg _ hworkloads, fun key => ?_,
    pods_removePods_filter hs, hlabels⟩
  · simp [findNode, clear, hnodes]
  · simp [findWorkload, clear, hworkloads]

end ClusterState

/-! ## Undoing a node -/

namespace Lifecycle

open ClusterState Isolation Pass

variable {s : ClusterState} {l : Lifecycle} {u : Target}

def debugIdentity (u : Target) : String := u.debug.namespaceName ++ "/" ++ u.debugPodName

/-- The cluster once a node is untainted and its workloads do not tolerate the taint. -/
def unrepelled (s : ClusterState) (u : Target) : ClusterState :=
  (s.changeNode u.name Node.untainted).changeEach u.resources Workload.stripped

/-- The cluster without the debug pod and the marked pods of a node. -/
def unmarked (s : ClusterState) (u : Target) : ClusterState :=
  (s.removePod (debugIdentity u)).clear (Isolation.marked (.onNode u.name))

/-- The cluster once everything that may have been done to a node is undone. -/
def undone (s : ClusterState) (u : Target) : ClusterState :=
  (unmarked (unrepelled s u) u).changeNode u.name (·.withUnschedulable false)

theorem does_reverseNode : (reverseNode u).Does l s () (l.forgotten u) (undone s u) := by
  have hstrip : ∀ s,
      (removeTolerations u.name u.resources).Does l s () l
        (s.changeEach u.resources Workload.stripped) := by
    intro s
    have hfold : (removeTolerations u.name u.resources).Does l s ()
        (u.resources.foldl (fun l _ => l) l) (s.changeEach u.resources Workload.stripped) :=
      does_forM fun r l s => does_step (eval_removeToleration r s)
    rwa [List.foldl_fixed] at hfold
  exact does_bind (does_step (eval_untaintNode u.name s)) <|
    does_bind (hstrip _) <| does_bind (does_step (eval_removeDebug _ _ _)) <|
      does_bind (does_step (eval_removeIsolatedPods _ _)) <|
        does_bind (does_step (eval_enableScheduling _ _)) <|
          does_modify fun l => l.forgotten u

def goesWith (u : Target) (p : Pod) : Bool :=
  p.identity == debugIdentity u || (p.nodeName == some u.name && Marking.isQuarantined p)

theorem pods_unmarked (hs : (s.pods.map (·.identity)).Nodup) (hlabels : s.ignoresLabels = false) :
    (unmarked s u).pods = s.pods.filter (!goesWith u ·) := by
  have hremoved : (s.removePod (debugIdentity u)).pods =
      s.pods.filter (·.identity ≠ debugIdentity u) := pods_removePod hs
  have hrest : ((s.removePod (debugIdentity u)).pods.map (·.identity)).Nodup := by
    rw [hremoved]
    exact hs.sublist (List.filter_sublist.map _)
  rw [unmarked, (undoes_clear hrest _).pods, hremoved, List.filter_filter]
  refine List.filter_congr fun p _ => ?_
  rw [selects_markedOnNode (s := s.removePod (debugIdentity u)) hlabels, goesWith]
  by_cases hdebug : p.identity = debugIdentity u
  · simp [hdebug]
  · simp [hdebug]

theorem unmarked_frame (s : ClusterState) (u : Target) : (unmarked s u).nodes = s.nodes ∧
    (unmarked s u).workloads = s.workloads ∧ (unmarked s u).ignoresLabels = s.ignoresLabels :=
  removePods_frame (s := s.removePod (debugIdentity u)) _

theorem undoes_undone (hs : (s.pods.map (·.identity)).Nodup) (hlabels : s.ignoresLabels = false) :
    Undoes [u.name] (u.resources.map (·.key)) (goesWith u) s (undone s u) := by
  obtain ⟨hnodes, hpods, hignores⟩ :=
    changeEach_frame (f := Workload.stripped) (s.changeNode u.name Node.untainted) u.resources
  obtain ⟨hnodes', hworkloads', hignores'⟩ := unmarked_frame (unrepelled s u) u
  have hsame : (unmarked (unrepelled s u) u).nodes = (s.changeNode u.name Node.untainted).nodes :=
    hnodes'.trans hnodes
  refine ⟨?_, fun name => ?_, ?_, fun key => ?_, ?_, hignores'.trans hignores⟩
  · have houter := Shelf.map_changeFirst (Node.name_withUnschedulable · false)
      (·.name == u.name) (unmarked (unrepelled s u) u).nodes
    have hinner := Shelf.map_changeFirst Node.name_untainted (·.name == u.name) s.nodes
    exact houter.trans ((congrArg _ hsame).trans hinner)
  · have houter := findNode_changeNode (unmarked (unrepelled s u) u)
      (Node.name_withUnschedulable · false) u.name name
    have hinner := findNode_changeNode s Node.name_untainted u.name name
    -- The node is untainted first and opened last, and nothing between touches it.
    have hfind : (unmarked (unrepelled s u) u).findNode name =
        (s.changeNode u.name Node.untainted).findNode name := by
      rw [findNode, findNode, hsame]
    rw [undone, houter, hfind, hinner]
    by_cases hname : u.name = name
    · simp [hname, Function.comp_def, Node.released]
    · simp [hname, Ne.symm hname]
  · have hkeys : ∀ w : Workload, w.stripped.key = w.key := fun _ => rfl
    exact (congrArg _ hworkloads').trans (keys_changeEach hkeys _ u.resources)
  · have hkeys : ∀ w : Workload, w.stripped.key = w.key := fun _ => rfl
    have hstripped := findWorkload_changeEach hkeys Workload.stripped_stripped
      (s.changeNode u.name Node.untainted) u.resources key
    rw [show (undone s u).findWorkload key = (unrepelled s u).findWorkload key by
      rw [findWorkload, findWorkload, ← hworkloads']; rfl]
    exact hstripped
  · have hd : ((unrepelled s u).pods.map (·.identity)).Nodup := by
      rw [unrepelled, hpods]
      exact hs
    rw [show (undone s u).pods = (unmarked (unrepelled s u) u).pods from rfl,
      pods_unmarked hd (hignores.trans hlabels), unrepelled, hpods]
    rfl

/-! ## Undoing all nodes -/

theorem undoes_foldl (us : List Target) (hs : (s.pods.map (·.identity)).Nodup)
    (hlabels : s.ignoresLabels = false) :
    Undoes (us.map (·.name)) (us.flatMap fun u => u.resources.map (·.key))
      (fun p => us.any (goesWith · p)) s (us.foldl undone s) := by
  induction us generalizing s with
  | nil => exact undoes_nothing s
  | cons u rest ih =>
    have hhead := undoes_undone (u := u) hs hlabels
    exact hhead.trans (ih (nodup_of_undoes hhead hs) (hhead.ignoresLabels.trans hlabels))

def visited (l : Lifecycle) : List Target := l.nodes ++ l.marked

def dismantled (l : Lifecycle) (s : ClusterState) : ClusterState :=
  (l.visited.foldl undone s).clear (Isolation.marked .everything)

theorem does_stop (hphase : l.phase.allows .stopped = true) :
    stop.Does l s () (l.visited.foldl forgotten (l.inPhase .stopped)) (l.dismantled s) :=
  does_bind (does_advance hphase) <| does_get <|
    does_bind (does_forM fun _ _ _ => does_reverseNode) <| does_step (eval_cleanupIsolatedPods _)

theorem observedNodes_stopped :
    (l.visited.foldl forgotten (l.inPhase .stopped)).observedNodes = [] := by
  have hgone : ∀ u ∈ l.visited,
      (l.visited.foldl (fun d u => d.erase u.name) l.records).get? u.name = none := by
    intro u hu
    rw [get?_foldl_erase, if_pos (List.mem_map_of_mem hu)]
  rw [foldl_forgotten]
  refine List.append_eq_nil_iff.2 ⟨?_, ?_⟩
  · exact List.filterMap_eq_nil_iff.2 fun u hu => hgone u (List.mem_append_left _ hu)
  · exact List.filterMap_eq_nil_iff.2 fun u hu => hgone u (List.mem_append_right _ hu)

theorem undoes_dismantled (hs : (s.pods.map (·.identity)).Nodup)
    (hlabels : s.ignoresLabels = false) :
    Undoes (l.visited.map (·.name)) (l.visited.flatMap fun u => u.resources.map (·.key))
      (fun p => l.visited.any (goesWith · p) || Marking.isQuarantined p) s (l.dismantled s) := by
  have hnodes := undoes_foldl l.visited hs hlabels
  have hsweep := undoes_clear (nodup_of_undoes hnodes hs) (Isolation.marked .everything)
  have hall := hnodes.trans hsweep
  rw [List.append_nil, List.append_nil] at hall
  simp only [Isolation.selects_marked (hnodes.ignoresLabels.trans hlabels)] at hall
  exact hall

end Lifecycle

/-! ## The whole effect -/

namespace Controller

open Lifecycle (stop new visited goesWith debugIdentity)

variable {q : Quarantine} {timeout : Nat} {s t : ClusterState} {l : Lifecycle} {w : World}

/-- The namespace and name of the debug pod that a quarantine gives a node. -/
def debugPodOf (q : Quarantine) (node : String) : String :=
  q.spec.debug.namespaceName ++ "/" ++ DebugPod.name node

/-- The nodes that a quarantine knows are as if it had never been, the workloads that it lists lack
the toleration, its debug pods and all marked pods are gone, and everything else is as before. -/
structure Dismantled (q : Quarantine) (s t : ClusterState) : Prop where
  sameNodes : t.nodes.map (·.name) = s.nodes.map (·.name)
  nodes : ∀ name, t.findNode name =
    (s.findNode name).map fun n => if Known q name then n.released else n
  sameWorkloads : t.workloads.map (·.key) = s.workloads.map (·.key)
  workloads : ∀ key, t.findWorkload key =
    (s.findWorkload key).map fun w => if Listed q key then w.stripped else w
  inOrder : t.pods.Sublist s.pods
  pods : ∀ p ∈ s.pods, p ∈ t.pods ↔
    Marking.isQuarantined p = false ∧ ∀ node, Known q node → p.identity ≠ debugPodOf q node

theorem known_iff_visited (timeout : Nat) {name : String} :
    Known q name ↔ name ∈ (new q timeout).visited.map (·.name) := by
  rw [← recalls_closed_iff, List.mem_map]
  exact recalls_iff_reached

theorem listed_iff_visited (timeout : Nat) {key : ResourceKey} : Listed q key ↔
    key ∈ (new q timeout).visited.flatMap fun u => u.resources.map (·.key) := by
  rw [← recalls_tolerating_iff, List.mem_flatMap]
  simp only [List.mem_map]
  exact recalls_iff_reached

/-- All nodes of a pass have the debug setting of the request. -/
theorem debugIdentity_of_visited {u : Target} (hu : u ∈ (new q timeout).visited) :
    debugIdentity u = debugPodOf q u.name := by
  rcases List.mem_append.1 hu with hu | hu
  · obtain ⟨n, -, rfl⟩ := Lifecycle.mem_nodes_new.1 hu
    rfl
  · obtain ⟨o, -, -, rfl⟩ := Lifecycle.mem_marked_new.1 hu
    rfl

theorem goes_iff {p : Kube.Pod} :
    ((new q timeout).visited.any (goesWith · p) || Marking.isQuarantined p) = false ↔
      Marking.isQuarantined p = false ∧ ∀ node, Known q node → p.identity ≠ debugPodOf q node := by
  rw [Bool.or_eq_false_iff, List.any_eq_false, and_comm]
  refine and_congr_right fun hp => ?_
  have hgoes : ∀ u ∈ (new q timeout).visited,
      goesWith u p = true ↔ p.identity = debugPodOf q u.name := by
    intro u hu
    simp [goesWith, hp, debugIdentity_of_visited hu]
  constructor
  · intro h node hnode
    obtain ⟨u, hu, rfl⟩ := List.mem_map.1 ((known_iff_visited timeout).1 hnode)
    exact fun heq => h u hu ((hgoes u hu).2 heq)
  · intro h u hu hgone
    have hknown : Known q u.name := (known_iff_visited timeout).2 (List.mem_map_of_mem hu)
    exact h u.name hknown ((hgoes u hu).1 hgone)

theorem dismantled_of_stopped (hs : (s.pods.map (·.identity)).Nodup)
    (hlabels : s.ignoresLabels = false) (hl : l.visited = (new q timeout).visited) :
    Dismantled q s (l.dismantled s) := by
  have h := Lifecycle.undoes_dismantled (l := l) hs hlabels
  rw [hl] at h
  refine ⟨h.sameNames, fun name => ?_, h.sameKeys, fun key => ?_, ?_, fun p hp => ?_⟩
  · simp only [h.nodes, known_iff_visited timeout]
  · simp only [h.workloads, listed_iff_visited timeout]
  · rw [h.pods]
    exact List.filter_sublist
  · rw [h.pods, List.mem_filter, Bool.not_eq_true', goes_iff]
    exact and_iff_right hp

/-- Nothing is left of a quarantine on a cluster. -/
structure Clean (q : Quarantine) (t : ClusterState) : Prop where
  opened : ∀ name n, Known q name → t.findNode name = some n →
    n.isUnschedulable = false ∧ Repelling.hasTaint n.taints = false
  intolerant : ∀ key w, Listed q key → t.findWorkload key = some w →
    Repelling.hasToleration w.tolerations = false
  undebugged : ∀ node, Known q node → t.findPod (debugPodOf q node) = none
  unmarked : ∀ p ∈ t.pods, Marking.isQuarantined p = false

theorem clean_of_dismantled (h : Dismantled q s t) : Clean q t := by
  have hpods : ∀ p ∈ t.pods, Marking.isQuarantined p = false ∧
      ∀ node, Known q node → p.identity ≠ debugPodOf q node :=
    fun p hp => (h.pods p (h.inOrder.subset hp)).1 hp
  refine ⟨fun name n hname hn => ?_, fun key w hkey hw => ?_, fun node hnode => ?_,
    fun p hp => (hpods p hp).1⟩
  · rw [h.nodes, Option.map_eq_some_iff] at hn
    obtain ⟨n, -, rfl⟩ := hn
    rw [if_pos hname]
    exact ⟨n.isUnschedulable_released, n.hasTaint_released⟩
  · rw [h.workloads, Option.map_eq_some_iff] at hw
    obtain ⟨w, -, rfl⟩ := hw
    rw [if_pos hkey]
    exact w.hasToleration_stripped
  · exact List.find?_eq_none.2 fun p hp => by simpa using (hpods p hp).2 node hnode

/-- A stop of a loaded quarantine, at any phase but the last, returns on every cluster whose calls
fail for want of an object only.  It leaves no record, takes off the cluster what the quarantine
knows and lists, its debug pods and all marked pods, and touches nothing else. -/
theorem stop_exactly (hl : Lifecycle.Concerns (new q timeout).nodes (new q timeout).marked l)
    (hphase : l.phase ≠ .stopped) (hfaults : w.faults = [])
    (hlabels : w.cluster.ignoresLabels = false)
    (hpods : (w.cluster.pods.map (·.identity)).Nodup) :
    ∃ l' w', w.runEffects (stop.run.run l) = ((.ok (), l'), w') ∧ l'.observedNodes = [] ∧
      w'.shelf = w.shelf ∧ Clean q w'.cluster ∧ Dismantled q w.cluster w'.cluster := by
  have hallows : l.phase.allows .stopped = true := by
    cases hp : l.phase with
    | stopped => exact absurd hp hphase
    | _ => rfl
  have hvisited : l.visited = (new q timeout).visited := by
    rw [visited, hl.1, hl.2, visited]
  obtain ⟨w', hrun, -, hcluster, hshelf⟩ :=
    Lifecycle.does_stop hallows w w.shelf ⟨hfaults, rfl, rfl⟩
  have hdismantled := dismantled_of_stopped hpods hlabels hvisited
  rw [← hcluster] at hdismantled
  exact ⟨_, w', hrun, Lifecycle.observedNodes_stopped, hshelf, clean_of_dismantled hdismantled,
    hdismantled⟩

namespace Sample

def halfway : Quarantine :=
  ⟨{ Kube.ObjectMeta.blank with name := some "m", namespaceName := some "ns" },
    request [ask "w1" true [workload]], some ⟨[], [⟨"w3", false, [missing]⟩]⟩⟩

def pod (name node : String) (labels : Labels) : Kube.Pod :=
  ⟨{ Kube.ObjectMeta.blank with
      name := some name, namespaceName := some "prod", labels := some labels },
    some ⟨some node, [], none, none, []⟩, none⟩

/-- The requested node is closed and tainted and one of its pods is marked; the node on record is
not there. -/
def halfwayWorld : World :=
  .new { cluster with
    nodes := [((node "w1").withUnschedulable true).withTaints
      [⟨"other", none, "NoSchedule", none⟩, Repelling.quarantineTaint], node "w2"]
    pods := [pod "a" "w1" (.singleton Convention.sentinelKey Convention.sentinelValue),
      pod "b" "w2" .empty] } [] []

end Sample

open Sample in
/-- A node that has been prepared in part is opened, and keeps the taint of others. -/
theorem stop_exactly_halfway :
    ∃ w' : World, Dismantled halfway halfwayWorld.cluster w'.cluster ∧
      (w'.cluster.findNode "w1").map (fun n => (n.isUnschedulable, n.taints.map (·.key))) =
        some (false, ["other"]) ∧ w'.cluster.pods = [pod "b" "w2" .empty] := by
  have hl : Lifecycle.Concerns (new halfway 10).nodes (new halfway 10).marked
      ((new halfway 10).inPhase .preparing) := ⟨rfl, rfl⟩
  obtain ⟨l', w', hrun, -, -, -, hdismantled⟩ := stop_exactly (w := halfwayWorld) hl (by decide)
    rfl rfl (by decide +kernel)
  have hrun' : w' = (halfwayWorld.runEffects
      (stop.run.run ((new halfway 10).inPhase .preparing))).2 := by rw [hrun]
  refine ⟨w', hdismantled, ?_, ?_⟩
  · rw [hrun']
    decide +kernel
  · rw [hrun']
    decide +kernel

end Controller

end Cordon
