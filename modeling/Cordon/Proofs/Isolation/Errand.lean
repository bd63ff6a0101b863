import Cordon.Drain.Deschedule
import Cordon.Proofs.Run.Grounds

/-! # What each operation asks of the cluster

An `Errand` says what calls may be about: which nodes, workloads, lists of pods and debug pods.
`Errand.Allows` are the calls that such an errand takes.  Objects are replaced only if they have
been looked up before, and pods are marked or removed only if they have been listed.

There are four errands: a node is brought into shape, a node is given up, the quarantine toleration
is taken from workloads, and marked pods are swept from the cluster.  Each operation of isolation
keeps to the errand that it is part of, whatever it is answered.
-/

namespace Cordon

open Kube (Node Pod)

/-- What calls may be about. -/
structure Errand where
  /-- Nodes that may be looked up and be given other taints. -/
  nodes : String → Prop
  closes : String → Prop
  reopens : String → Prop
  /-- Workloads that may be looked up and be given other tolerations. -/
  workloads : ResourceKey → Prop
  /-- The pods that these queries find may be marked. -/
  marks : PodFilter → Prop
  /-- The pods that these queries find may be evicted or deleted. -/
  removes : PodFilter → Prop
  /-- Nodes whose debug pod may be created. -/
  deploys : Target → Prop
  /-- Nodes whose debug pod may be deleted. -/
  recalls : Target → Prop

namespace Errand

variable {E F : Errand} {k : Heard}

/-- The calls of an errand. -/
inductive Allows (E : Errand) (k : Heard) : ClusterCall → Prop
  | look {name : String} (h : E.nodes name) : Allows E k (.getNode name)
  | taint {name : String} {n : Node} (taints : List Kube.Taint) (h : E.nodes name)
      (heard : ⟨.getNode name, .ok n⟩ ∈ k) : Allows E k (.setNodeTaints n taints)
  | close {name : String} (h : E.closes name) : Allows E k (.cordonNode name)
  | reopen {name : String} (h : E.reopens name) : Allows E k (.uncordonNode name)
  | find {key : ResourceKey} (h : E.workloads key) : Allows E k (.getWorkload key)
  | tolerate {key : ResourceKey} {w : Workload} (tolerations : List Kube.Toleration)
      (h : E.workloads key) (heard : ⟨.getWorkload key, .ok w⟩ ∈ k) :
      Allows E k (.setWorkloadTolerations w tolerations)
  | list {f : PodFilter} (h : E.marks f ∨ E.removes f) : Allows E k (.listPods f)
  | mark {f : PodFilter} {pods : List Pod} {p : Pod} (patch : Marking.LabelPatch) (h : E.marks f)
      (heard : ⟨.listPods f, .ok pods⟩ ∈ k) (hp : p ∈ pods) : Allows E k (.patchPodLabels p patch)
  | evict {f : PodFilter} {pods : List Pod} {p : Pod} (h : E.removes f)
      (heard : ⟨.listPods f, .ok pods⟩ ∈ k) (hp : p ∈ pods) : Allows E k (.evictPod p false)
  | delete {f : PodFilter} {pods : List Pod} {p : Pod} (h : E.removes f)
      (heard : ⟨.listPods f, .ok pods⟩ ∈ k) (hp : p ∈ pods) :
      Allows E k (.deletePod p.metadata.anyNamespace p.name)
  | seek {t : Target} (h : E.deploys t) :
      Allows E k (.getPod t.debug.namespaceName t.debugPodName)
  | deploy {t : Target} (h : E.deploys t) : Allows E k (.createPod (DebugPod.make t.name t.debug))
  | retract {t : Target} (h : E.recalls t) :
      Allows E k (.deletePod t.debug.namespaceName t.debugPodName)

/-- An errand is part of another one. -/
structure PartOf (E F : Errand) : Prop where
  nodes : ∀ name, E.nodes name → F.nodes name
  closes : ∀ name, E.closes name → F.closes name
  reopens : ∀ name, E.reopens name → F.reopens name
  workloads : ∀ key, E.workloads key → F.workloads key
  marks : ∀ f, E.marks f → F.marks f
  removes : ∀ f, E.removes f → F.removes f
  deploys : ∀ t, E.deploys t → F.deploys t
  recalls : ∀ t, E.recalls t → F.recalls t

theorem PartOf.trans {G : Errand} (h : E.PartOf F) (h' : F.PartOf G) : E.PartOf G where
  nodes _ hn := h'.nodes _ (h.nodes _ hn)
  closes _ hn := h'.closes _ (h.closes _ hn)
  reopens _ hn := h'.reopens _ (h.reopens _ hn)
  workloads _ hw := h'.workloads _ (h.workloads _ hw)
  marks _ hf := h'.marks _ (h.marks _ hf)
  removes _ hf := h'.removes _ (h.removes _ hf)
  deploys _ ht := h'.deploys _ (h.deploys _ ht)
  recalls _ ht := h'.recalls _ (h.recalls _ ht)

theorem PartOf.allows (h : E.PartOf F) {c : ClusterCall} (hc : E.Allows k c) : F.Allows k c := by
  cases hc with
  | look hn => exact .look (h.nodes _ hn)
  | taint taints hn heard => exact .taint taints (h.nodes _ hn) heard
  | close hn => exact .close (h.closes _ hn)
  | reopen hn => exact .reopen (h.reopens _ hn)
  | find hw => exact .find (h.workloads _ hw)
  | tolerate tolerations hw heard => exact .tolerate tolerations (h.workloads _ hw) heard
  | list hf => exact .list (hf.imp (h.marks _) (h.removes _))
  | mark patch hf heard hp => exact .mark patch (h.marks _ hf) heard hp
  | evict hf heard hp => exact .evict (h.removes _ hf) heard hp
  | delete hf heard hp => exact .delete (h.removes _ hf) heard hp
  | seek ht => exact .seek (h.deploys _ ht)
  | deploy ht => exact .deploy (h.deploys _ ht)
  | retract ht => exact .retract (h.recalls _ ht)

/-! ## The errands -/

/-- The errand of all that is part of some errand. -/
def all (P : Errand → Prop) : Errand where
  nodes name := ∃ E, P E ∧ E.nodes name
  closes name := ∃ E, P E ∧ E.closes name
  reopens name := ∃ E, P E ∧ E.reopens name
  workloads key := ∃ E, P E ∧ E.workloads key
  marks f := ∃ E, P E ∧ E.marks f
  removes f := ∃ E, P E ∧ E.removes f
  deploys t := ∃ E, P E ∧ E.deploys t
  recalls t := ∃ E, P E ∧ E.recalls t

theorem partOf_all {P : Errand → Prop} (h : P E) : E.PartOf (all P) where
  nodes _ hn := ⟨E, h, hn⟩
  closes _ hn := ⟨E, h, hn⟩
  reopens _ hn := ⟨E, h, hn⟩
  workloads _ hw := ⟨E, h, hw⟩
  marks _ hf := ⟨E, h, hf⟩
  removes _ hf := ⟨E, h, hf⟩
  deploys _ ht := ⟨E, h, ht⟩
  recalls _ ht := ⟨E, h, ht⟩

/-- Brings a node into shape. -/
def shaping (t : Target) : Errand where
  nodes := (· = t.name)
  closes := (· = t.name)
  reopens _ := False
  workloads key := ∃ r ∈ t.resources, r.key = key
  marks f := f.nodeName = some t.name
  removes := (· = .onNode t.name)
  deploys := (· = t)
  recalls _ := False

/-- Gives a node up. -/
def reverting (t : Target) : Errand where
  nodes := (· = t.name)
  closes _ := False
  reopens := (· = t.name)
  workloads key := ∃ r ∈ t.resources, r.key = key
  marks _ := False
  removes := (· = Isolation.marked (.onNode t.name))
  deploys _ := False
  recalls := (· = t)

/-- Takes the quarantine toleration from workloads. -/
def stripping (resources : List ResourceRef) : Errand where
  nodes _ := False
  closes _ := False
  reopens _ := False
  workloads key := ∃ r ∈ resources, r.key = key
  marks _ := False
  removes _ := False
  deploys _ := False
  recalls _ := False

/-- Sweeps marked pods from the whole cluster. -/
def sweeping : Errand where
  nodes _ := False
  closes _ := False
  reopens _ := False
  workloads _ := False
  marks _ := False
  removes := (· = Isolation.marked .everything)
  deploys _ := False
  recalls _ := False

theorem stripping_shaping (t : Target) : (stripping t.resources).PartOf (shaping t) :=
  ⟨fun _ h => h.elim, fun _ h => h.elim, fun _ h => h.elim, fun _ h => h, fun _ h => h.elim,
    fun _ h => h.elim, fun _ h => h.elim, fun _ h => h.elim⟩

theorem stripping_reverting (t : Target) : (stripping t.resources).PartOf (reverting t) :=
  ⟨fun _ h => h.elim, fun _ h => h.elim, fun _ h => h.elim, fun _ h => h, fun _ h => h.elim,
    fun _ h => h.elim, fun _ h => h.elim, fun _ h => h.elim⟩

end Errand

/-! ## Operations -/


namespace Isolation

variable {E : Errand} {k : Heard} {t : Target}

/-! ### Nodes -/

theorem consults_isIsolated {node : String} (h : E.nodes node) :
    Consults E.Allows k (isIsolated node) fun _ _ => True :=
  (consults_call (.look h)).bind fun _ _ _ _ => consults_pure trivial

theorem consults_taintNode {node : String} (h : E.nodes node) :
    Consults E.Allows k (taintNode node) fun _ _ => True := by
  refine (consults_call (.look h)).bind fun k' n _ heard => ?_
  split
  · exact (consults_call (.taint _ h heard)).plain
  · exact consults_pure trivial

theorem consults_untaintNode {node : String} (h : E.nodes node) :
    Consults E.Allows k (untaintNode node) fun _ _ => True := by
  refine (consults_call (.look h)).ifPresent.bind fun k' found _ heard => ?_
  cases found with
  | none => exact consults_pure trivial
  | some n =>
    dsimp only
    split
    · exact (consults_call (.taint _ h (heard n rfl))).plain
    · exact consults_pure trivial

theorem consults_disableScheduling {node : String} (h : E.closes node) :
    Consults E.Allows k (disableScheduling node) fun _ _ => True :=
  (consults_call (.close h)).plain

theorem consults_enableScheduling {node : String} (h : E.reopens node) :
    Consults E.Allows k (enableScheduling node) fun _ _ => True :=
  consults_orAbsent (consults_call (.reopen h)).plain

/-! ### Workloads -/

theorem consults_removeToleration {r : ResourceRef} (h : E.workloads r.key) :
    Consults E.Allows k (removeToleration r) fun _ _ => True := by
  refine (consults_call (.find h)).ifPresent.bind fun k' found _ heard => ?_
  cases found with
  | none => exact consults_pure trivial
  | some w =>
    dsimp only [stripToleration]
    split
    · exact (consults_call (.tolerate _ h (heard w rfl))).plain
    · exact consults_pure trivial

theorem consults_markPods {node : String} {w : Workload} (h : E.marks (podsOf node w)) :
    Consults E.Allows k (markPods node w) fun _ _ => True := by
  unfold markPods
  split
  · exact consults_pure trivial
  · refine (consults_call (.list (.inl h))).bind fun k' pods _ heard => ?_
    refine consults_forM fun p hp k'' hk => ?_
    unfold markPod
    split
    · split
      · exact (consults_call (.mark _ h (hk heard) hp)).plain
      · exact consults_pure trivial
    · exact consults_pure trivial

theorem consults_isolate (isolated : Bool) :
    Consults (Errand.shaping t).Allows k (isolate t isolated) fun _ _ => True := by
  refine consults_forM fun r hr k' _ => ?_
  have hkey : (Errand.shaping t).workloads r.key := ⟨r, hr, rfl⟩
  refine (consults_call (.find hkey)).bind fun k' w _ heard => ?_
  refine (consults_markPods rfl).bind fun k'' _ hk _ => ?_
  split
  · unfold addToleration
    split
    · exact (consults_call (.tolerate _ hkey (hk heard))).plain
    · exact consults_pure trivial
  · exact consults_pure trivial

/-! ### Pods -/

theorem consults_deployDebug (h : E.deploys t) :
    Consults E.Allows k (deployDebug t) fun _ _ => True := by
  refine (consults_call (.seek h)).bind fun k' found _ _ => ?_
  cases found with
  | some p => exact consults_pure trivial
  | none => exact (consults_call (.deploy h)).plain

theorem consults_removeDebug (h : E.recalls t) : Consults E.Allows k
    (removeDebug t.debugPodName t.debug.namespaceName) fun _ _ => True :=
  consults_orAbsent (consults_call (.retract h)).plain

/-- The pods that a query finds are deleted. -/
theorem consults_removeListed {f : PodFilter} (h : E.removes f) : Consults E.Allows k
    (call (.listPods f) >>= fun pods => pods.forM removePod) fun _ _ => True := by
  refine (consults_call (.list (.inr h))).bind fun k' pods _ heard => ?_
  refine consults_forM fun p hp k'' hk => ?_
  exact consults_orAbsent (consults_call (.delete h (hk heard) hp)).plain

end Isolation

/-! ## Emptying a node -/

namespace Drain

variable {E : Errand} {k : Heard} {t : Target}

/-- Every pod that is to go has been listed. -/
def Listed (E : Errand) (k : Heard) (waiting : List Task) : Prop :=
  ∃ f pods, E.removes f ∧ ⟨.listPods f, .ok pods⟩ ∈ k ∧ ∀ task ∈ waiting, task.pod ∈ pods

theorem Listed.tail {task : Task} {waiting : List Task} (h : Listed E k (task :: waiting)) :
    Listed E k waiting := by
  obtain ⟨f, pods, hf, heard, hmem⟩ := h
  exact ⟨f, pods, hf, heard, fun task htask => hmem task (List.mem_cons_of_mem _ htask)⟩

theorem Listed.mono {k' : Heard} {waiting : List Task} (h : Listed E k waiting) (hk : k ⊆ k') :
    Listed E k' waiting := by
  obtain ⟨f, pods, hf, heard, hmem⟩ := h
  exact ⟨f, pods, hf, hk heard, hmem⟩

/-- A task starts with the removal of its pod, or with none. -/
theorem allows_start {task : Task} {waiting : List Task} (h : Listed E k (task :: waiting))
    {e : Evictor} {r : Removal} (hr : (task.start e).1 = some r) : E.Allows k r.call := by
  obtain ⟨f, pods, hf, heard, hmem⟩ := h
  have hpod : task.pod ∈ pods := hmem task (by simp)
  unfold Task.start at hr
  split at hr
  · cases hr
  · cases hr
  · split at hr
    · cases hr
      exact .evict hf heard hpod
    · cases hr
  · cases hr
    exact .delete hf heard hpod

theorem asks_fill (places : Nat) {waiting : List Task} (running : List Running) (e : Evictor)
    (h : Listed E k waiting) : (fill places waiting running e).Asks E.Allows k
      fun k' filled => Listed E k' filled.1 := by
  induction places generalizing k waiting running e with
  | zero => exact h
  | succ places ih =>
    cases waiting with
    | nil => exact h
    | cons task rest =>
      refine ⟨?_, fun _ => ih _ _ (h.tail.mono Set.subset_union_left)⟩
      rintro _ ⟨r, hr, rfl⟩
      exact allows_start h hr

theorem asks_runTasks (node : String) (n : Nat) {waiting : List Task} (running : List Running)
    (e : Evictor) (h : Listed E k waiting) :
    (runTasks node n waiting running e).Asks E.Allows k fun _ _ => True := by
  induction n generalizing k waiting running e with
  | zero => exact trivial
  | succ n ih =>
    refine (asks_fill _ running e h).andThen fun k' filled _ hfilled => ?_
    obtain ⟨waiting, running, e⟩ := filled
    cases running with
    | nil => exact trivial
    | cons first rest =>
      refine ⟨fun _ hc => hc.elim, fun answer => ?_⟩
      refine (ih _ _ (hfilled.mono Set.subset_union_left)).andThen fun _ errors _ _ => ?_
      split <;> exact trivial

theorem consults_keptWorkloads {l : List ResourceRef} (h : ∀ r ∈ l, E.workloads r.key) :
    Consults E.Allows k (keptWorkloads l) fun _ _ => True := by
  induction l generalizing k with
  | nil => exact consults_pure trivial
  | cons r rest ih =>
    refine (consults_call (.find (h r (by simp)))).ifPresent.bind fun _ found _ _ => ?_
    refine (ih fun r hr => h r (by simp [hr])).bind fun _ others _ _ => ?_
    exact consults_pure trivial

theorem pod_of_mem_tasks {flags : ResolvedFlags} {kept : List Workload} {pods : List Pod}
    {task : Task} (h : task ∈ tasks flags kept pods) : task.pod ∈ pods := by
  obtain ⟨p, hp, heq⟩ := List.mem_filterMap.1 h
  split at heq
  · cases heq
  · cases heq
    exact hp

theorem consults_deschedule : Consults (Errand.shaping t).Allows k (deschedule t)
    fun _ _ => True := by
  have hkept : ∀ r ∈ t.kept, (Errand.shaping t).workloads r.key := fun r hr =>
    ⟨r, (List.mem_filter.1 hr).1, rfl⟩
  refine Consults.bind (Program.Asks.sequentially (consults_keptWorkloads hkept))
    fun k' kept _ _ => ?_
  refine Consults.bind (Program.Asks.sequentially (consults_call (.list (.inr rfl))))
    fun k' pods _ heard => ?_
  refine Consults.bind ?_ fun _ errors _ (_ : True) => ?_
  · refine (asks_runTasks t.name _ [] _ ?_).andThen fun _ errors _ _ => fun _ _ => trivial
    exact ⟨_, pods, rfl, heard, fun task htask => pod_of_mem_tasks htask⟩
  · cases errors with
    | nil => exact consults_pure trivial
    | cons e rest =>
      dsimp only
      split
      · exact consults_pure trivial
      · exact consults_throw e

end Drain

end Cordon
