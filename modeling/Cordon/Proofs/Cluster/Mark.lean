import Cordon.Cluster.State
import Cordon.Isolation.Repelling

/-! # Marks on a cluster

Isolation leaves three kinds of marks: a node is closed to scheduling, a node carries the
quarantine taint, a workload's pods tolerate that taint.  `ClusterState.shows` reads a mark off a
cluster and `ClusterCall.writes` says which mark a call sets, and to what.

The main statement is `shows_perform`: a call that succeeds changes the mark it writes and no
other.  Nodes and workloads are looked up by name and changed at the first match, so the look-up
after a change (`find?_changeFirst`) is all that is needed of the lists.
-/

namespace Cordon

open Kube (Node)

/-- Something that isolation puts on a cluster and takes off again. -/
inductive Mark where
  | closed (node : String)
  | tainted (node : String)
  | tolerating (workload : ResourceKey)
deriving DecidableEq

/-- Whether a mark stands on a cluster. -/
def ClusterState.shows (s : ClusterState) : Mark → Bool
  | .closed name => (s.findNode name).any Node.isUnschedulable
  | .tainted name => (s.findNode name).any fun n => Repelling.hasTaint n.taints
  | .tolerating key => (s.findWorkload key).any fun w => Repelling.hasToleration w.tolerations

/-- Whether a workload is there. -/
def ClusterState.hasWorkload (s : ClusterState) (key : ResourceKey) : Bool :=
  (s.findWorkload key).isSome

/-- What a call makes of a mark, if it writes it. -/
def ClusterCall.writes : ClusterCall → Mark → Option Bool
  | .cordonNode name, .closed n => if name = n then some true else none
  | .uncordonNode name, .closed n => if name = n then some false else none
  | .setNodeTaints node taints, .tainted n =>
    if node.name = n then some (Repelling.hasTaint taints) else none
  | .setWorkloadTolerations w tolerations, .tolerating k =>
    if w.key = k then some (Repelling.hasToleration tolerations) else none
  | _, _ => none

/-! ## What a changed node says -/

namespace Kube.Node

@[simp] theorem name_withUnschedulable (n : Node) (b : Bool) :
    (n.withUnschedulable b).name = n.name := rfl

@[simp] theorem isUnschedulable_withUnschedulable (n : Node) (b : Bool) :
    (n.withUnschedulable b).isUnschedulable = b := rfl

@[simp] theorem taints_withTaints (n : Node) (l : List Taint) : (n.withTaints l).taints = l := rfl

@[simp] theorem taints_withUnschedulable (n : Node) (b : Bool) :
    (n.withUnschedulable b).taints = n.taints := by
  cases h : n.spec <;> simp [withUnschedulable, taints, specOrBlank, h]

@[simp] theorem isUnschedulable_withTaints (n : Node) (l : List Taint) :
    (n.withTaints l).isUnschedulable = n.isUnschedulable := by
  cases h : n.spec <;> simp [withTaints, isUnschedulable, specOrBlank, h]

end Kube.Node

namespace ClusterState

/-! ## Look-ups -/

theorem findNode_of_getNode {s : ClusterState} {name : String} {n : Node}
    (h : (s.perform (.getNode name)).1 = .ok n) : s.findNode name = some n := by
  simp only [perform] at h
  split at h
  · next n' hn => cases h; exact hn
  · cases h

theorem findWorkload_of_getWorkload {s : ClusterState} {key : ResourceKey} {w : Workload}
    (h : (s.perform (.getWorkload key)).1 = .ok w) : s.findWorkload key = some w := by
  simp only [perform] at h
  split at h
  · next w' hw => cases h; exact hw
  · cases h

/-! ## Look-ups after a change -/

/-- A change of the first item with a key is seen by the look-up of that key alone. -/
theorem find?_changeFirst {α β : Type} [DecidableEq β] {key : α → β} {change : α → α}
    (hkey : ∀ x, key (change x) = key x) {a b : β} {p q : α → Bool}
    (hp : ∀ x, p x = true ↔ key x = a) (hq : ∀ x, q x = true ↔ key x = b) (l : List α) :
    (changeFirst p change l).find? q =
      if a = b then (l.find? q).map change else l.find? q := by
  induction l with
  | nil => simp [changeFirst]
  | cons x rest ih =>
    by_cases hx : p x
    · have hxa := (hp x).1 hx
      by_cases hb : q x
      · have hab : a = b := hxa.symm.trans ((hq x).1 hb)
        have hq' : q (change x) = true := (hq _).2 ((hkey x).trans ((hq x).1 hb))
        simp [changeFirst, hx, hb, hq', hab]
      · have hab : ¬ a = b := fun h => hb ((hq x).2 (hxa.trans h))
        have hq' : ¬ q (change x) = true := fun h =>
          hb ((hq x).2 ((hkey x).symm.trans ((hq _).1 h)))
        simp [changeFirst, hx, hb, hq', hab]
    · by_cases hb : q x
      · have hab : ¬ a = b := fun h => hx ((hp x).2 (((hq x).1 hb).trans h.symm))
        simp [changeFirst, hx, hb, hab]
      · simp [changeFirst, hx, hb, ih]

theorem findNode_changeNode (s : ClusterState) {change : Node → Node}
    (hname : ∀ n, (change n).name = n.name) (a b : String) :
    (s.changeNode a change).findNode b =
      if a = b then (s.findNode b).map change else s.findNode b :=
  find?_changeFirst hname (fun _ => beq_iff_eq) (fun _ => beq_iff_eq) s.nodes

theorem findWorkload_changeWorkload (s : ClusterState) {change : Workload → Workload}
    (hkey : ∀ w, (change w).key = w.key) (a b : ResourceKey) :
    (s.changeWorkload a change).findWorkload b =
      if a = b then (s.findWorkload b).map change else s.findWorkload b :=
  find?_changeFirst hkey (fun _ => decide_eq_true_iff) (fun _ => decide_eq_true_iff) s.workloads

theorem name_of_findNode {s : ClusterState} {name : String} {n : Node}
    (h : s.findNode name = some n) : n.name = name := by
  simpa using List.find?_some h

theorem key_of_findWorkload {s : ClusterState} {key : ResourceKey} {w : Workload}
    (h : s.findWorkload key = some w) : w.key = key := by
  simpa using List.find?_some h

/-! ## Marks after a call -/

/-- A change of a node that is refused has no effect; one that is made changes what the look-up of
that node finds. -/
theorem onNode_ok {s : ClusterState} {c : ClusterCall} {name : String} {change : Node → Node}
    {a : Unit} (h : (s.onNode c name change).1 = .ok a) :
    ∃ n, s.findNode name = some n ∧ (s.onNode c name change).2 = s.changeNode name change := by
  unfold onNode at h ⊢
  split at h
  · next n hn => exact ⟨n, hn, rfl⟩
  · cases h

theorem onWorkload_ok {s : ClusterState} {c : ClusterCall} {key : ResourceKey}
    {change : Workload → Workload} {a : Unit} (h : (s.onWorkload c key change).1 = .ok a) :
    ∃ w, s.findWorkload key = some w ∧
      (s.onWorkload c key change).2 = s.changeWorkload key change := by
  unfold onWorkload at h ⊢
  split at h
  · next w hw => exact ⟨w, hw, rfl⟩
  · cases h

section Changes

variable (s : ClusterState) {change : Node → Node} {name : String} {n : Node}
  (hname : ∀ n, (change n).name = n.name) (hn : s.findNode name = some n)

include hname hn

/-- Whether a node is closed, after a change of some node. -/
theorem shows_closed_changeNode (x : String) :
    (s.changeNode name change).shows (.closed x) =
      if name = x then (change n).isUnschedulable else s.shows (.closed x) := by
  simp only [shows, findNode_changeNode s hname]
  split
  · next h => subst h; simp [hn]
  · rfl

/-- Whether a node is tainted, after a change of some node. -/
theorem shows_tainted_changeNode (x : String) :
    (s.changeNode name change).shows (.tainted x) =
      if name = x then Repelling.hasTaint (change n).taints else s.shows (.tainted x) := by
  simp only [shows, findNode_changeNode s hname]
  split
  · next h => subst h; simp [hn]
  · rfl

theorem shows_closed_changeNode_of_eq (hsame : (change n).isUnschedulable = n.isUnschedulable)
    (x : String) : (s.changeNode name change).shows (.closed x) = s.shows (.closed x) := by
  rw [shows_closed_changeNode s hname hn, hsame]
  split
  · next h => subst h; simp [shows, hn]
  · rfl

theorem shows_tainted_changeNode_of_eq (hsame : (change n).taints = n.taints) (x : String) :
    (s.changeNode name change).shows (.tainted x) = s.shows (.tainted x) := by
  rw [shows_tainted_changeNode s hname hn, hsame]
  split
  · next h => subst h; simp [shows, hn]
  · rfl

end Changes

section Changes

variable (s : ClusterState) {change : Workload → Workload} {key : ResourceKey} {w : Workload}
  (hkey : ∀ w, (change w).key = w.key) (hw : s.findWorkload key = some w)

include hkey hw

/-- Whether a workload tolerates the taint, after a change of some workload. -/
theorem shows_tolerating_changeWorkload (k : ResourceKey) :
    (s.changeWorkload key change).shows (.tolerating k) =
      if key = k then Repelling.hasToleration (change w).tolerations
      else s.shows (.tolerating k) := by
  simp only [shows, findWorkload_changeWorkload s hkey]
  split
  · next h => subst h; simp [hw]
  · rfl

theorem shows_tolerating_changeWorkload_of_eq (hsame : (change w).tolerations = w.tolerations)
    (k : ResourceKey) :
    (s.changeWorkload key change).shows (.tolerating k) = s.shows (.tolerating k) := by
  rw [shows_tolerating_changeWorkload s hkey hw, hsame]
  split
  · next h => subst h; simp [shows, hw]
  · rfl

end Changes

/-- A call that succeeds changes the mark it writes and no other. -/
theorem shows_perform {s : ClusterState} {c : ClusterCall} {a : c.Reply}
    (h : (s.perform c).1 = .ok a) (m : Mark) :
    (s.perform c).2.shows m = (c.writes m).getD (s.shows m) := by
  cases c with
  | cordonNode name =>
    obtain ⟨n, hn, ht⟩ := onNode_ok h
    simp only [perform, ht]
    cases m with
    | closed x =>
      rw [shows_closed_changeNode s (by intro; rfl) hn]
      simp only [ClusterCall.writes]
      split <;> rfl
    | tainted x => exact shows_tainted_changeNode_of_eq s (by intro; rfl) hn (by simp) x
    | tolerating k => rfl
  | uncordonNode name =>
    obtain ⟨n, hn, ht⟩ := onNode_ok h
    simp only [perform, ht]
    cases m with
    | closed x =>
      rw [shows_closed_changeNode s (by intro; rfl) hn]
      simp only [ClusterCall.writes]
      split <;> rfl
    | tainted x => exact shows_tainted_changeNode_of_eq s (by intro; rfl) hn (by simp) x
    | tolerating k => rfl
  | setNodeTaints node taints =>
    obtain ⟨n, hn, ht⟩ := onNode_ok h
    simp only [perform, ht]
    cases m with
    | closed x => exact shows_closed_changeNode_of_eq s (by intro; rfl) hn (by simp) x
    | tainted x =>
      rw [shows_tainted_changeNode s (by intro; rfl) hn]
      simp only [ClusterCall.writes]
      split <;> rfl
    | tolerating k => rfl
  | setNodeLabel node key value =>
    obtain ⟨n, hn, ht⟩ := onNode_ok h
    simp only [perform, ht]
    cases m with
    | closed x => exact shows_closed_changeNode_of_eq s (by intro; rfl) hn rfl x
    | tainted x => exact shows_tainted_changeNode_of_eq s (by intro; rfl) hn rfl x
    | tolerating k => rfl
  | setWorkloadTolerations w tolerations =>
    obtain ⟨w', hw, ht⟩ := onWorkload_ok h
    simp only [perform, ht]
    cases m with
    | closed x => rfl
    | tainted x => rfl
    | tolerating k =>
      rw [shows_tolerating_changeWorkload s (by intro; rfl) hw]
      simp only [ClusterCall.writes]
      split <;> rfl
  | setWorkloadNodeSelector w selector =>
    obtain ⟨w', hw, ht⟩ := onWorkload_ok h
    simp only [perform, ht]
    cases m with
    | closed x => rfl
    | tainted x => rfl
    | tolerating k => exact shows_tolerating_changeWorkload_of_eq s (by intro; rfl) hw rfl k
  | listNodes | listPods filter | getPod ns name => cases m <;> rfl
  | getNode name | createPod p | deletePod ns name | patchPodLabels p patch | getWorkload key =>
    cases m <;> simp only [perform] <;> split <;> rfl
  | evictPod p dryRun =>
    cases m <;> simp only [perform] <;> split <;> cases dryRun <;> rfl

/-! ## Marks of what is looked up -/

/-- What a look-up of a node says about its marks. -/
theorem shows_of_getNode {s : ClusterState} {name : String} {n : Node}
    (h : (s.perform (.getNode name)).1 = .ok n) :
    s.shows (.closed name) = n.isUnschedulable ∧
      s.shows (.tainted name) = Repelling.hasTaint n.taints := by
  have hn := findNode_of_getNode h
  simp only [shows, hn, Option.any_some, and_self]

theorem shows_of_getWorkload {s : ClusterState} {key : ResourceKey} {w : Workload}
    (h : (s.perform (.getWorkload key)).1 = .ok w) :
    s.shows (.tolerating key) = Repelling.hasToleration w.tolerations := by
  simp only [shows, findWorkload_of_getWorkload h, Option.any_some]

/-! What is absent has no marks. -/

theorem shows_tainted_of_absent {s : ClusterState} {name : String} {e : IsolationError}
    (h : (s.perform (.getNode name)).1 = .error e) : s.shows (.tainted name) = false := by
  simp only [perform] at h
  split at h
  · cases h
  · next hn => simp only [shows, hn, Option.any_none]

theorem shows_tolerating_of_absent {s : ClusterState} {key : ResourceKey} {e : IsolationError}
    (h : (s.perform (.getWorkload key)).1 = .error e) : s.shows (.tolerating key) = false := by
  simp only [perform] at h
  split at h
  · cases h
  · next hw => simp only [shows, hw, Option.any_none]

theorem shows_closed_of_absent {s : ClusterState} {name : String} {e : IsolationError}
    (h : (s.perform (.uncordonNode name)).1 = .error e) : s.shows (.closed name) = false := by
  simp only [perform, onNode] at h
  split at h
  · cases h
  · next hn => simp only [shows, hn, Option.any_none]

end ClusterState

end Cordon
