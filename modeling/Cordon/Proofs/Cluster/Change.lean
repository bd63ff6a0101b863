import Cordon.Proofs.Cluster.Mark
import Cordon.Proofs.Quarantine.Shelf
import Mathlib.Data.List.Nodup

/-! # Changes of a cluster

A change of the first item with a key depends only on that item (`changeNode_congr`), and leaves
the cluster as it is if it leaves the item as it is (`changeNode_of_fixed`).  Pods that are taken
away one after the other are gone together, if no two pods share their namespace and name
(`pods_removePods`).  No call makes two pods share them (`distinct_perform`).
-/

namespace Cordon.ClusterState

open Kube (Node Pod)

section ChangeFirst

variable {α β : Type} {p : α → Bool} {f g : α → α} {l : List α}

theorem changeFirst_congr (h : ∀ a, l.find? p = some a → f a = g a) :
    changeFirst p f l = changeFirst p g l := by
  induction l with
  | nil => rfl
  | cons a rest ih =>
    by_cases ha : p a
    · have hfg := h a (by simp [ha])
      simp [changeFirst, ha, hfg]
    · have hrest := ih fun b hb => h b (by simpa [ha] using hb)
      simp [changeFirst, ha, hrest]

theorem changeFirst_of_fixed (h : ∀ a, l.find? p = some a → f a = a) : changeFirst p f l = l := by
  have hid : changeFirst p id l = l := by
    clear h
    induction l with
    | nil => rfl
    | cons a rest ih => simp [changeFirst, ih]
  exact (changeFirst_congr (g := id) h).trans hid

theorem changeFirst_eq_map [DecidableEq β] {key : α → β} {k : β} (hp : ∀ a, p a = true ↔ key a = k)
    (hl : (l.map key).Nodup) : changeFirst p f l = l.map fun a => if key a = k then f a else a := by
  induction l with
  | nil => rfl
  | cons a rest ih =>
    rw [List.map_cons, List.nodup_cons] at hl
    by_cases ha : key a = k
    · have hrest : rest.map (fun b => if key b = k then f b else b) = rest := by
        refine (List.map_congr_left fun b hb => ?_).trans rest.map_id
        have hne : key b ≠ k := fun h => hl.1 (ha ▸ h ▸ List.mem_map_of_mem (f := key) hb)
        simp [hne]
      simp [changeFirst, (hp a).2 ha, ha, hrest]
    · have hpa : p a = false := Bool.eq_false_iff.2 fun h => ha ((hp a).1 h)
      simp [changeFirst, hpa, ha, ih hl.2]

end ChangeFirst

variable {s : ClusterState} {name : String} {key : ResourceKey}

/-! ## Nodes and workloads -/

section Nodes

variable {f g : Node → Node}

theorem changeNode_congr (h : ∀ n, s.findNode name = some n → f n = g n) :
    s.changeNode name f = s.changeNode name g := by
  unfold changeNode
  rw [changeFirst_congr h]

theorem changeNode_of_fixed (h : ∀ n, s.findNode name = some n → f n = n) :
    s.changeNode name f = s := by
  unfold changeNode
  rw [changeFirst_of_fixed h]

theorem changeNode_of_absent (h : s.findNode name = none) : s.changeNode name f = s :=
  changeNode_of_fixed fun n hn => by simp [h] at hn

theorem changeNode_again (hname : ∀ n, (f n).name = n.name) (hf : ∀ n, f (f n) = f n)
    (s : ClusterState) (name : String) :
    (s.changeNode name f).changeNode name f = s.changeNode name f := by
  refine changeNode_of_fixed fun n hn => ?_
  rw [findNode_changeNode s hname, if_pos rfl] at hn
  obtain ⟨n', -, rfl⟩ := Option.map_eq_some_iff.1 hn
  exact hf n'

end Nodes

section Workloads

variable {f g : Workload → Workload}

theorem changeWorkload_congr (h : ∀ w, s.findWorkload key = some w → f w = g w) :
    s.changeWorkload key f = s.changeWorkload key g := by
  unfold changeWorkload
  rw [changeFirst_congr h]

theorem changeWorkload_of_fixed (h : ∀ w, s.findWorkload key = some w → f w = w) :
    s.changeWorkload key f = s := by
  unfold changeWorkload
  rw [changeFirst_of_fixed h]

theorem changeWorkload_of_absent (h : s.findWorkload key = none) : s.changeWorkload key f = s :=
  changeWorkload_of_fixed fun w hw => by simp [h] at hw

theorem changeWorkload_again (hkey : ∀ w, (f w).key = w.key) (hf : ∀ w, f (f w) = f w)
    (s : ClusterState) (key : ResourceKey) :
    (s.changeWorkload key f).changeWorkload key f = s.changeWorkload key f := by
  refine changeWorkload_of_fixed fun w hw => ?_
  rw [findWorkload_changeWorkload s hkey, if_pos rfl] at hw
  obtain ⟨w', -, rfl⟩ := Option.map_eq_some_iff.1 hw
  exact hf w'

def changeEach (s : ClusterState) (resources : List ResourceRef) (f : Workload → Workload) :
    ClusterState :=
  resources.foldl (fun s r => s.changeWorkload r.key f) s

theorem changeEach_frame (s : ClusterState) (resources : List ResourceRef) :
    (s.changeEach resources f).nodes = s.nodes ∧ (s.changeEach resources f).pods = s.pods ∧
      (s.changeEach resources f).ignoresLabels = s.ignoresLabels := by
  induction resources generalizing s with
  | nil => exact ⟨rfl, rfl, rfl⟩
  | cons r rest ih => exact ih (s.changeWorkload r.key f)

theorem keys_changeEach (hkey : ∀ w, (f w).key = w.key) (s : ClusterState)
    (resources : List ResourceRef) :
    (s.changeEach resources f).workloads.map (·.key) = s.workloads.map (·.key) := by
  induction resources generalizing s with
  | nil => rfl
  | cons r rest ih => exact (ih (s.changeWorkload r.key f)).trans (Shelf.map_changeFirst hkey _ _)

/-- A change that has nothing to do the second time is made once. -/
theorem findWorkload_changeEach (hkey : ∀ w, (f w).key = w.key) (hf : ∀ w, f (f w) = f w)
    (s : ClusterState) (resources : List ResourceRef) (key : ResourceKey) :
    (s.changeEach resources f).findWorkload key =
      (s.findWorkload key).map fun w => if key ∈ resources.map (·.key) then f w else w := by
  induction resources generalizing s with
  | nil => simp [changeEach]
  | cons r rest ih =>
    have hhead := findWorkload_changeWorkload s hkey r.key key
    rw [changeEach, List.foldl_cons, ← changeEach, ih, hhead]
    by_cases heq : r.key = key
    · by_cases hrest : key ∈ rest.map (·.key)
      · simp [heq, hrest, Function.comp_def, hf]
      · simp [heq, hrest, Function.comp_def]
    · simp [heq, Ne.symm heq]

end Workloads

/-! ## Pods -/

theorem findPod_of_mem {p : Pod} (hs : (s.pods.map (·.identity)).Nodup) (hp : p ∈ s.pods) :
    s.findPod p.identity = some p := by
  cases hfind : s.findPod p.identity with
  | none => simpa using List.find?_eq_none.1 hfind p hp
  | some q =>
    have hidentity : q.identity = p.identity := by simpa using List.find?_some hfind
    exact congrArg some (List.inj_on_of_nodup_map hs (List.mem_of_find?_eq_some hfind) hp hidentity)

/-- Pods that have a property are known by their namespaces and names. -/
theorem identity_mem_filter {which : Pod → Bool} {p : Pod}
    (hs : (s.pods.map (·.identity)).Nodup) (hp : p ∈ s.pods) :
    p.identity ∈ (s.pods.filter which).map (·.identity) ↔ which p = true := by
  constructor
  · intro h
    obtain ⟨q, hq, heq⟩ := List.mem_map.1 h
    obtain ⟨hmem, hwhich⟩ := List.mem_filter.1 hq
    rwa [← List.inj_on_of_nodup_map hs hmem hp heq]
  · intro h
    exact List.mem_map.2 ⟨p, List.mem_filter.2 ⟨hp, h⟩, rfl⟩

def removePods (s : ClusterState) (pods : List Pod) : ClusterState :=
  pods.foldl (fun s p => s.removePod p.identity) s

theorem removePod_of_absent {identity : String} (h : s.findPod identity = none) :
    s.removePod identity = s := by
  unfold removePod
  rw [List.eraseP_of_forall_not (List.find?_eq_none.1 h)]

theorem pods_removePod {identity : String} (hs : (s.pods.map (·.identity)).Nodup) :
    (s.removePod identity).pods = s.pods.filter (·.identity ≠ identity) := by
  unfold removePod
  simp only
  generalize s.pods = l at hs
  induction l with
  | nil => rfl
  | cons p rest ih =>
    rw [List.map_cons, List.nodup_cons] at hs
    by_cases hp : p.identity = identity
    · have hrest : rest.filter (·.identity ≠ identity) = rest := by
        refine List.filter_eq_self.2 fun q hq => ?_
        have hne : q.identity ≠ identity := fun h =>
          hs.1 (hp ▸ h ▸ List.mem_map_of_mem (f := (·.identity)) hq)
        simpa using hne
      simpa [hp] using hrest.symm
    · simpa [hp] using ih hs.2

theorem removePods_frame (pods : List Pod) : (s.removePods pods).nodes = s.nodes ∧
    (s.removePods pods).workloads = s.workloads ∧
    (s.removePods pods).ignoresLabels = s.ignoresLabels := by
  induction pods generalizing s with
  | nil => exact ⟨rfl, rfl, rfl⟩
  | cons p rest ih => exact ih (s := s.removePod p.identity)

theorem pods_removePods {pods : List Pod} (hs : (s.pods.map (·.identity)).Nodup) :
    (s.removePods pods).pods = s.pods.filter (·.identity ∉ pods.map (·.identity)) := by
  induction pods generalizing s with
  | nil => simp [removePods]
  | cons p rest ih =>
    have hpods : (s.removePod p.identity).pods = s.pods.filter (·.identity ≠ p.identity) :=
      pods_removePod hs
    have hrest : ((s.removePod p.identity).pods.map (·.identity)).Nodup := by
      rw [hpods]
      exact hs.sublist (List.filter_sublist.map _)
    rw [removePods, List.foldl_cons, ← removePods, ih hrest, hpods, List.filter_filter]
    refine List.filter_congr fun q _ => ?_
    simp [Bool.and_comm]

/-- The pods that have a property are gone once each of them has been taken away. -/
theorem pods_removePods_filter {which : Pod → Bool} (hs : (s.pods.map (·.identity)).Nodup) :
    (s.removePods (s.pods.filter which)).pods = s.pods.filter (!which ·) := by
  rw [pods_removePods hs]
  refine List.filter_congr fun p hp => ?_
  have hiff : p.identity ∈ (s.pods.filter which).map (·.identity) ↔ which p = true :=
    identity_mem_filter hs hp
  cases h : which p <;> simp [hiff, h]

/-! ## Pods with different names -/

section Distinct

variable {c : ClusterCall}

/-- No two pods have the same namespace and name. -/
def Distinct (s : ClusterState) : Prop := (s.pods.map (·.identity)).Nodup

theorem pods_onNode (name : String) (f : Node → Node) : (s.onNode c name f).2.pods = s.pods := by
  unfold onNode
  split
  · rfl
  · rfl

theorem pods_onWorkload (key : ResourceKey) (f : Workload → Workload) :
    (s.onWorkload c key f).2.pods = s.pods := by
  unfold onWorkload
  split
  · rfl
  · rfl

theorem distinct_removePod (hs : s.Distinct) (identity : String) :
    (s.removePod identity).Distinct := by
  unfold Distinct
  rw [pods_removePod hs]
  exact hs.sublist (List.filter_sublist.map _)

/-- A pod is created only where there is none. -/
theorem distinct_perform (hs : s.Distinct) (c : ClusterCall) : (s.perform c).2.Distinct := by
  have hsame : ∀ {t : ClusterState}, t.pods = s.pods → t.Distinct := fun h => by
    unfold Distinct
    rw [h]
    exact hs
  cases c with
  | listNodes | listPods _ | getPod _ _ => exact hs
  | cordonNode _ | uncordonNode _ | setNodeTaints _ _ | setNodeLabel _ _ _ =>
    exact hsame (pods_onNode _ _)
  | setWorkloadTolerations _ _ | setWorkloadNodeSelector _ _ => exact hsame (pods_onWorkload _ _)
  | getNode _ | getWorkload _ =>
    simp only [perform]
    split
    · exact hs
    · exact hs
  | createPod p =>
    simp only [perform]
    split
    · exact hs
    · next hnone =>
      show (List.map _ (s.pods ++ [p])).Nodup
      rw [List.map_append, List.nodup_append]
      refine ⟨hs, List.nodup_singleton _, fun a ha b hb hab => ?_⟩
      obtain ⟨p', hp', rfl⟩ := List.mem_map.1 ha
      cases List.mem_singleton.1 hb
      simpa [hab] using List.find?_eq_none.1 hnone p' hp'
  | deletePod ns name =>
    simp only [perform]
    split
    · exact distinct_removePod hs _
    · exact hs
  | patchPodLabels p patch =>
    simp only [perform]
    split
    · show (List.map _ (changeFirst _ _ s.pods)).Nodup
      have hsame : ∀ p, (relabel patch p).identity = p.identity := fun _ => rfl
      rw [Shelf.map_changeFirst hsame]
      exact hs
    · exact hs
  | evictPod p dryRun =>
    simp only [perform]
    split
    · cases dryRun with
      | true => exact hs
      | false => exact distinct_removePod hs _
    · exact hs

theorem findPod_removePod (hs : s.Distinct) (identity : String) :
    (s.removePod identity).findPod identity = none := by
  unfold findPod
  rw [pods_removePod hs]
  refine List.find?_eq_none.2 fun p hp => ?_
  simpa using (List.mem_filter.1 hp).2

end Distinct

end Cordon.ClusterState
