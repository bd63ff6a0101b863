import Cordon.Proofs.Run.Footprint

/-! # What each operation writes

Every operation of isolation touches the marks of the one node or of the tracked workloads that it
is about, and each sets its marks one way only: what puts something on the cluster takes nothing
off, and the other way round.  Pods carry no mark, so debug pods, marked pods and emptying a node
leave all marks alone.

The operations that write read first, and write to what the look-up returned; `Grants` carries the
name or the key from the one to the other.
-/

namespace Cordon

open Kube (Node Taint Toleration)

/-! ## Taints and tolerations -/

namespace Repelling

theorem hasTaint_withTaint {l taints : List Taint} (h : withTaint l = some taints) :
    hasTaint taints = true := by
  unfold withTaint at h
  split at h
  · cases h
  · cases h
    simp [hasTaint, isQuarantineTaint, quarantineTaint]

theorem hasTaint_withoutTaint {l taints : List Taint} (h : withoutTaint l = some taints) :
    hasTaint taints = false := by
  unfold withoutTaint at h
  split at h
  · cases h
    simp [hasTaint]
  · cases h

theorem hasTaint_of_withoutTaint_none {l : List Taint} (h : withoutTaint l = none) :
    hasTaint l = false := by
  unfold withoutTaint at h
  split at h
  · cases h
  · next hl => exact Bool.eq_false_iff.2 hl

theorem hasToleration_withToleration {l tolerations : List Toleration}
    (h : withToleration l = some tolerations) : hasToleration tolerations = true := by
  unfold withToleration at h
  split at h
  · cases h
  · cases h
    simp [hasToleration, isQuarantineToleration, quarantineToleration]

theorem hasToleration_of_withToleration_none {l : List Toleration}
    (h : withToleration l = none) : hasToleration l = true := by
  unfold withToleration at h
  split at h
  · next hl => exact hl
  · cases h

theorem hasToleration_withoutToleration {l tolerations : List Toleration}
    (h : withoutToleration l = some tolerations) : hasToleration tolerations = false := by
  unfold withoutToleration at h
  split at h
  · cases h
    simp [hasToleration]
  · cases h

theorem hasToleration_of_withoutToleration_none {l : List Toleration}
    (h : withoutToleration l = none) : hasToleration l = false := by
  unfold withoutToleration at h
  split at h
  · cases h
  · next hl => exact Bool.eq_false_iff.2 hl

end Repelling

/-! ## Calls -/

namespace Footprint

/-- One mark, set to one value. -/
def only (m : Mark) (b : Bool) : Footprint := fun m' b' => m' = m ∧ b' = b

/-- The tolerations of some workloads, set to one value. -/
def tolerations (resources : List ResourceRef) (b : Bool) : Footprint := fun m b' =>
  (∃ r ∈ resources, m = .tolerating r.key) ∧ b' = b

end Footprint

namespace ClusterCall

variable {P : Footprint} {c : ClusterCall}

/-- The mark that a call writes, and to what. -/
def target : ClusterCall → Option (Mark × Bool)
  | cordonNode name => some (.closed name, true)
  | uncordonNode name => some (.closed name, false)
  | setNodeTaints node taints => some (.tainted node.name, Repelling.hasTaint taints)
  | setWorkloadTolerations w tolerations =>
    some (.tolerating w.key, Repelling.hasToleration tolerations)
  | _ => none

theorem target_of_writes {m : Mark} {b : Bool} (h : c.writes m = some b) :
    c.target = some (m, b) := by
  cases c with
  | cordonNode name | uncordonNode name | setNodeTaints node taints
  | setWorkloadTolerations w tolerations =>
    -- Each of these writes one kind of mark, and of that kind only the one it names.
    cases m <;> simp only [writes] at h <;> first | cases h | split at h
    · next heq => cases h; rw [target, heq]
    · cases h
  | _ => cases m <;> cases h

theorem staysIn_of_target {m : Mark} {b : Bool} (h : c.target = some (m, b)) (hP : P m b) :
    c.StaysIn P := by
  intro m' b' hw
  have heq := h.symm.trans (target_of_writes hw)
  cases heq
  exact hP

theorem staysIn_of_plain (h : c.target = none) : c.StaysIn P := by
  intro m b hw
  cases h.symm.trans (target_of_writes hw)

end ClusterCall

namespace Isolation

open Clustered

variable {P : Footprint}

/-! ## Pods -/

theorem staysIn_isIsolated (node : String) : StaysIn P (isIsolated node) :=
  (staysIn_call (ClusterCall.staysIn_of_plain rfl)).bind fun _ => staysIn_pure _

theorem staysIn_markPod (w : Workload) (p : Kube.Pod) : StaysIn P (markPod w p) := by
  unfold markPod
  split
  · split
    · exact staysIn_call (ClusterCall.staysIn_of_plain rfl)
    · exact staysIn_pure ()
  · exact staysIn_pure ()

theorem staysIn_markPods (node : String) (w : Workload) : StaysIn P (markPods node w) := by
  unfold markPods
  split
  · exact staysIn_pure ()
  · refine (staysIn_call (ClusterCall.staysIn_of_plain rfl)).bind fun pods => ?_
    exact staysIn_forM fun p _ => staysIn_markPod w p

theorem staysIn_deployDebug (t : Target) : StaysIn P (deployDebug t) := by
  refine (staysIn_call (ClusterCall.staysIn_of_plain rfl)).bind fun found => ?_
  cases found with
  | some p => exact staysIn_pure ()
  | none => exact staysIn_call (ClusterCall.staysIn_of_plain rfl)

theorem staysIn_removeDebug (name namespaceName : String) :
    StaysIn P (removeDebug name namespaceName) :=
  staysIn_orAbsent (staysIn_call (ClusterCall.staysIn_of_plain rfl))

theorem staysIn_removePod (p : Kube.Pod) : StaysIn P (removePod p) :=
  staysIn_orAbsent (staysIn_call (ClusterCall.staysIn_of_plain rfl))

theorem staysIn_removeIsolatedPods (node : String) : StaysIn P (removeIsolatedPods node) :=
  (staysIn_call (ClusterCall.staysIn_of_plain rfl)).bind fun _ =>
    staysIn_forM fun p _ => staysIn_removePod p

theorem staysIn_cleanupIsolatedPods : StaysIn P cleanupIsolatedPods :=
  (staysIn_call (ClusterCall.staysIn_of_plain rfl)).bind fun _ =>
    staysIn_forM fun p _ => staysIn_removePod p

/-! ## Scheduling -/

theorem staysIn_disableScheduling (node : String) :
    StaysIn (.only (.closed node) true) (disableScheduling node) :=
  staysIn_call (ClusterCall.staysIn_of_target rfl ⟨rfl, rfl⟩)

theorem staysIn_enableScheduling (node : String) :
    StaysIn (.only (.closed node) false) (enableScheduling node) :=
  staysIn_orAbsent (staysIn_call (ClusterCall.staysIn_of_target rfl ⟨rfl, rfl⟩))

/-! ## Taints -/

theorem staysIn_taintNode (node : String) :
    StaysIn (.only (.tainted node) true) (taintNode node) := by
  refine (grants_call (ClusterCall.staysIn_of_plain rfl)).bind fun n hn => ?_
  cases h : Repelling.withTaint n.taints with
  | none => exact staysIn_pure ()
  | some taints =>
    have hname : n.name = node := hn
    refine staysIn_call (ClusterCall.staysIn_of_target rfl ⟨?_, ?_⟩)
    · rw [hname]
    · exact Repelling.hasTaint_withTaint h

theorem staysIn_untaintNode (node : String) :
    StaysIn (.only (.tainted node) false) (untaintNode node) := by
  refine (grants_call (ClusterCall.staysIn_of_plain rfl)).ifPresent.bind fun found hfound => ?_
  cases found with
  | none => exact staysIn_pure ()
  | some n =>
    have hname : n.name = node := hfound n rfl
    dsimp only
    cases h : Repelling.withoutTaint n.taints with
    | none => exact staysIn_pure ()
    | some taints =>
      refine staysIn_call (ClusterCall.staysIn_of_target rfl ⟨?_, ?_⟩)
      · rw [hname]
      · exact Repelling.hasTaint_withoutTaint h

/-! ## Tolerations -/

theorem staysIn_addToleration (w : Workload) :
    StaysIn (.only (.tolerating w.key) true) (addToleration w) := by
  unfold addToleration
  cases h : Repelling.withToleration w.tolerations with
  | none => exact staysIn_pure ()
  | some tolerations =>
    refine staysIn_call (ClusterCall.staysIn_of_target rfl ⟨rfl, ?_⟩)
    exact Repelling.hasToleration_withToleration h

theorem staysIn_stripToleration (w : Workload) :
    StaysIn (.only (.tolerating w.key) false) (stripToleration w) := by
  unfold stripToleration
  cases h : Repelling.withoutToleration w.tolerations with
  | none => exact staysIn_pure ()
  | some tolerations =>
    refine staysIn_call (ClusterCall.staysIn_of_target rfl ⟨rfl, ?_⟩)
    exact Repelling.hasToleration_withoutToleration h

/-- On a node that is not to be isolated, no workload is given the toleration. -/
theorem staysIn_isolateWorkload (node : String) (isolated : Bool) (r : ResourceRef) :
    StaysIn (fun m b => isolated = true ∧ Footprint.only (.tolerating r.key) true m b)
      (isolateWorkload node isolated r) := by
  refine (grants_call (ClusterCall.staysIn_of_plain rfl)).bind fun w hw => ?_
  refine (staysIn_markPods node w).bind fun _ => ?_
  split
  · next h =>
    have hkey : w.key = r.key := hw
    refine (staysIn_addToleration w).mono fun m b hm => ⟨h, ?_⟩
    rw [← hkey]
    exact hm
  · exact staysIn_pure ()

theorem staysIn_isolate (t : Target) (isolated : Bool) :
    StaysIn (fun m b => isolated = true ∧ Footprint.tolerations t.resources true m b)
      (isolate t isolated) := by
  refine staysIn_forM fun r hr => (staysIn_isolateWorkload t.name isolated r).mono ?_
  rintro m b ⟨h, hm, hb⟩
  exact ⟨h, ⟨r, hr, hm⟩, hb⟩

theorem staysIn_removeToleration (r : ResourceRef) :
    StaysIn (.only (.tolerating r.key) false) (removeToleration r) := by
  refine (grants_call (ClusterCall.staysIn_of_plain rfl)).ifPresent.bind fun found hfound => ?_
  cases found with
  | none => exact staysIn_pure ()
  | some w =>
    have hkey : w.key = r.key := hfound w rfl
    rw [← hkey]
    exact staysIn_stripToleration w

end Isolation

/-! ## Emptying a node -/

namespace Drain

variable {P : Footprint}

theorem obeys_fill (places : Nat) (waiting : List Task) (running : List Running) (e : Evictor) :
    (fill places waiting running e).Obeys P.drains fun _ => True := by
  induction places generalizing waiting running e with
  | zero => exact trivial
  | succ places ih =>
    cases waiting with
    | nil => exact trivial
    | cons t rest => exact ⟨trivial, fun _ _ => ih _ _ _⟩

theorem obeys_runTasks (node : String) (n : Nat) (waiting : List Task) (running : List Running)
    (e : Evictor) : (runTasks node n waiting running e).Obeys P.drains fun _ => True := by
  induction n generalizing waiting running e with
  | zero => exact trivial
  | succ n ih =>
    refine (obeys_fill _ waiting running e).andThen fun filled _ => ?_
    obtain ⟨waiting, running, e⟩ := filled
    cases running with
    | nil => exact trivial
    | cons first rest =>
      refine ⟨trivial, fun answer _ => ?_⟩
      refine (ih _ _ _).andThen fun errors _ => ?_
      split <;> exact trivial

theorem staysIn_keptWorkloads (l : List ResourceRef) : Clustered.StaysIn P (keptWorkloads l) := by
  induction l with
  | nil => exact Clustered.staysIn_pure []
  | cons r rest ih =>
    refine Clustered.StaysIn.bind ?_ fun found => ih.bind fun others => Clustered.staysIn_pure _
    exact (Clustered.staysIn_call (ClusterCall.staysIn_of_plain rfl)).ifPresent.staysIn

/-- Pods that leave a node take no mark with them. -/
theorem obeys_deschedule (t : Target) : (deschedule t).run.Obeys P.drains fun _ => True := by
  have hcalls {α : Type} {p : Clustered α} (h : Clustered.StaysIn P p) :
      (sequentially p).run.Obeys P.drains fun _ => True :=
    (Program.Obeys.sequentially h).mono fun _ _ => trivial
  refine (hcalls (staysIn_keptWorkloads t.kept)).bindExcept fun kept => ?_
  refine (hcalls (Clustered.staysIn_call (ClusterCall.staysIn_of_plain rfl))).bindExcept
    fun pods => ?_
  refine Program.Obeys.bindExcept ?_ fun errors => ?_
  · refine (obeys_runTasks t.name _ _ _ _).andThen fun errors _ => ?_
    exact trivial
  · cases errors with
    | nil => exact trivial
    | cons e rest =>
      simp only
      split <;> exact trivial

end Drain

end Cordon
