import Cordon.Drain.Plan
import Cordon.Proofs.Isolation.Selectors

/-! # Which pods may leave a node

A plan is a chain of tests, and an earlier test hides those behind it.  The first five look at the
pod and at kept workloads: a pod that does not pass them stays, whatever the flags say
(`skip_of_not_free`).  For one that does, the flags decide (`plan_of_free`).

`Removable` says in the terms of the pod what it takes to pass all tests, and exactly the pods that
do are evicted or deleted (`plan_eq_evict_iff`, `plan_eq_delete_iff`).  What goes still goes if more
is allowed, what stays does so whatever is allowed, and more kept workloads only hold more pods;
`plans_safely` puts these together.
-/

namespace Cordon

open Kube (Pod OwnerReference)

theorem Workload.claims_iff {w : Workload} {p : Pod} : w.claims p = true ↔
    p.metadata.namespaceName = some w.key.namespaceName ∧ w.matchLabels ≠ .empty ∧
      ∀ key value, w.matchLabels.get? key = some value → p.labels.get? key = some value := by
  rw [claims, Bool.and_eq_true, decide_eq_true_iff, labelsMatch_iff]

namespace Drain

variable {p : Pod} {flags flags' : ResolvedFlags} {kept kept' : List Workload} {reason : String}

/-! ## Pods that nothing holds -/

/-- No test holds the pod on its node, whatever the flags say. -/
structure Free (p : Pod) (kept : List Workload) : Prop where
  completed : ¬ isCompleted p = true
  marked : ¬ Marking.isQuarantined p = true
  debug : ¬ Marking.isDebug p = true
  mirror : ¬ isMirror p = true
  claimed : ¬ kept.any (·.claims p) = true

/-- What happens to a pod that nothing holds on its node. -/
def planFree (p : Pod) (flags : ResolvedFlags) : Action :=
  if isDaemonsetPod p then
    if flags.ignoreAllDaemonSets then .skip "member of a DaemonSet"
    else .refuse "managed by a DaemonSet and ignoreAllDaemonSets is not set"
  else if usesEmptyDir p && !flags.deleteEmptyDirData then
    .refuse "uses emptyDir local storage and deleteEmptyDirData is not set"
  else if !hasController p && !flags.force then
    .refuse "not managed by a controller and force is not set"
  else if flags.disableEviction then .delete
  else .evict

theorem plan_of_free (h : Free p kept) : plan p flags kept = planFree p flags := by
  rw [plan, if_neg h.completed, if_neg h.marked, if_neg h.debug, if_neg h.mirror, if_neg h.claimed,
    planFree]

theorem skip_of_not_free (h : ¬ Free p kept) :
    ∃ reason, ∀ flags, plan p flags kept = .skip reason := by
  by_cases hcompleted : isCompleted p = true
  · exact ⟨_, fun flags => if_pos hcompleted⟩
  by_cases hmarked : Marking.isQuarantined p = true
  · exact ⟨_, fun flags => by rw [plan, if_neg hcompleted, if_pos hmarked]⟩
  by_cases hdebug : Marking.isDebug p = true
  · exact ⟨_, fun flags => by rw [plan, if_neg hcompleted, if_neg hmarked, if_pos hdebug]⟩
  by_cases hmirror : isMirror p = true
  · exact ⟨_, fun flags => by
      rw [plan, if_neg hcompleted, if_neg hmarked, if_neg hdebug, if_pos hmirror]⟩
  by_cases hclaimed : kept.any (·.claims p) = true
  · exact ⟨_, fun flags => by
      rw [plan, if_neg hcompleted, if_neg hmarked, if_neg hdebug, if_neg hmirror,
        if_pos hclaimed]⟩
  exact absurd ⟨hcompleted, hmarked, hdebug, hmirror, hclaimed⟩ h

theorem skip_of_isQuarantined (h : Marking.isQuarantined p = true) :
    ∃ reason, plan p flags kept = .skip reason := by
  have hheld : ¬ Free p kept := fun hfree => hfree.marked h
  obtain ⟨reason, hskip⟩ := skip_of_not_free hheld
  exact ⟨reason, hskip flags⟩

/-! ## Pods that may be removed -/

/-- An owner that keeps a pod running. -/
def Controls (o : OwnerReference) (p : Pod) : Prop :=
  ∃ owners, p.metadata.ownerReferences = some owners ∧ o ∈ owners ∧ o.controller = some true

/-- A pod has a volume of its own on the node, which is lost with it. -/
def HasScratch (p : Pod) : Prop :=
  ∃ spec volumes, p.spec = some spec ∧ spec.volumes = some volumes ∧
    ∃ v ∈ volumes, ∃ source ∈ v.sources, source.1 = "emptyDir"

/-- A pod that nothing holds on its node, and that the flags let go. -/
structure Removable (p : Pod) (flags : ResolvedFlags) (kept : List Workload) : Prop where
  unfinished : p.phase ≠ some "Failed" ∧ p.phase ≠ some "Succeeded"
  unmarked : p.labels.get? Convention.sentinelKey ≠ some Convention.sentinelValue
  notDebug : p.labels.get? Convention.debugLabel = none
  notMirror : ∀ annotations, p.metadata.annotations = some annotations →
    annotations.get? Convention.mirrorAnnotation = none
  unclaimed : ∀ w ∈ kept, ¬ (p.metadata.namespaceName = some w.key.namespaceName ∧
    w.matchLabels ≠ .empty ∧
      ∀ key value, w.matchLabels.get? key = some value → p.labels.get? key = some value)
  notDaemonset : ∀ o, Controls o p → o.kind ≠ "DaemonSet"
  scratch : HasScratch p → flags.deleteEmptyDirData = true
  controlled : (∃ o, Controls o p) ∨ flags.force = true

theorem isMirror_iff : isMirror p = true ↔ ∃ annotations,
    p.metadata.annotations = some annotations ∧
      annotations.get? Convention.mirrorAnnotation ≠ none := by
  unfold isMirror
  cases p.metadata.annotations with
  | none => simp [Dict.contains]
  | some annotations => simp [Dict.contains, Option.isSome_iff_ne_none]

theorem hasController_iff : hasController p = true ↔ ∃ o, Controls o p := by
  unfold hasController Controls
  cases p.metadata.ownerReferences <;> simp

theorem isDaemonsetPod_iff :
    isDaemonsetPod p = true ↔ ∃ o, Controls o p ∧ o.kind = "DaemonSet" := by
  unfold isDaemonsetPod Controls
  cases p.metadata.ownerReferences <;> simp [and_assoc]

theorem usesEmptyDir_iff : usesEmptyDir p = true ↔ HasScratch p := by
  unfold usesEmptyDir HasScratch
  cases p.spec with
  | none => simp
  | some spec => cases hvolumes : spec.volumes <;> simp [hvolumes]

/-- The tests of a plan, in the terms of the pod. -/
theorem removable_iff : Removable p flags kept ↔
    Free p kept ∧ ¬ isDaemonsetPod p = true ∧
      ¬ (usesEmptyDir p && !flags.deleteEmptyDirData) = true ∧
      ¬ (!hasController p && !flags.force) = true := by
  have hcompleted : ¬ isCompleted p = true ↔
      p.phase ≠ some "Failed" ∧ p.phase ≠ some "Succeeded" := by simp [isCompleted]
  have hmarked : ¬ Marking.isQuarantined p = true ↔
      p.labels.get? Convention.sentinelKey ≠ some Convention.sentinelValue := by
    simp [Marking.isQuarantined]
  have hdebug : ¬ Marking.isDebug p = true ↔ p.labels.get? Convention.debugLabel = none := by
    simp [Marking.isDebug, Dict.contains]
  have hmirror : ¬ isMirror p = true ↔ ∀ annotations, p.metadata.annotations = some annotations →
      annotations.get? Convention.mirrorAnnotation = none := by
    rw [isMirror_iff]
    simp
  have hclaimed : ¬ kept.any (·.claims p) = true ↔ ∀ w ∈ kept, ¬ w.claims p = true := by simp
  have hdaemonset : ¬ isDaemonsetPod p = true ↔ ∀ o, Controls o p → o.kind ≠ "DaemonSet" := by
    rw [isDaemonsetPod_iff]
    simp
  have hscratch : ¬ (usesEmptyDir p && !flags.deleteEmptyDirData) = true ↔
      (HasScratch p → flags.deleteEmptyDirData = true) := by
    rw [← usesEmptyDir_iff]
    simp
  have hcontrolled : ¬ (!hasController p && !flags.force) = true ↔
      (∃ o, Controls o p) ∨ flags.force = true := by
    rw [← hasController_iff, or_iff_not_imp_left]
    simp
  simp only [Workload.claims_iff] at hclaimed
  constructor
  · intro h
    exact ⟨⟨hcompleted.2 h.unfinished, hmarked.2 h.unmarked, hdebug.2 h.notDebug,
      hmirror.2 h.notMirror, hclaimed.2 h.unclaimed⟩, hdaemonset.2 h.notDaemonset,
      hscratch.2 h.scratch, hcontrolled.2 h.controlled⟩
  · rintro ⟨hfree, howner, hstorage, hforce⟩
    exact ⟨hcompleted.1 hfree.completed, hmarked.1 hfree.marked, hdebug.1 hfree.debug,
      hmirror.1 hfree.mirror, hclaimed.1 hfree.claimed, hdaemonset.1 howner,
      hscratch.1 hstorage, hcontrolled.1 hforce⟩

/-- A pod is to go, one way or the other. -/
def Action.Removes : Action → Prop
  | .evict | .delete => True
  | .skip _ | .refuse _ => False

theorem removable_of_removes (h : (plan p flags kept).Removes) : Removable p flags kept := by
  by_cases hfree : Free p kept
  · rw [plan_of_free hfree, planFree] at h
    split_ifs at h with hdaemonset hall hscratch hcontrolled
    -- Each test that the pod does not pass has an outcome that leaves it where it is.
    all_goals try exact h.elim
    all_goals exact removable_iff.2 ⟨hfree, hdaemonset, hscratch, hcontrolled⟩
  · obtain ⟨reason, hskip⟩ := skip_of_not_free hfree
    rw [hskip] at h
    exact h.elim

theorem plan_of_removable (h : Removable p flags kept) :
    plan p flags kept = if flags.disableEviction then .delete else .evict := by
  obtain ⟨hfree, hdaemonset, hscratch, hcontrolled⟩ := removable_iff.1 h
  rw [plan_of_free hfree, planFree, if_neg hdaemonset, if_neg hscratch, if_neg hcontrolled]

theorem plan_eq_iff {a : Action} (ha : a.Removes) : plan p flags kept = a ↔
    Removable p flags kept ∧ a = if flags.disableEviction then .delete else .evict := by
  constructor
  · rintro rfl
    have hremovable := removable_of_removes ha
    exact ⟨hremovable, plan_of_removable hremovable⟩
  · rintro ⟨hremovable, rfl⟩
    exact plan_of_removable hremovable

theorem plan_eq_evict_iff :
    plan p flags kept = .evict ↔ Removable p flags kept ∧ flags.disableEviction = false := by
  rw [plan_eq_iff (by trivial)]
  simp

theorem plan_eq_delete_iff :
    plan p flags kept = .delete ↔ Removable p flags kept ∧ flags.disableEviction = true := by
  rw [plan_eq_iff (by trivial)]
  simp

/-! ## Other flags -/

/-- Flags that let go whatever others let go, and do not differ otherwise. -/
structure Looser (flags flags' : ResolvedFlags) : Prop where
  force : flags.force = true → flags'.force = true
  scratch : flags.deleteEmptyDirData = true → flags'.deleteEmptyDirData = true
  daemonsets : flags'.ignoreAllDaemonSets = flags.ignoreAllDaemonSets
  eviction : flags'.disableEviction = flags.disableEviction

theorem looser_force : Looser flags { flags with force := true } :=
  ⟨fun _ => rfl, id, rfl, rfl⟩

theorem looser_scratch : Looser flags { flags with deleteEmptyDirData := true } :=
  ⟨id, fun _ => rfl, rfl, rfl⟩

theorem Removable.mono (h : Removable p flags kept) (hflags : Looser flags flags') :
    Removable p flags' kept :=
  { h with
    scratch := fun hscratch => hflags.scratch (h.scratch hscratch)
    controlled := h.controlled.imp_right hflags.force }

/-- A pod that goes still goes, in the same way. -/
theorem plan_of_removes (hflags : Looser flags flags') (h : (plan p flags kept).Removes) :
    plan p flags' kept = plan p flags kept := by
  have hremovable := removable_of_removes h
  rw [plan_of_removable (hremovable.mono hflags), plan_of_removable hremovable, hflags.eviction]

/-- Of the flags only the one for daemon sets keeps a pod where it is. -/
theorem skip_congr (hflags : flags'.ignoreAllDaemonSets = flags.ignoreAllDaemonSets) :
    plan p flags' kept = .skip reason ↔ plan p flags kept = .skip reason := by
  by_cases hfree : Free p kept
  · rw [plan_of_free hfree, plan_of_free hfree, planFree, planFree, hflags]
    split_ifs <;> simp
  · obtain ⟨reason', hskip⟩ := skip_of_not_free hfree
    rw [hskip, hskip]

/-- The other way to go. -/
def Action.swapped : Action → Action
  | .evict => .delete
  | .delete => .evict
  | .skip reason => .skip reason
  | .refuse reason => .refuse reason

theorem plan_swapped : plan p { flags with disableEviction := !flags.disableEviction } kept =
    (plan p flags kept).swapped := by
  by_cases hfree : Free p kept
  · simp only [plan_of_free hfree, planFree, apply_ite Action.swapped]
    cases flags.disableEviction <;> rfl
  · obtain ⟨reason, hskip⟩ := skip_of_not_free hfree
    rw [hskip, hskip, Action.swapped]

/-! ## Other kept workloads -/

/-- A plan looks at kept workloads only to see whether one of them claims the pod. -/
theorem plan_congr (h : kept.any (·.claims p) = kept'.any (·.claims p)) :
    plan p flags kept = plan p flags kept' := by
  unfold plan
  rw [h]

theorem plan_of_same (h : ∀ w, w ∈ kept ↔ w ∈ kept') :
    plan p flags kept = plan p flags kept' := by
  refine plan_congr ?_
  rw [Bool.eq_iff_iff]
  simp [h]

theorem Free.subset (h : Free p kept') (hkept : kept ⊆ kept') : Free p kept := by
  refine { h with claimed := fun hclaimed => h.claimed ?_ }
  obtain ⟨w, hw, hclaims⟩ := List.any_eq_true.1 hclaimed
  exact List.any_eq_true.2 ⟨w, hkept hw, hclaims⟩

/-- A pod that stays does so if more workloads are kept. -/
theorem skip_of_subset (h : kept ⊆ kept') (hskip : plan p flags kept = .skip reason) :
    ∃ reason', plan p flags kept' = .skip reason' := by
  by_cases hfree : Free p kept'
  · rw [plan_of_free (hfree.subset h)] at hskip
    exact ⟨reason, (plan_of_free hfree).trans hskip⟩
  · obtain ⟨reason', hskip'⟩ := skip_of_not_free hfree
    exact ⟨reason', hskip' flags⟩

/-- The plan for a pod: it goes exactly if nothing holds it on its node and the flags let it go;
what goes or stays does so whatever else is allowed; the one flag swaps the two ways to go; kept
workloads count as a set, and a pod that stays does so if more of them are kept. -/
theorem plans_safely (p : Pod) (flags : ResolvedFlags) (kept : List Workload) :
    (plan p flags kept = .evict ↔ Removable p flags kept ∧ flags.disableEviction = false) ∧
    (plan p flags kept = .delete ↔ Removable p flags kept ∧ flags.disableEviction = true) ∧
    (∀ flags', Looser flags flags' →
      ((plan p flags kept).Removes → plan p flags' kept = plan p flags kept) ∧
      ∀ reason, plan p flags kept = .skip reason → plan p flags' kept = .skip reason) ∧
    plan p { flags with disableEviction := !flags.disableEviction } kept =
      (plan p flags kept).swapped ∧
    (∀ kept', (∀ w, w ∈ kept ↔ w ∈ kept') → plan p flags kept = plan p flags kept') ∧
    ∀ kept', kept ⊆ kept' → ∀ reason, plan p flags kept = .skip reason →
      ∃ reason', plan p flags kept' = .skip reason' := by
  refine ⟨plan_eq_evict_iff, plan_eq_delete_iff, fun flags' hflags => ⟨fun h => ?_, fun _ h => ?_⟩,
    plan_swapped, fun kept' h => plan_of_same h, fun kept' h reason hskip => ?_⟩
  · exact plan_of_removes hflags h
  · exact (skip_congr hflags.daemonsets).2 h
  · exact skip_of_subset h hskip

/-- A pod of a deployment with a volume of its own on the node. -/
def scratchPod : Pod where
  metadata :=
    { Kube.ObjectMeta.blank with
      namespaceName := some "prod"
      labels := some (.singleton "app" "web")
      ownerReferences := some [⟨"apps/v1", none, some true, "ReplicaSet", "web", "u"⟩] }
  spec := some ⟨none, [], some [⟨"scratch", [("emptyDir", .obj [])]⟩], none, []⟩
  status := none

/-- It goes where its data may be deleted, and stays where its deployment is kept. -/
theorem plans_safely_of_scratch :
    let flags := { ResolvedFlags.default with deleteEmptyDirData := true }
    let web : Workload := ⟨⟨.deployment, "web", "prod"⟩, none, .singleton "app" "web", [], .empty⟩
    plan scratchPod flags [] = .evict ∧ Removable scratchPod flags [] ∧
      Looser flags { flags with force := true } ∧
      plan scratchPod { flags with force := true } [] = plan scratchPod flags [] ∧
      plan scratchPod { flags with disableEviction := true } [] = .delete ∧
      plan scratchPod .default [web] = .skip "kept workload" ∧
      Looser .default flags ∧ plan scratchPod flags [web] = .skip "kept workload" ∧
      plan scratchPod .default [web] = plan scratchPod .default [web, web] ∧
      ∃ reason, plan scratchPod .default [web, web] = .skip reason := by
  intro flags web
  have hevict : plan scratchPod flags [] = .evict := by decide +kernel
  have hremoves : (plan scratchPod flags []).Removes := by rw [hevict]; trivial
  have hkept : plan scratchPod .default [web] = .skip "kept workload" := by decide +kernel
  obtain ⟨hgoes, -, hlooser, hswapped, -, -⟩ := plans_safely scratchPod flags []
  rw [hevict] at hswapped
  obtain ⟨-, -, hlooser', -, hsame, hmore⟩ := plans_safely scratchPod .default [web]
  exact ⟨hevict, (hgoes.1 hevict).1, looser_force, (hlooser _ looser_force).1 hremoves, hswapped,
    hkept, looser_scratch, (hlooser' _ looser_scratch).2 _ hkept, hsame _ (by simp),
    hmore _ (by simp) _ hkept⟩

end Drain

end Cordon
