import Cordon.Proofs.Drain.Descheduling

/-! # Where a step on a node breaks off

An operation that makes one call after the other fails with its last call (`FailsLast`).  A node
that is emptied is the exception: the removals under way run to their ends, and those that wait are
started, whatever has become of the others.  `BrokenOff` tells the dialogues of steps that have
failed: no call comes after the one that failed, but for removals of other pods of the node.
-/

namespace Cordon

open Kube (Pod)

/-! ## Operations of one call after the other -/

/-- Whenever an operation fails, its last call has failed with the same error. -/
def FailsLast {α : Type} (p : Clustered α) : Prop :=
  ∀ h e, p.run.Speaks h (.error e) →
    ∃ before c, h = before ++ [(⟨c, .error e⟩ : ClusterApi.Event)]

section FailsLast

variable {α β : Type} {p : Clustered α}

theorem failsLast_pure (a : α) : FailsLast (pure a) := by
  intro h e hs
  cases hs.2

theorem failsLast_call (c : ClusterCall) : FailsLast (call c) := by
  rintro h e ⟨answer, rest, rfl, rfl, rfl⟩
  exact ⟨[], c, rfl⟩

theorem failsLast_bind {f : α → Clustered β} (hp : FailsLast p) (hf : ∀ a, FailsLast (f a)) :
    FailsLast (p >>= f) := by
  intro h e hs
  rcases Program.speaks_bind hs with ⟨a, h₁, h₂, rfl, -, hs₂⟩ | ⟨e', he, hs₁⟩
  · obtain ⟨before, c, rfl⟩ := hf a _ _ hs₂
    exact ⟨h₁ ++ before, c, (List.append_assoc _ _ _).symm⟩
  · cases he
    exact hp _ _ hs₁

theorem failsLast_forM {as : List α} {f : α → Clustered Unit} (hf : ∀ a, FailsLast (f a)) :
    FailsLast (as.forM f) := by
  induction as with
  | nil => exact failsLast_pure ()
  | cons a rest ih => exact failsLast_bind (hf a) fun _ => ih

/-- An operation that takes an absent object for a success fails as it would otherwise. -/
theorem failsLast_unlessAbsent (hp : FailsLast p) (a : α) :
    FailsLast (tryCatch p fun e => if e.isNotFound then pure a else throw e) := by
  intro h e hs
  change Program.Speaks (p.run.andThen _) h _ at hs
  obtain ⟨r, h₁, h₂, rfl, hs₁, hs₂⟩ := Program.speaks_andThen.1 hs
  cases r with
  | ok b => cases hs₂.2
  | error e' =>
    change (ExceptT.run (if e'.isNotFound then (pure a : Clustered α)
      else throw e')).Speaks h₂ (.error e) at hs₂
    split at hs₂
    · cases hs₂.2
    · obtain ⟨rfl, he⟩ := hs₂
      cases he
      rw [List.append_nil]
      exact hp _ _ hs₁

namespace Isolation

variable {node : String} {t : Target}

theorem failsLast_ifPresent (c : ClusterCall) : FailsLast (ifPresent (call c)) := by
  refine failsLast_unlessAbsent ?_ none
  rw [map_eq_pure_bind]
  exact failsLast_bind (failsLast_call c) fun a => failsLast_pure (some a)

theorem failsLast_isIsolated : FailsLast (isIsolated node) :=
  failsLast_bind (failsLast_call _) fun _ => failsLast_pure _

theorem failsLast_disableScheduling : FailsLast (disableScheduling node) := failsLast_call _

theorem failsLast_enableScheduling : FailsLast (enableScheduling node) :=
  failsLast_unlessAbsent (failsLast_call (.uncordonNode node)) ()

theorem failsLast_markPods (w : Workload) : FailsLast (markPods node w) := by
  unfold markPods
  split
  · exact failsLast_pure ()
  · refine failsLast_bind (failsLast_call _) fun pods => failsLast_forM fun p => ?_
    unfold markPod
    split
    · split
      · exact failsLast_call _
      · exact failsLast_pure ()
    · exact failsLast_pure ()

theorem failsLast_addToleration (w : Workload) : FailsLast (addToleration w) := by
  unfold addToleration
  split
  · exact failsLast_call _
  · exact failsLast_pure ()

theorem failsLast_isolate (isolated : Bool) : FailsLast (isolate t isolated) := by
  refine failsLast_forM fun r => failsLast_bind (failsLast_call _) fun w =>
    failsLast_bind (failsLast_markPods w) fun _ => ?_
  split
  · exact failsLast_addToleration w
  · exact failsLast_pure ()

theorem failsLast_removeToleration (r : ResourceRef) : FailsLast (removeToleration r) := by
  refine failsLast_bind (failsLast_ifPresent _) fun w => ?_
  split
  · next w =>
    unfold stripToleration
    split
    · exact failsLast_call _
    · exact failsLast_pure ()
  · exact failsLast_pure ()

theorem failsLast_taintNode : FailsLast (taintNode node) := by
  refine failsLast_bind (failsLast_call _) fun n => ?_
  split
  · exact failsLast_call _
  · exact failsLast_pure ()

theorem failsLast_untaintNode : FailsLast (untaintNode node) := by
  refine failsLast_bind (failsLast_ifPresent _) fun n => ?_
  split
  · split
    · exact failsLast_call _
    · exact failsLast_pure ()
  · exact failsLast_pure ()

theorem failsLast_deployDebug : FailsLast (deployDebug t) := by
  refine failsLast_bind (failsLast_call _) fun found => ?_
  split
  · exact failsLast_pure ()
  · exact failsLast_call _

theorem failsLast_removeDebug (name namespaceName : String) :
    FailsLast (removeDebug name namespaceName) :=
  failsLast_unlessAbsent (failsLast_call (.deletePod namespaceName name)) ()

theorem failsLast_removeIsolatedPods : FailsLast (removeIsolatedPods node) :=
  failsLast_bind (failsLast_call _) fun _ => failsLast_forM fun p =>
    failsLast_unlessAbsent (failsLast_call (.deletePod p.metadata.anyNamespace p.name)) ()

end Isolation

theorem Drain.failsLast_keptWorkloads (refs : List ResourceRef) :
    FailsLast (keptWorkloads refs) := by
  induction refs with
  | nil => exact failsLast_pure []
  | cons r rest ih =>
    exact failsLast_bind (Isolation.failsLast_ifPresent _) fun _ =>
      failsLast_bind ih fun _ => failsLast_pure _

end FailsLast

namespace Drain

/-! ## Removals that have ended -/

section Ended

variable {under : List (Option Removal)} {h : Dialogue Api} {r : Removal}

/-- What is still under way after a dialogue, where these were under way before. -/
def underWay : List (Option Removal) → Dialogue Api → List (Option Removal)
  | under, [] => under
  | under, ⟨.call _, _⟩ :: h => underWay under h
  | under, ⟨.launch r, _⟩ :: h => underWay (under ++ [r]) h
  | under, ⟨.await _, (which, _)⟩ :: h => underWay (under.eraseIdx which.val) h

/-- What is under way was under way before or has been launched. -/
theorem mem_launched_of_underWay (hr : some r ∈ underWay under h) :
    some r ∈ under ∨ r ∈ launched h := by
  induction h generalizing under with
  | nil => exact .inl hr
  | cons e h ih =>
    obtain ⟨q, answer⟩ := e
    cases q with
    | call c => exact ih hr
    | launch first =>
      rcases ih hr with hmem | hmem
      · rcases List.mem_append.1 hmem with hmem | hmem
        · exact .inl hmem
        · cases List.mem_singleton.1 hmem
          exact .inr List.mem_cons_self
      · refine .inr ?_
        cases first with
        | none => exact hmem
        | some first => exact List.mem_cons_of_mem first hmem
    | await n =>
      rcases ih hr with hmem | hmem
      · exact .inl (List.mem_of_mem_eraseIdx hmem)
      · exact .inr hmem

/-- A removal that has ended ends at some point of the dialogue, and is under way there. -/
theorem split_of_ended {answer : Except IsolationError Bool}
    (hended : (some r, answer) ∈ ended under h) :
    ∃ k₁ n which k₂, h = k₁ ++ (⟨.await n, (which, answer)⟩ : Api.Event) :: k₂ ∧
      (underWay under k₁)[which.val]? = some (some r) := by
  induction h generalizing under with
  | nil => cases hended
  | cons e h ih =>
    obtain ⟨q, reply⟩ := e
    cases q with
    | call c =>
      obtain ⟨k₁, n, which, k₂, rfl, hwhich⟩ := ih hended
      exact ⟨⟨.call c, reply⟩ :: k₁, n, which, k₂, rfl, hwhich⟩
    | launch first =>
      obtain ⟨k₁, n, which, k₂, rfl, hwhich⟩ := ih hended
      exact ⟨⟨.launch first, reply⟩ :: k₁, n, which, k₂, rfl, hwhich⟩
    | await n =>
      obtain ⟨which, reply⟩ := reply
      have hlater : (some r, answer) ∈ ended (under.eraseIdx which.val) h →
          ∃ k₁ m which' k₂, (⟨.await n, (which, reply)⟩ : Api.Event) :: h =
            k₁ ++ (⟨.await m, (which', answer)⟩ : Api.Event) :: k₂ ∧
            (underWay under k₁)[which'.val]? = some (some r) := by
        intro hmem
        obtain ⟨k₁, m, which', k₂, rfl, hwhich⟩ := ih hmem
        exact ⟨⟨.await n, (which, reply)⟩ :: k₁, m, which', k₂, rfl, hwhich⟩
      rw [ended] at hended
      split at hended
      · next first hfirst =>
        rcases List.mem_cons.1 hended with heq | hmem
        · cases heq
          exact ⟨[], n, which, h, rfl, hfirst⟩
        · exact hlater hmem
      · next hnone =>
        -- A wait for what is not under way ends nothing, so that all stays under way.
        rw [List.getElem?_eq_none_iff] at hnone
        rw [← List.eraseIdx_of_length_le hnone] at hended
        exact hlater hended

end Ended

/-! ## Steps that have failed -/

/-- How the dialogue of a step that fails with an error ends. -/
inductive BrokenOff (t : Target) (e : IsolationError) : Dialogue Api → Prop
  /-- The last call has failed. -/
  | call (before : Dialogue Api) (c : ClusterCall) : BrokenOff t e (before ++ [⟨.call c, .error e⟩])
  /-- A pod may not be removed, so that no call is made for it; the other pods are removed. -/
  | refused (before : Dialogue ClusterApi) (kept : List Workload) (pods : List Pod) (p : Pod)
      (reason : String) (rest : Dialogue Api) (hp : p ∈ pods)
      (hplan : plan p t.flags kept = .refuse reason)
      (he : e = .deschedulePod t.name p.name (.undrainablePod p.name reason))
      (hheard : heard rest = [])
      (hlaunched : launched rest = pods.filterMap (removalOf t.flags kept)) :
      BrokenOff t e (before.map said ++ said ⟨.listPods (.onNode t.name), .ok pods⟩ :: rest)
  /-- The removal of a pod has ended without success.  Only removals of pods further down the
  listing are launched after that. -/
  | removal (before : Dialogue ClusterApi) (kept : List Workload) (front : List Pod) (p : Pod)
      (others : List Pod) (r : Removal) (err : IsolationError) (k₁ : Dialogue Api) (n : Nat)
      (which : Fin (n + 1)) (answer : Except IsolationError Bool) (k₂ : Dialogue Api)
      (hremoval : removalOf t.flags kept p = some r)
      (he : e = .deschedulePod t.name p.name err)
      (hwhich : (underWay [] k₁)[which.val]? = some (some r)) (hanswer : ¬ Succeeded r answer)
      (hheard : heard k₁ = [] ∧ heard k₂ = [])
      (hlaunched : launched k₂ <:+ others.filterMap (removalOf t.flags kept)) :
      BrokenOff t e (before.map said ++
        said ⟨.listPods (.onNode t.name), .ok (front ++ p :: others)⟩ ::
          (k₁ ++ ⟨.await n, (which, answer)⟩ :: k₂))

section BrokenOff

variable {t : Target} {e : IsolationError}

theorem BrokenOff.after {h : Dialogue Api} (hb : BrokenOff t e h) (k : Dialogue ClusterApi) :
    BrokenOff t e (k.map said ++ h) := by
  cases hb with
  | call before c =>
    rw [← List.append_assoc]
    exact .call _ c
  | refused before kept pods p reason rest hp hplan he hheard hlaunched =>
    rw [← List.append_assoc, ← List.map_append]
    exact .refused _ kept pods p reason rest hp hplan he hheard hlaunched
  | removal before kept front p others r err k₁ n which answer k₂ hremoval he hwhich hanswer
      hheard hlaunched =>
    rw [← List.append_assoc, ← List.map_append]
    exact .removal _ kept front p others r err k₁ n which answer k₂ hremoval he hwhich hanswer
      hheard hlaunched

/-- Operations of one call after the other break off with a call. -/
theorem brokenOff_sequentially {α : Type} {p : Clustered α} (hp : FailsLast p) {h : Dialogue Api}
    (hs : (sequentially p).run.Speaks h (.error e)) : BrokenOff t e h := by
  obtain ⟨k, hk, rfl⟩ := speaks_sequentially hs
  obtain ⟨before, c, rfl⟩ := hp _ _ hk
  rw [List.map_append]
  exact .call _ c

def Removal.name : Removal → String
  | .evict p => p.name
  | .delete _ name => name

theorem name_of_removalOf {flags : ResolvedFlags} {kept : List Workload} {p q : Pod} {r : Removal}
    (hp : removalOf flags kept p = some r) (hq : removalOf flags kept q = some r) :
    p.name = q.name := by
  have hname : ∀ {p : Pod}, removalOf flags kept p = some r → p.name = r.name := by
    intro p hp
    unfold removalOf at hp
    split at hp <;> cases hp <;> rfl
  exact (hname hp).trans (hname hq).symm

/-- What is left of a list of removals once one of them has been taken out. -/
theorem suffix_of_launched {f : Pod → Option Removal} {pods : List Pod} {rs rest : List Removal}
    {r : Removal} (hpods : rs ++ rest = pods.filterMap f) (hr : r ∈ rs) :
    ∃ front p others, pods = front ++ p :: others ∧ f p = some r ∧
      rest <:+ others.filterMap f := by
  obtain ⟨ps₁, ps₂, rfl, rfl, rfl⟩ := List.filterMap_eq_append_iff.1 hpods.symm
  obtain ⟨p, hp, hf⟩ := List.mem_filterMap.1 hr
  obtain ⟨front, middle, rfl⟩ := List.append_of_mem hp
  exact ⟨front, p, middle ++ ps₂, by simp, hf, _, List.filterMap_append.symm⟩

/-- The removals of a node break off with the error of some pod. -/
theorem brokenOff_of_drained {h : Dialogue Api} {kept : List Workload} {pods : List Pod}
    (hd : Drained t h (.error e) kept pods) (hheard : heard h = []) :
    BrokenOff t e (said ⟨.listPods (.onNode t.name), .ok pods⟩ :: h) := by
  obtain ⟨p, hp, err, he, hcause⟩ := hd.reported e rfl
  rcases hcause with ⟨reason, hplan, rfl⟩ | ⟨r, answer, hremoval, hended, hanswer⟩
  · exact .refused [] kept pods p reason h hp hplan he hheard hd.launches
  · -- The removal has been launched by then, and all that is launched later comes behind it.
    obtain ⟨k₁, n, which, k₂, rfl, hwhich⟩ := split_of_ended hended
    have hr : r ∈ launched k₁ := by
      rcases mem_launched_of_underWay (List.mem_of_getElem? hwhich) with hnone | hr
      · cases hnone
      · exact hr
    have hlaunches := hd.launches
    rw [launched_append] at hlaunches
    obtain ⟨front, q, others, rfl, hq, hlast⟩ := suffix_of_launched hlaunches hr
    rw [heard_append] at hheard
    refine .removal [] kept front q others r err k₁ n which answer k₂ hq ?_ hwhich hanswer
      (List.append_eq_nil_iff.1 hheard) hlast
    rw [he, name_of_removalOf hremoval hq]

/-- A node that cannot be emptied: a call before the removals has failed, or a removal has. -/
theorem brokenOff_deschedule {h : Dialogue Api}
    (hs : (deschedule t).run.Speaks h (.error e)) : BrokenOff t e h := by
  rcases Program.speaks_bind hs with ⟨ws, h₁, h₂, rfl, hkept, hrest⟩ | ⟨e', he, hkept⟩
  · obtain ⟨k, -, rfl⟩ := speaks_sequentially hkept
    rcases Program.speaks_bind hrest with ⟨pods, h₃, h₄, rfl, hlist, hrun⟩ | ⟨e', he, hlist⟩
    · obtain ⟨k', hk', rfl⟩ := speaks_sequentially hlist
      obtain ⟨_, _, rfl, rfl, hanswer⟩ := hk'
      cases hanswer
      obtain ⟨hheard, hdrained⟩ := drained_of_speaks hrun
      exact (brokenOff_of_drained hdrained hheard).after k
    · cases he
      exact (brokenOff_sequentially (failsLast_call _) hlist).after k
  · cases he
    exact brokenOff_sequentially (failsLast_keptWorkloads t.kept) hkept

end BrokenOff

end Drain

end Cordon
