import Cordon.Proofs.Isolation.Success

/-! # Series of edits

Edits are made one after the other, and any of them may fail (`Edited`).  One edit leaves the
entries of others (`KeepsOthers.of_edit`), and so does a series.  An edit that has succeeded has
nothing left to do: `inspects_again` says that it writes nothing the next time, and `meets_again`
what holds of it even if pods cannot be told apart.
-/

namespace Cordon

open Kube (Node Pod)
open Repelling

namespace Isolation

open Clustered ClusterState
open Controller (Inspects inspects_pure inspects_forM inspects_call)

variable {s t m : ClusterState} {name : String} {r : ResourceRef}

/-! ## Edits that have been made -/

theorem inspects_markPods {node : String} {w : Workload}
    (hmarked : ∀ p ∈ s.pods, p.nodeName = some node → w.claims p = true →
      Marking.markPatch p.labels = none) : Inspects s (markPods node w) := by
  unfold markPods
  split
  · exact inspects_pure ()
  · refine (inspects_call (by exact trivial)).bind fun pods hpods => inspects_forM fun p hp => ?_
    have hcall := yields_call (by simp) hpods
    have hlisted : s.pods.filter (s.selects (podsOf node w)) = pods :=
      Except.ok.inj (Prod.ext_iff.1 hcall).1
    rw [← hlisted] at hp
    obtain ⟨hmem, hselects⟩ := List.mem_filter.1 hp
    unfold markPod
    split
    · next hlabels =>
      -- Even a query that passes over labels asks for the place, and the labels are compared here.
      have hplace : p.metadata.namespaceName = some w.key.namespaceName ∧
          p.nodeName = some node := by
        simp only [ClusterState.selects, Bool.and_eq_true] at hselects
        simpa [podsOf, PodFilter.withNamespace, PodFilter.withLabels, PodFilter.onNode,
          PodFilter.everything] using hselects.1
      have hclaims : w.claims p = true := by simp [Workload.claims, hplace.1, hlabels]
      rw [hmarked p hmem hplace.2 hclaims]
      exact inspects_pure ()
    · exact inspects_pure ()

/-- Nothing is written where the tracked pods are marked and no workload lacks the toleration. -/
theorem inspects_isolate {u : Target} {isolated : Bool}
    (hmarked : ∀ p ∈ s.pods, s.tracks u.name u.resources p = true →
      Marking.markPatch p.labels = none)
    (hlacks : ∀ key ∈ lends isolated u.resources, ¬ Lacks s key) :
    Inspects s (isolate u isolated) := by
  refine inspects_forM fun r hr => ?_
  refine (inspects_call (by exact trivial)).bind fun w hw => ?_
  obtain ⟨hfound, -⟩ := findWorkload_of_perform (yields_call (by simp) hw)
  refine (inspects_markPods fun p hp hnode hclaims => hmarked p hp ?_).bind fun _ _ => ?_
  · simp only [tracks, hnode, beq_self_eq_true, Bool.true_and, List.any_eq_true]
    exact ⟨r, hr, by simp [hfound, hclaims]⟩
  · cases isolated with
    | false => exact inspects_pure ()
    | true =>
      have htolerant : ¬ hasToleration w.tolerations = false := fun h =>
        hlacks r.key (List.mem_map_of_mem (f := (·.key)) hr) ⟨w, hfound, h⟩
      refine (mends_addToleration hfound).inspects (changeWorkload_of_fixed fun w' h => ?_)
      cases hfound.symm.trans h
      rw [Workload.tolerant, if_pos (by simpa using htolerant)]

/-- The pods that a node's workloads claim there are marked once the node has been brought into
shape. -/
theorem marked_of_isolate {u : Target} {isolated : Bool} (hs : s.Distinct)
    (hlabels : s.ignoresLabels = false) (h : (isolate u isolated).Yields s () t) :
    ∀ p ∈ t.pods, t.tracks u.name u.resources p = true → Marking.markPatch p.labels = none := by
  obtain ⟨rfl, -⟩ := yields_isolate hs hlabels h
  have hframe := s.withIsolated_frame u.name isolated u.resources
  intro p hp htracks
  -- The workloads claim by the same labels as before, so a pod that is still tracked and has not
  -- been marked would have been tracked before.
  rw [tracks_eq hframe.workloads] at htracks
  rw [hframe.pods] at hp
  obtain ⟨q, -, rfl⟩ := List.mem_map.1 hp
  by_cases hq : s.tracks u.name u.resources q = true
  · rw [if_pos hq, Pod.labels_marked, Marking.markPatch_markedLabels]
  · rw [if_neg hq] at htracks
    exact absurd htracks hq

/-! ## Series of edits -/

/-- An edit of a node's taints or of the tolerations of workloads. -/
inductive Edit where
  | taint (node : String)
  | untaint (node : String)
  | isolate (u : Target) (isolated : Bool)
  | removeToleration (r : ResourceRef)

def Edit.run : Edit → Clustered Unit
  | .taint node => taintNode node
  | .untaint node => untaintNode node
  | .isolate u isolated => Isolation.isolate u isolated
  | .removeToleration r => Isolation.removeToleration r

/-- Edits are run one after the other, each to its own end; any of them may fail. -/
def Edited (s : ClusterState) :
    List (Edit × Except IsolationError Unit) → ClusterState → Prop
  | [], t => t = s
  | (e, r) :: rest, t => ∃ m, e.run.run.Attains Documented s r m ∧ Edited m rest t

theorem edited_append {edits more : List (Edit × Except IsolationError Unit)} :
    Edited s (edits ++ more) t ↔ ∃ m, Edited s edits m ∧ Edited m more t := by
  induction edits generalizing s with
  | nil => simp [Edited]
  | cons e rest ih =>
    simp only [List.cons_append, Edited, ih]
    constructor
    · rintro ⟨m, he, d, hrest, hmore⟩
      exact ⟨d, ⟨m, he, hrest⟩, hmore⟩
    · rintro ⟨d, ⟨m, he, hrest⟩, hmore⟩
      exact ⟨m, he, d, hrest, hmore⟩

/-- The entries of others are as they were, and so is all else of nodes and workloads. -/
structure KeepsOthers (s t : ClusterState) : Prop where
  nodes : t.nodes.map Node.bare = s.nodes.map Node.bare
  workloads : t.workloads.map Workload.stripped = s.workloads.map Workload.stripped

namespace KeepsOthers

theorem refl (s : ClusterState) : KeepsOthers s s := ⟨rfl, rfl⟩

theorem trans (h : KeepsOthers s m) (h' : KeepsOthers m t) : KeepsOthers s t :=
  ⟨h'.nodes.trans h.nodes, h'.workloads.trans h.workloads⟩

theorem findNode (h : KeepsOthers s t) (name : String) :
    (t.findNode name).map Node.bare = (s.findNode name).map Node.bare := by
  have hfind : ∀ c : ClusterState,
      (c.nodes.map Node.bare).find? (·.name == name) = (c.findNode name).map Node.bare :=
    fun c => List.find?_map
  rw [← hfind t, h.nodes, hfind s]

theorem findWorkload (h : KeepsOthers s t) (key : ResourceKey) :
    (t.findWorkload key).map Workload.stripped = (s.findWorkload key).map Workload.stripped := by
  have hfind : ∀ c : ClusterState, (c.workloads.map Workload.stripped).find? (·.key = key) =
      (c.findWorkload key).map Workload.stripped := fun c => List.find?_map
  rw [← hfind t, h.workloads, hfind s]

/-- One edit, whatever comes of it, leaves the entries of others. -/
theorem of_edit {e : Edit} {r : Except IsolationError Unit}
    (h : e.run.run.Attains Documented s r t) : KeepsOthers s t := by
  have hends : ∀ {p : Clustered Unit} {f : ClusterState → ClusterState}, Mends p s f →
      KeepsOthers s (f s) → p.run.Attains Documented s r t → KeepsOthers s t := by
    intro p f hp hf h
    obtain ⟨-, rfl⟩ | ⟨rfl, -⟩ := hp.of_attains h
    · exact hf
    · exact refl t
  cases e with
  | taint name =>
    exact hends (mends_taintNode s name) ⟨Shelf.map_changeFirst Node.bare_tainted _ _, rfl⟩ h
  | untaint name =>
    exact hends (mends_untaintNode s name) ⟨Shelf.map_changeFirst Node.bare_untainted _ _, rfl⟩ h
  | isolate u isolated =>
    obtain ⟨_, hlent, -⟩ := (meets_isolate u isolated s).of_attains h
    exact ⟨by rw [hlent.nodes], hlent.others⟩
  | removeToleration r =>
    exact hends (mends_removeToleration s r)
      ⟨rfl, Shelf.map_changeFirst Workload.stripped_stripped _ _⟩ h

theorem of_edited {edits : List (Edit × Except IsolationError Unit)} (h : Edited s edits t) :
    KeepsOthers s t := by
  induction edits generalizing s with
  | nil =>
    cases h
    exact refl _
  | cons e rest ih =>
    obtain ⟨m, he, hrest⟩ := h
    exact (of_edit he).trans (ih hrest)

end KeepsOthers

theorem orderly_edited {edits : List (Edit × Except IsolationError Unit)} (hs : s.Orderly)
    (h : Edited s edits t) : t.Orderly := by
  induction edits generalizing s with
  | nil =>
    cases h
    exact hs
  | cons e rest ih =>
    obtain ⟨m, he, hrest⟩ := h
    exact ih (hs.attains he) hrest

theorem taints_of_untaint (h : (Edit.untaint name).run.run.Attains Documented s (.ok ()) t) :
    (t.findNode name).map Node.taints =
      ((s.findNode name).map Node.bare).map Node.taints := by
  cases eq_of_mends (mends_untaintNode s name) h
  rw [findNode_changeNode s Node.name_untainted, if_pos rfl, Option.map_map, Option.map_map]
  exact Option.map_congr fun n _ => n.taints_untainted

theorem findWorkload_of_removeToleration
    (h : (Edit.removeToleration r).run.run.Attains Documented s (.ok ()) t) :
    t.findWorkload r.key = (s.findWorkload r.key).map Workload.stripped := by
  cases eq_of_mends (mends_removeToleration s r) h
  rw [findWorkload_changeWorkload s Workload.key_stripped, if_pos rfl]

theorem lacks_nothing_of_isolate {u : Target} {isolated : Bool}
    (h : (isolate u isolated).run.Attains Documented s (.ok ()) t) :
    ∀ key ∈ lends isolated u.resources, ¬ Lacks t key := by
  obtain ⟨lent, hlent, -, hall⟩ := (meets_isolate u isolated s).of_attains h
  intro key hkey hlacks
  exact (hlent.lacks hlacks).2 ((hall rfl).1 ▸ hkey)

/-- An edit that has been made is not made again. -/
theorem inspects_again {e : Edit} (h : e.run.run.Attains Documented s (.ok ()) t)
    (horderly : ∀ u isolated, e = .isolate u isolated → s.Orderly) : Inspects t e.run := by
  cases e with
  | taint name =>
    cases eq_of_mends (mends_taintNode s name) h
    exact (mends_taintNode _ name).inspects
      (changeNode_again Node.name_tainted Node.tainted_tainted s name)
  | untaint name =>
    cases eq_of_mends (mends_untaintNode s name) h
    exact (mends_untaintNode _ name).inspects
      (changeNode_again Node.name_untainted Node.untainted_untainted s name)
  | isolate u isolated =>
    have hs := horderly u isolated rfl
    exact inspects_isolate (marked_of_isolate hs.distinct hs.heedsLabels h)
      (lacks_nothing_of_isolate h)
  | removeToleration r =>
    cases eq_of_mends (mends_removeToleration s r) h
    exact (mends_removeToleration _ r).inspects
      (changeWorkload_again Workload.key_stripped Workload.stripped_stripped s r.key)

/-- An edit that has been made replaces no taints and no tolerations when it is made again. -/
theorem meets_again {e : Edit} (h : e.run.run.Attains Documented s (.ok ()) t) :
    e.run.Meets t (·.replaces = false) fun _ d =>
      d.nodes = t.nodes ∧ ∀ key, d.findWorkload key = t.findWorkload key := by
  have hplain : Inspects t e.run → e.run.Meets t (·.replaces = false) fun _ d =>
      d.nodes = t.nodes ∧ ∀ key, d.findWorkload key = t.findWorkload key := by
    intro hinspects d r m hs hf
    obtain ⟨rfl, hlook⟩ := hinspects d r m hs hf
    refine ⟨fun e he => ?_, rfl, fun _ => rfl⟩
    exact ClusterCall.not_replaces_of_looksUp (hlook e he)
  cases e with
  | taint _ | untaint _ | removeToleration _ => exact hplain (inspects_again h (by simp))
  | isolate u isolated =>
    have hlacks := lacks_nothing_of_isolate h
    refine (meets_isolate u isolated t).mono (fun c hc => ?_) fun r d hd => ?_
    · refine Bool.eq_false_iff.2 fun hreplaces => ?_
      obtain ⟨key, hkey, hkeyLacks⟩ := hc hreplaces
      exact hlacks key hkey hkeyLacks
    · obtain ⟨lent, hlent, hsub, -⟩ := hd
      refine ⟨hlent.nodes, fun key => ?_⟩
      rw [hlent.workloads]
      cases hw : t.findWorkload key with
      | none => rfl
      | some w =>
        by_cases hkey : key ∈ lent
        · have htolerant : hasToleration w.tolerations = true := by
            by_contra hnot
            exact hlacks key (hsub hkey) ⟨w, hw, by simpa using hnot⟩
          rw [Option.map_some, if_pos hkey, Workload.tolerant, if_pos htolerant]
        · rw [Option.map_some, if_neg hkey]

/-- Edits leave the entries of others as they stand.  Each of the four either has nothing to do and
says so, or adds one entry, or takes off all entries with our key and value.  So after any series of
edits, some of which may have failed, a node whose taint has been taken off last has the taints that
it had at first without ours, and a workload likewise its tolerations.  What has been made is not
made again: no taints and no tolerations are replaced by the same edit once more, and nothing at all
is written by it. -/
theorem edits_leave_others :
    Edits OurTaint quarantineTaint withTaint withoutTaint ∧
    Edits OurToleration quarantineToleration withToleration withoutToleration ∧
    ∀ (s t : ClusterState) (edits : List (Edit × Except IsolationError Unit)), Edited s edits t →
      t.nodes.map Node.bare = s.nodes.map Node.bare ∧
      t.workloads.map Workload.stripped = s.workloads.map Workload.stripped ∧
      (∀ before name, edits = before ++ [(.untaint name, .ok ())] →
        (t.findNode name).map Node.taints =
          (s.findNode name).map fun n => n.taints.filter (¬ OurTaint ·)) ∧
      (∀ before r, edits = before ++ [(.removeToleration r, .ok ())] →
        (t.findWorkload r.key).map Workload.tolerations =
          (s.findWorkload r.key).map fun w => w.tolerations.filter (¬ OurToleration ·)) ∧
      (∀ name r, ((Edit.untaint name).run.eval t).1 = .ok () ∧
        ((Edit.removeToleration r).run.eval t).1 = .ok ()) ∧
      ∀ before e, edits = before ++ [(e, .ok ())] →
        (e.run.Meets t (·.replaces = false) fun _ d =>
          d.nodes = t.nodes ∧ ∀ key, d.findWorkload key = t.findWorkload key) ∧
        ((∀ u isolated, e = .isolate u isolated → s.Orderly) → Inspects t e.run) := by
  refine ⟨edits_taints, edits_tolerations, fun s t edits h => ?_⟩
  have hkeeps := KeepsOthers.of_edited h
  -- The last edit of the series starts on a cluster where the entries of others are as they were.
  have hlast : ∀ before e, edits = before ++ [(e, .ok ())] →
      ∃ m, Edited s before m ∧ e.run.run.Attains Documented m (.ok ()) t := by
    rintro before e rfl
    obtain ⟨m, hbefore, d, he, rfl⟩ := edited_append.1 h
    exact ⟨m, hbefore, he⟩
  refine ⟨hkeeps.nodes, hkeeps.workloads, fun before name hedits => ?_, fun before r hedits => ?_,
    fun name r => ?_, fun before e hedits => ?_⟩
  · obtain ⟨m, hbefore, he⟩ := hlast before _ hedits
    rw [taints_of_untaint he, (KeepsOthers.of_edited hbefore).findNode, Option.map_map]
    rfl
  · obtain ⟨m, hbefore, he⟩ := hlast before _ hedits
    rw [findWorkload_of_removeToleration he, (KeepsOthers.of_edited hbefore).findWorkload,
      Option.map_map]
    refine Option.map_congr fun w _ => List.filter_congr fun t _ => ?_
    simp [← isQuarantineToleration_iff]
  · exact ⟨congrArg Prod.fst (eval_untaintNode name t),
      congrArg Prod.fst (eval_removeToleration r t)⟩
  · obtain ⟨m, hbefore, he⟩ := hlast before _ hedits
    exact ⟨meets_again he, fun hs =>
      inspects_again he fun u isolated heq => orderly_edited (hs u isolated heq) hbefore⟩

/-- The cluster after an edit of which nothing fails. -/
def after (e : Edit) (s : ClusterState) : ClusterState := (e.run.eval s).2

theorem edited_after {e : Edit} {rest : List (Edit × Except IsolationError Unit)}
    (h : (e.run.eval s).1 = .ok ()) (hrest : Edited (after e s) rest t) :
    Edited s ((e, .ok ()) :: rest) t := ⟨after e s, yields_eval h, hrest⟩

namespace Sample

/-- A taint with our key and another value. -/
def foreignTaint : Kube.Taint := ⟨Convention.taintKey, some "false", "NoSchedule", none⟩

/-- Our taint with a weaker effect. -/
def weakTaint : Kube.Taint := { quarantineTaint with effect := "PreferNoSchedule" }

def worker : Node :=
  ⟨{ Kube.ObjectMeta.blank with name := some "w1" },
    some ⟨none, some [foreignTaint, weakTaint, foreignTaint]⟩⟩

/-- Our toleration, for another effect. -/
def strayToleration : Kube.Toleration := { quarantineToleration with effect := some "NoExecute" }

def workload : Workload :=
  ⟨⟨.deployment, "a", "prod"⟩, none, .singleton "app" "a", [strayToleration], .empty⟩

def cluster : ClusterState := ⟨[worker], [], [workload], false⟩

def target : Target :=
  .ofResources "w1" true [⟨.deployment, "a", "prod", false⟩] ⟨false, false, false, true, false⟩
    .default

def released : ClusterState :=
  after (.untaint "w1") (after (.isolate target true) (after (.taint "w1") cluster))

end Sample

open Sample in
/-- What is left are the taints with another value. -/
theorem edits_leave_others_of_worker :
    Edited cluster [(.taint "w1", .ok ()), (.isolate target true, .ok ()), (.untaint "w1", .ok ())]
      released ∧
    (released.findNode "w1").map Node.taints = some [foreignTaint, foreignTaint] := by
  have hedited : Edited cluster
      [(.taint "w1", .ok ()), (.isolate target true, .ok ()), (.untaint "w1", .ok ())] released :=
    edited_after (by decide +kernel) (edited_after (by decide +kernel)
      (edited_after (by decide +kernel) rfl))
  obtain ⟨-, -, htaints, -⟩ := edits_leave_others.2.2 _ _ _ hedited
  have hleft := htaints [(.taint "w1", .ok ()), (.isolate target true, .ok ())] "w1" rfl
  exact ⟨hedited, hleft.trans (by decide +kernel)⟩

end Isolation

end Cordon
