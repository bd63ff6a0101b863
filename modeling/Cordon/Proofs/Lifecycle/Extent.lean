import Cordon.Proofs.Lifecycle.Records
import Cordon.Proofs.Lifecycle.Stages

/-! # How far an update reaches

An update is about the nodes that are no longer named and about the one node that it brings into
line, the first that differs from its record once the others are reversed.  All of its calls regard
these nodes, the records of the other nodes stay as they are, and if there is no such node then
nothing is asked (`update_confined`).
-/

namespace Cordon

/-- What a pass comes to under answers that are computed is the end of its dialogue. -/
theorem Pass.says_transcript {α : Type}
    (answer : (r : Effects.Request) → Scene → r.Answer × Scene) (p : Pass α) (l : Lifecycle)
    (s : Scene) {r : Except ControllerError α} (hr : ((p.run.run l).run answer s).1.1 = r) :
    ∃ l', p.Says l ((p.run.run l).transcript answer s) r l' := by
  subst hr
  have hspeaks := Program.speaks_transcript (I := Effects) answer (p.run.run l) s
  exact ⟨_, hspeaks⟩

namespace Lifecycle

open Pass
open OnCluster (calls)

variable {q : Quarantine} {timeout : Nat} {l l' : Lifecycle} {h : Dialogue Effects}
  {r : Except ControllerError Unit}

theorem foldl_leaves_update (phase : Phase) :
    (Act.stages l .update).foldl Stage.leaves (l.inPhase phase) =
      (l.inPhase phase).undropped.converged := by
  rw [Act.stages, List.foldl_append, List.foldl_map, List.foldl_map]
  show List.foldl _ (l.inPhase phase).undropped _ = _
  unfold converged
  rw [firstChanged_undropped]
  cases l.undropped.firstChanged with
  | none => rfl
  | some n => rfl

/-- Reversing dropped nodes leaves the records of the nodes of the request. -/
theorem get?_records_undropped_new {n : Target} (hn : n ∈ (new q timeout).nodes) (phase : Phase) :
    ((new q timeout).inPhase phase).undropped.records.get? n.name =
      (new q timeout).records.get? n.name :=
  (alike_undropped (fun _ hu _ hn => ne_of_mem_marked_new hu hn) phase).records n hn

/-- Whatever it is answered, and however it ends, an update stays with the dropped nodes and with
the first node that has changed once those are reversed.  On a cluster that tells the truth every
call that it makes regards one of these nodes: the node itself, pods that were found there, its
debug pod, or a workload that is tracked there or stands in its record.  If there is no such node
then nothing is asked.  An update that succeeds leaves the record of the node as it is now, and
those of the other nodes of the request as they were. -/
theorem update_confined (hs : update.Says (new q timeout) h r l') :
    (∀ others s t before e after, h = before ++ e :: after → Follows (Answers others) s before t →
      ∀ c, calls e.1 c →
        (∃ u ∈ (new q timeout).marked, c.Regards (heardIn before) u u.resources) ∨
          ∃ n, (new q timeout).undropped.firstChanged = some n ∧
            c.Regards (heardIn before) n (n.resources ++
              (((new q timeout).records.get? n.name).map (·.resources)).getD [])) ∧
    ((new q timeout).marked = [] → (new q timeout).undropped.firstChanged = none → h = []) ∧
    (r = .ok () →
      (∀ n, (new q timeout).undropped.firstChanged = some n →
        l'.records.get? n.name = some n.observed) ∧
      ∀ m ∈ (new q timeout).nodes,
        (∀ n, (new q timeout).undropped.firstChanged = some n → n.name ≠ m.name) →
          l'.records.get? m.name = (new q timeout).records.get? m.name) := by
  rcases says_stages (a := .update) (by decide) hs with
    ⟨rfl, rfl, -⟩ | ⟨k, phase, hstages, rfl⟩
  · exact ⟨fun _ _ _ before e after heq => by simp at heq, fun _ _ => rfl, fun hr => by cases hr⟩
  refine ⟨fun others s t before e after heq hf c hc => ?_, fun hmarked hfirst => ?_,
    fun hr => ?_⟩
  · subst heq
    obtain ⟨x, hx, hregards⟩ := regards_of_stages hstages hf hc
    rcases List.mem_append.1 hx with hx | hx
    · obtain ⟨u, hu, rfl⟩ := List.mem_map.1 hx
      exact .inl ⟨u, hu, hregards⟩
    · obtain ⟨n, hn, rfl⟩ := List.mem_map.1 hx
      exact .inr ⟨n, Option.mem_toList.1 hn, hregards⟩
  · have hnone : Act.stages (new q timeout) .update = [] := by
      simp [Act.stages, hmarked, hfirst]
    rw [hnone] at hstages
    exact (says_pure (show (pure () : Pass Unit).Says _ h r k from hstages)).1
  · subst hr
    have hk := gives_stages _ _ _ _ hstages
    rw [foldl_leaves_update, converged, firstChanged_undropped] at hk
    subst hk
    cases hfirst : (new q timeout).undropped.firstChanged with
    | none =>
      exact ⟨(fun _ hn => by cases hn), fun m hm _ => get?_records_undropped_new hm _⟩
    | some n =>
      refine ⟨fun n' hn' => ?_, fun m hm hne => ?_⟩
      · cases hn'
        show (Dict.insert _ _ _).get? n.name = _
        rw [Dict.get?_insert, if_pos rfl]
      · show (Dict.insert _ _ _).get? m.name = _
        rw [Dict.get?_insert, if_neg (hne n rfl)]
        exact get?_records_undropped_new hm _

namespace Sample

/-- A quarantine in place over two nodes and one more that has been dropped.  It now asks for the
second node to be tainted, and for a third node. -/
def widened : Quarantine where
  metadata := { Kube.ObjectMeta.blank with name := some "m", namespaceName := some "ns" }
  spec := ⟨[⟨"w1", false, false, none, []⟩, ⟨"w2", true, false, none, []⟩,
    ⟨"w3", true, false, none, []⟩], .default, .unset, []⟩
  status := some ⟨[⟨Convention.activeCondition, .isTrue, Convention.runningReason, "", none⟩],
    [⟨"w0", true, []⟩, ⟨"w1", false, []⟩, ⟨"w2", false, []⟩]⟩

/-- A cluster with all of these nodes. -/
def fourNodes : Scene where
  cluster := ⟨["w0", "w1", "w2", "w3"].map fun name =>
    ⟨{ Kube.ObjectMeta.blank with name := some name }, none⟩, [], [], false⟩
  shelf := []
  flights := []
  own _ := false
  own_shows _ h := by cases h

/-- What the update of the quarantine asks, and the answers. -/
def widening : Dialogue Effects :=
  (update.run.run (new widened 10)).transcript Scene.answer fourNodes

end Sample

open Sample in
/-- The dropped node and the second node are gone to, the others are not, and of those that are
asked for the record of the second node alone is another one. -/
theorem update_confined_widened : ∃ l', update.Says (new widened 10) widening (.ok ()) l' ∧
    (∀ name ∈ ["w0", "w2"], ∃ e ∈ widening, ∃ c, calls e.1 c ∧ c.node? = some name) ∧
    (∀ e ∈ widening, ∀ c, calls e.1 c → ∀ name, c.node? = some name →
      name = "w0" ∨ name = "w2") ∧
    l'.records.get? "w2" = some ⟨"w2", true, []⟩ ∧
    l'.records.get? "w1" = some ⟨"w1", false, []⟩ ∧ l'.records.get? "w3" = none := by
  have hfollows := follows_transcript (Scene.answers_answer fun _ _ => False)
    (update.run.run (new widened 10)) fourNodes
  obtain ⟨l', hs⟩ := says_transcript Scene.answer update (new widened 10) fourNodes
    (r := .ok ()) (by decide +kernel)
  obtain ⟨hcalls, -, hrecords⟩ := update_confined hs
  have hmarked : ∀ u ∈ (new widened 10).marked, u.name = "w0" := by decide +kernel
  have hfirst : ((new widened 10).undropped.firstChanged.map Target.observed) =
      some ⟨"w2", true, []⟩ := by decide +kernel
  obtain ⟨n, hn, hobserved⟩ := Option.map_eq_some_iff.1 hfirst
  have hname : n.name = "w2" := congrArg ObservedNode.name hobserved
  obtain ⟨hchanged, hsame⟩ := hrecords rfl
  have hkept : ∀ name ∈ ["w1", "w3"],
      l'.records.get? name = (new widened 10).records.get? name := by
    intro name hmem
    have hasked : ∀ name ∈ ["w1", "w3"], ∃ m ∈ (new widened 10).nodes, m.name = name ∧
        name ≠ "w2" := by decide +kernel
    obtain ⟨m, hm, rfl, hne⟩ := hasked name hmem
    refine hsame m hm fun n' hn' => ?_
    cases hn.symm.trans hn'
    rw [hname]
    exact hne.symm
  refine ⟨l', hs, ?_, fun e he c hc name hc' => ?_, ?_, ?_, ?_⟩
  · have hasked : ∀ name ∈ ["w0", "w2"], (.cluster (.call (.getNode name)) : Effects.Request) ∈
        widening.map (·.1) := by decide +kernel
    intro name hmem
    obtain ⟨e, he, heq⟩ := List.mem_map.1 (hasked name hmem)
    exact ⟨e, he, .getNode name, by rw [heq]; rfl, rfl⟩
  · obtain ⟨before, after, hsplit⟩ := List.append_of_mem he
    rw [← widening, hsplit] at hfollows
    obtain ⟨t, hbefore, -⟩ := follows_append.1 hfollows
    rcases hcalls _ _ t before e after hsplit hbefore c hc with
      ⟨u, hu, hregards⟩ | ⟨m, hm, hregards⟩
    · exact .inl ((hregards.node?_eq hc').trans (hmarked u hu))
    · cases hn.symm.trans hm
      exact .inr ((hregards.node?_eq hc').trans hname)
  · have hrecorded := hchanged n hn
    rwa [hname, hobserved] at hrecorded
  · exact (hkept "w1" (by simp)).trans (by decide +kernel)
  · exact (hkept "w3" (by simp)).trans (by decide +kernel)

end Lifecycle

end Cordon
