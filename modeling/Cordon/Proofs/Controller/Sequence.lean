import Cordon.Proofs.Controller.Commission
import Cordon.Proofs.Controller.Establishing
import Cordon.Proofs.Lifecycle.Sequence

/-! # In which order a reconcile isolates nodes

A reconcile that brings a quarantine in place removes pods only once all nodes of the request are
closed; one that brings a quarantine into line removes pods only from a node that is closed.  And
either puts the taint on a node only behind the removal of its pods, if that has succeeded
(`isolates_in_order`).
-/

namespace Cordon.Controller

open Lifecycle (new Emptying Emptied closed_of_settle emptied_of_settle)

variable {others : ClusterState → ClusterState → Prop} {timing : Timing} {ns name : String}
  {q : Quarantine} {s m : Scene} {before rest : Dialogue Effects} {e : Effects.Event}
  {r : Except ControllerError Next}

/-- What a reconcile asks the cluster is asked by its pass. -/
theorem Course.pass_of_asked (hcourse : Course timing q (before ++ e :: rest) r)
    (he : e.1.onCluster = true) : ∃ during a l,
      (task q).Says (new q timing.nodeTimeout) (before ++ e :: during) a l := by
  -- Only the store and the clock are asked behind the pass.
  have hfront {during behind : Dialogue Effects} {a l}
      (hpass : (task q).Says (new q timing.nodeTimeout) during a l)
      (hbehind : ∀ e' ∈ behind, e'.1.onCluster = false)
      (heq : during ++ behind = before ++ e :: rest) :
      ∃ during a l, (task q).Says (new q timing.nodeTimeout) (before ++ e :: during) a l := by
    rcases split_append heq with ⟨during', rfl⟩ | ⟨front, -, rfl⟩
    · exact ⟨during', a, l, hpass⟩
    · cases he.symm.trans (hbehind e (by simp))
  have hsettle (hlive : q.isDeleting = false) : task q = Lifecycle.settle q.isActive := by
    rw [task, hlive, if_neg Bool.false_ne_true]
  generalize heq : before ++ e :: rest = h at hcourse
  cases hcourse with
  | left => simp at heq
  | held _ _ answer =>
    have hmem : e ∈ before ++ e :: rest := by simp
    rw [heq, List.mem_singleton] at hmem
    rw [hmem] at he
    cases he
  | released hdeleting _ during l answer _ hstop =>
    have htask : task q = Lifecycle.stop := by rw [task, if_pos hdeleting]
    exact hfront (htask ▸ hstop) (by simp [Effects.Request.onCluster]) heq.symm
  | kept hlive _ during l hpass _ =>
    exact hfront (hsettle hlive ▸ hpass) (List.forall_mem_nil _)
      ((List.append_nil h).trans heq.symm)
  | told hlive _ during l now answer _ hpass _ _ =>
    exact hfront (hsettle hlive ▸ hpass) (by simp [writing, Effects.Request.onCluster]) heq.symm
  | failed _ during behind l err hpass hbehind =>
    refine hfront hpass ?_ heq.symm
    rcases hbehind with rfl | ⟨now, next, answer, rfl⟩
    · simp
    · simp [writing, Effects.Request.onCluster]

/-- The pass of a reconcile comes to ask what the reconcile asks the cluster. -/
theorem comes_of_opens (hstored : stored ns name s = some q)
    (ho : (reconcile timing (some ns) name).run.Opens (before ++ [e]))
    (hf : Follows (Answers others) s before m) (he : e.1.onCluster = true) :
    ∃ load front d, before = load :: front ∧
      (task q).Comes others (new q timing.nodeTimeout) d front e m := by
  obtain ⟨rest, r, hs⟩ := ho
  rw [List.append_assoc, List.singleton_append] at hs
  have hbefore : (reconcile timing (some ns) name).run.Opens before := ⟨e :: rest, r, hs⟩
  obtain ⟨answer, behind, heq, hcourse⟩ := speaks_reconcile hs
  cases before with
  | nil =>
    cases heq
    cases he
  | cons load front =>
    cases heq
    obtain ⟨d, -, hfront⟩ := id hf
    rcases hcourse with ⟨-, hnil⟩ | ⟨q', rfl, hcourse⟩
    · simp at hnil
    · cases hstored.symm.trans (stored_of_loaded hbefore hf rfl)
      obtain ⟨during, a, l, hpass⟩ := hcourse.pass_of_asked he
      exact ⟨_, front, d, rfl, during, a, l, hpass, hfront⟩

/-- A reconcile of a quarantine that is not deleted, whatever calls fail.  Pods are removed only
from a node of the request that is being emptied; if nobody else opens or closes the nodes of the
request then this node is closed whenever a removal starts or ends, and, if the quarantine is not
in place yet, so are all nodes of the request.  The taint is put only on a node of the request that
has been emptied. -/
theorem isolates_in_order (hstored : stored ns name s = some q) (hlive : q.isDeleting = false)
    (hnodes : ∀ n ∈ q.spec.nodes, Untouched others (.closed n.name))
    (ho : (reconcile timing (some ns) name).run.Opens (before ++ [e]))
    (hf : Follows (Answers others) s before m) :
    (e.1.drains = true → ∃ n ∈ (new q timing.nodeTimeout).nodes, Emptying n before e ∧
      ∀ d, Drifted others m d → d.cluster.shows (.closed n.name) = true ∧
        (q.isActive = false → ∀ u ∈ q.spec.nodes, d.cluster.shows (.closed u.name) = true)) ∧
    ∀ node taints, e.1 = .cluster (.call (.setNodeTaints node taints)) →
      Repelling.hasTaint taints = true →
        Emptied (new q timing.nodeTimeout).nodes before node.name := by
  have htask : task q = Lifecycle.settle q.isActive := by
    rw [task, hlive, if_neg Bool.false_ne_true]
  have huntouched : ∀ u ∈ (new q timing.nodeTimeout).nodes, Untouched others (.closed u.name) := by
    intro u hu
    obtain ⟨n, hn, rfl⟩ := Lifecycle.mem_nodes_new.1 hu
    exact hnodes n hn
  constructor
  · intro he
    have hcluster : e.1.onCluster = true := by
      generalize e.1 = r at he
      cases r with
      | cluster _ => rfl
      | store _ | arm _ | disarm | now => cases he
    obtain ⟨load, front, d, rfl, hcomes⟩ := comes_of_opens hstored ho hf hcluster
    rw [htask] at hcomes
    obtain ⟨n, hn, hempty, hclosed⟩ := closed_of_settle hcomes he
    have hempty : Emptying n ([load] ++ front) e := hempty.after
    refine ⟨n, hn, hempty, fun d hd => ?_⟩
    have hstays : ∀ u ∈ (new q timing.nodeTimeout).nodes, q.isActive = false ∨ u = n →
        d.cluster.shows (.closed u.name) = true := fun u hu hwhich => by
      rw [(steady_shows (huntouched u hu)).of_drifted hd]
      exact hclosed u hu hwhich (huntouched u hu)
    exact ⟨hstays n hn (.inr rfl), fun hidle u hu =>
      hstays _ (Lifecycle.mem_nodes_new.2 ⟨u, hu, rfl⟩) (.inl hidle)⟩
  · intro node taints he htaint
    obtain ⟨load, front, d, rfl, hcomes⟩ := comes_of_opens hstored ho hf (by rw [he]; rfl)
    rw [htask] at hcomes
    have hemptied : Emptied (new q timing.nodeTimeout).nodes ([load] ++ front) node.name :=
      (emptied_of_settle hcomes he htaint).after fun _ h => h
    exact hemptied

namespace Sample

/-- A quarantine of two nodes that has been taken up, with a pod that may be evicted. -/
def takenUp : Scene :=
  (reconciled (start [ask "w1" true [], ask "w2" false []])).drift
    { cluster with pods := [controlled (pod "b" "w1" .empty)] }

/-- What its reconcile asks, and the answers. -/
def bringingInPlace : Dialogue Effects :=
  (reconcile Sample.timing (some "ns") "m").run.transcript Scene.answer takenUp

/-- Whether the taint is put on the first node. -/
def taints : Effects.Request → Bool
  | .cluster (.call (.setNodeTaints node taints)) => node.name == "w1" && Repelling.hasTaint taints
  | _ => false

end Sample

open Sample in
/-- When the pod is evicted both nodes are closed, and when the first node is tainted it has been
emptied. -/
theorem isolates_in_order_of_takenUp :
    (∃ before e after m, bringingInPlace = before ++ e :: after ∧
      e.1 = .cluster (.launch (some (.evict (controlled (pod "b" "w1" .empty))))) ∧
      Follows (Answers nobody) takenUp before m ∧
      m.cluster.shows (.closed "w1") = true ∧ m.cluster.shows (.closed "w2") = true) ∧
    ∃ before e after, bringingInPlace = before ++ e :: after ∧ taints e.1 = true ∧
      ∃ n, n.name = "w1" ∧ (Lifecycle.emptyNode n).DoneIn before := by
  have hsome : (stored "ns" "m" takenUp).isSome = true := by decide +kernel
  obtain ⟨q, hstored⟩ := Option.isSome_iff_exists.1 hsome
  have hall : ∀ q ∈ stored "ns" "m" takenUp, q.isDeleting = false ∧ q.isActive = false ∧
      ∀ name ∈ ["w1", "w2"], ∃ u ∈ q.spec.nodes, u.name = name := by decide +kernel
  obtain ⟨hlive, hidle, hnames⟩ := hall q hstored
  have hbroken : ∀ before e after, bringingInPlace = before ++ e :: after →
      (reconcile Sample.timing (some "ns") "m").run.Opens (before ++ [e]) ∧
        ∃ m, Follows (Answers nobody) takenUp before m := by
    intro before e after heq
    have hs := Program.speaks_transcript Scene.answer
      (reconcile Sample.timing (some "ns") "m").run takenUp
    have hf := follows_transcript (Scene.answers_answer nobody)
      (reconcile Sample.timing (some "ns") "m").run takenUp
    rw [← bringingInPlace, heq] at hs hf
    obtain ⟨m, hbefore, -⟩ := follows_append.1 hf
    exact ⟨⟨after, _, by simpa using hs⟩, m, hbefore⟩
  constructor
  · have hmem : (.cluster (.launch (some (.evict (controlled (pod "b" "w1" .empty))))) :
        Effects.Request) ∈ bringingInPlace.map (·.1) := by decide +kernel
    obtain ⟨e, he, heq⟩ := List.mem_map.1 hmem
    obtain ⟨before, after, hsplit⟩ := List.append_of_mem he
    obtain ⟨hopens, m, hm⟩ := hbroken before e after hsplit
    obtain ⟨n, -, -, hclosed⟩ := (isolates_in_order hstored hlive (fun _ _ => untouched_nobody _)
      hopens hm).1 (by rw [heq]; rfl)
    have hboth : ∀ name ∈ ["w1", "w2"], m.cluster.shows (.closed name) = true := by
      intro name hname
      obtain ⟨u, hu, rfl⟩ := hnames name hname
      exact (hclosed m .refl).2 hidle u hu
    exact ⟨before, e, after, m, hsplit, heq, hm, hboth "w1" (by simp), hboth "w2" (by simp)⟩
  · have hany : bringingInPlace.any (fun e => taints e.1) = true := by decide +kernel
    obtain ⟨e, he, htaints⟩ := List.any_eq_true.1 hany
    obtain ⟨before, after, hsplit⟩ := List.append_of_mem he
    obtain ⟨hopens, m, hm⟩ := hbroken before e after hsplit
    refine ⟨before, e, after, hsplit, htaints, ?_⟩
    unfold taints at htaints
    split at htaints
    · next node taints heq =>
      simp only [Bool.and_eq_true, beq_iff_eq] at htaints
      obtain ⟨n, -, -, hname, hdone⟩ := (isolates_in_order hstored hlive
        (fun _ _ => untouched_nobody _) hopens hm).2 node taints heq htaints.2
      exact ⟨n, hname.symm.trans htaints.1, hdone⟩
    · cases htaints

end Cordon.Controller
