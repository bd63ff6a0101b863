import Cordon.Isolation.Engine
import Cordon.Proofs.Cluster.Change
import Cordon.Proofs.Run.Dialogue

/-! # What the operations do to a cluster at rest

`Clustered.eval` is what a computation comes to on a cluster that nobody else uses and that fails a
call only if an object is absent.  For each operation that undoes something there is an equation: it
returns, and what it does to the cluster is one change that the equation names.
-/

namespace Cordon

open Kube (Node Pod)

namespace Clustered

variable {α β : Type} {s m : ClusterState} {p : Clustered α} {f : α → Clustered β} {a : α}

/-- What a computation comes to on a cluster at rest. -/
def eval (p : Clustered α) (s : ClusterState) : Except IsolationError α × ClusterState :=
  p.run.run (fun c s => s.perform c) s

@[simp] theorem eval_pure (a : α) (s : ClusterState) : (pure a : Clustered α).eval s = (.ok a, s) :=
  rfl

theorem eval_bind_ok (h : p.eval s = (.ok a, m)) : (p >>= f).eval s = (f a).eval m :=
  Program.run_except_bind_ok h f

theorem eval_forM {as : List α} {f : α → Clustered Unit} {g : ClusterState → α → ClusterState}
    (h : ∀ a s, (f a).eval s = (.ok (), g s a)) (s : ClusterState) :
    (as.forM f).eval s = (.ok (), as.foldl g s) := by
  induction as generalizing s with
  | nil => rfl
  | cons a rest ih =>
    show (f a >>= fun _ => rest.forM f).eval s = _
    rw [eval_bind_ok (h a s), ih, List.foldl_cons]

end Clustered

namespace Isolation

open Clustered

/-! ## Absent objects -/

section Absent

variable {α σ : Type} {answer : (c : ClusterCall) → σ → Except IsolationError c.Reply × σ}
  {p : Clustered α} {q : Clustered Unit} {s m : σ} {e : IsolationError}

theorem run_ifPresent_ok {a : α} (h : p.run.run answer s = (.ok a, m)) :
    (ifPresent p).run.run answer s = (.ok (some a), m) := by
  refine Program.run_except_tryCatch_ok ?_ _
  rw [← bind_pure_comp]
  exact Program.run_except_bind_ok h _

theorem run_ifPresent_absent (h : p.run.run answer s = (.error e, m)) (he : e.isNotFound = true) :
    (ifPresent p).run.run answer s = (.ok none, m) := by
  have hmap : (some <$> p).run.run answer s = (.error e, m) := by
    rw [← bind_pure_comp]
    exact Program.run_except_bind_error h _
  refine (Program.run_except_tryCatch_error hmap _).trans ?_
  rw [if_pos he]
  rfl

theorem run_orAbsent_ok (h : q.run.run answer s = (.ok (), m)) :
    (orAbsent q).run.run answer s = (.ok (), m) :=
  Program.run_except_tryCatch_ok h _

theorem run_orAbsent_absent (h : q.run.run answer s = (.error e, m)) (he : e.isNotFound = true) :
    (orAbsent q).run.run answer s = (.ok (), m) := by
  refine (Program.run_except_tryCatch_error h _).trans ?_
  rw [if_pos he]
  rfl

end Absent

variable {s m : ClusterState}

theorem eval_ifPresent_ok {c : ClusterCall} {a : c.Reply} (h : s.perform c = (.ok a, m)) :
    (ifPresent (call c)).eval s = (.ok (some a), m) := run_ifPresent_ok h

theorem eval_ifPresent_absent {c : ClusterCall} {e : IsolationError}
    (h : s.perform c = (.error e, m)) (he : e.isNotFound = true) :
    (ifPresent (call c)).eval s = (.ok none, m) := run_ifPresent_absent h he

theorem eval_orAbsent_ok {p : Clustered Unit} (h : p.eval s = (.ok (), m)) :
    (orAbsent p).eval s = (.ok (), m) := run_orAbsent_ok h

theorem eval_orAbsent_absent {p : Clustered Unit} {e : IsolationError}
    (h : p.eval s = (.error e, m)) (he : e.isNotFound = true) :
    (orAbsent p).eval s = (.ok (), m) := run_orAbsent_absent h he

end Isolation

/-! ## What is taken off -/

def Kube.Node.untainted (n : Node) : Node :=
  if Repelling.hasTaint n.taints then
    n.withTaints (n.taints.filter fun t => !Repelling.isQuarantineTaint t)
  else n

def Workload.stripped (w : Workload) : Workload :=
  { w with tolerations := w.tolerations.filter fun t => !Repelling.isQuarantineToleration t }

theorem Kube.Node.name_untainted (n : Node) : n.untainted.name = n.name := by
  unfold untainted
  split <;> rfl

theorem Workload.hasToleration_stripped (w : Workload) :
    Repelling.hasToleration w.stripped.tolerations = false := by
  simp [Workload.stripped, Repelling.hasToleration]

theorem Workload.stripped_of_intolerant (w : Workload)
    (h : Repelling.hasToleration w.tolerations = false) : w.stripped = w := by
  have hnone : w.tolerations.filter (fun t => !Repelling.isQuarantineToleration t) =
      w.tolerations :=
    List.filter_eq_self.2 fun t ht => by simpa using List.any_eq_false.1 h t ht
  rw [stripped, hnone]

theorem Workload.stripped_stripped (w : Workload) : w.stripped.stripped = w.stripped := by
  simp [Workload.stripped]

namespace Isolation

open Clustered

theorem eval_untaintNode (name : String) (s : ClusterState) :
    (untaintNode name).eval s = (.ok (), s.changeNode name Node.untainted) := by
  unfold untaintNode
  cases hn : s.findNode name with
  | none =>
    have hget : s.perform (.getNode name) = (.error (.getNode name
        (ClusterState.notFound "nodes" name)), s) := by simp [ClusterState.perform, hn]
    rw [eval_bind_ok (eval_ifPresent_absent hget rfl), ClusterState.changeNode_of_absent hn]
    rfl
  | some n =>
    have hget : s.perform (.getNode name) = (.ok n, s) := by simp [ClusterState.perform, hn]
    have hname : n.name = name := ClusterState.name_of_findNode hn
    rw [eval_bind_ok (eval_ifPresent_ok hget)]
    cases htaint : Repelling.hasTaint n.taints with
    | true =>
      simp only [Repelling.withoutTaint, htaint, if_true]
      show s.onNode _ n.name _ = _
      simp only [ClusterState.onNode, hname, hn]
      refine congrArg _ (ClusterState.changeNode_congr fun n' hn' => ?_)
      cases hn.symm.trans hn'
      rw [Node.untainted, if_pos htaint]
    | false =>
      simp only [Repelling.withoutTaint, htaint, Bool.false_eq_true, if_false, eval_pure]
      refine congrArg _ (ClusterState.changeNode_of_fixed fun n' hn' => ?_).symm
      cases hn.symm.trans hn'
      rw [Node.untainted, htaint, if_neg Bool.false_ne_true]

theorem eval_enableScheduling (name : String) (s : ClusterState) :
    (enableScheduling name).eval s = (.ok (), s.changeNode name (·.withUnschedulable false)) := by
  cases hn : s.findNode name with
  | none =>
    have hcall : (call (.uncordonNode name)).eval s = (.error (.uncordonNode name
        (ClusterState.notFound "nodes" name)), s) := by
      show s.onNode _ name _ = _
      simp only [ClusterState.onNode, hn]
      rfl
    rw [enableScheduling, eval_orAbsent_absent hcall rfl, ClusterState.changeNode_of_absent hn]
  | some n =>
    refine eval_orAbsent_ok ?_
    show s.onNode _ name _ = _
    simp only [ClusterState.onNode, hn]

theorem eval_removeToleration (r : ResourceRef) (s : ClusterState) :
    (removeToleration r).eval s = (.ok (), s.changeWorkload r.key Workload.stripped) := by
  unfold removeToleration
  cases hw : s.findWorkload r.key with
  | none =>
    have hget : s.perform (.getWorkload r.key) = (.error (.getWorkload r.key
        (ClusterState.notFound (ClusterState.workloadPlural r.key.kind) r.key.name)), s) := by
      simp [ClusterState.perform, hw]
    rw [eval_bind_ok (eval_ifPresent_absent hget rfl), ClusterState.changeWorkload_of_absent hw]
    rfl
  | some w =>
    have hget : s.perform (.getWorkload r.key) = (.ok w, s) := by simp [ClusterState.perform, hw]
    have hkey : w.key = r.key := ClusterState.key_of_findWorkload hw
    rw [eval_bind_ok (eval_ifPresent_ok hget)]
    unfold stripToleration
    cases htolerates : Repelling.hasToleration w.tolerations with
    | true =>
      simp only [Repelling.withoutToleration, htolerates, if_true]
      show s.onWorkload _ w.key _ = _
      simp only [ClusterState.onWorkload, hkey, hw]
      refine congrArg _ (ClusterState.changeWorkload_congr fun w' hw' => ?_)
      cases hw.symm.trans hw'
      rfl
    | false =>
      simp only [Repelling.withoutToleration, htolerates, Bool.false_eq_true, if_false, eval_pure]
      refine congrArg _ (ClusterState.changeWorkload_of_fixed fun w' hw' => ?_).symm
      cases hw.symm.trans hw'
      exact w.stripped_of_intolerant htolerates

theorem eval_deletePod (ns name : String) (s : ClusterState) :
    (orAbsent (call (.deletePod ns name))).eval s =
      (.ok (), s.removePod (ns ++ "/" ++ name)) := by
  cases hp : s.findPod (ns ++ "/" ++ name) with
  | none =>
    have hcall : (call (.deletePod ns name)).eval s = (.error (.deletePod ns name
        (ClusterState.notFound "pods" name)), s) := by
      show s.perform (.deletePod ns name) = _
      simp only [ClusterState.perform, hp]
    rw [eval_orAbsent_absent hcall rfl, ClusterState.removePod_of_absent hp]
  | some p =>
    refine eval_orAbsent_ok ?_
    show s.perform (.deletePod ns name) = _
    simp only [ClusterState.perform, hp]

theorem eval_removeDebug (name ns : String) (s : ClusterState) :
    (removeDebug name ns).eval s = (.ok (), s.removePod (ns ++ "/" ++ name)) :=
  eval_deletePod ns name s

theorem eval_removeListed (f : PodFilter) (s : ClusterState) :
    (call (.listPods f) >>= fun pods => pods.forM removePod).eval s =
      (.ok (), s.removePods (s.pods.filter (s.selects f))) := by
  rw [eval_bind_ok (m := s) (a := s.pods.filter (s.selects f)) rfl]
  exact eval_forM (fun p s => eval_deletePod p.metadata.anyNamespace p.name s) s

theorem eval_removeIsolatedPods (node : String) (s : ClusterState) :
    (removeIsolatedPods node).eval s =
      (.ok (), s.removePods (s.pods.filter (s.selects (marked (.onNode node))))) :=
  eval_removeListed _ s

theorem eval_cleanupIsolatedPods (s : ClusterState) :
    cleanupIsolatedPods.eval s =
      (.ok (), s.removePods (s.pods.filter (s.selects (marked .everything)))) :=
  eval_removeListed _ s

/-! ## Queries for marked pods -/

/-- A query for marked pods asks for one label. -/
theorem entries_sentinel : ((Dict.empty : Labels).insert Convention.sentinelKey
    Convention.sentinelValue).entries = [(Convention.sentinelKey, Convention.sentinelValue)] := by
  decide

theorem selects_marked {s : ClusterState} (hlabels : s.ignoresLabels = false) (p : Pod) :
    s.selects (marked .everything) p = Marking.isQuarantined p := by
  rw [Bool.eq_iff_iff]
  simp [ClusterState.selects, entries_sentinel, hlabels, Marking.isQuarantined, marked,
    PodFilter.everything, PodFilter.withLabel]

theorem selects_markedOnNode {s : ClusterState} (hlabels : s.ignoresLabels = false)
    (node : String) (p : Pod) : s.selects (marked (.onNode node)) p =
      (p.nodeName == some node && Marking.isQuarantined p) := by
  rw [Bool.eq_iff_iff]
  simp [ClusterState.selects, entries_sentinel, hlabels, Marking.isQuarantined, marked,
    PodFilter.everything, PodFilter.onNode, PodFilter.withLabel]

end Isolation

end Cordon
