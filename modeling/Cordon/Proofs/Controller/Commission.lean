import Cordon.Proofs.Controller.History
import Cordon.Proofs.Lifecycle.Errands

/-! # What a quarantine commissions

All calls of a reconcile are on the errands that the quarantine gives it: of a deleted one each node
is given up and marked pods are swept, and otherwise the nodes of the request are brought into
shape, dropped ones are given up, and workloads on record are stripped of the toleration
(`commission`).  This is so whatever the calls are answered, and wherever the reconcile is broken
off (`grounded_of_opens`).
-/

namespace Cordon.Controller

open Lifecycle (new settle stop keepsTo_settle keepsTo_stop mem_nodes_new mem_marked_new
  mem_of_get?_records_new)

variable {timing : Timing} {ns name : String} {q : Quarantine} {l : Lifecycle} {timeout : Nat}
  {h : Dialogue Effects} {k : Heard}

/-- The errands of a quarantine. -/
def Commissions (q : Quarantine) (E : Errand) : Prop :=
  if q.isDeleting then
    (∃ u ∈ (new q 0).nodes ++ (new q 0).marked, E = .reverting u) ∨ E = .sweeping
  else
    (∃ n ∈ (new q 0).nodes, E = .shaping n) ∨ (∃ u ∈ (new q 0).marked, E = .reverting u) ∨
      ∃ o ∈ q.observedNodes, E = .stripping o.resources

/-- All that a quarantine gives to do. -/
def commission (q : Quarantine) : Errand := .all (Commissions q)

theorem grounded_task {r : Except ControllerError Unit}
    (hs : (task q).Says (new q timeout) h r l) (k : Heard) :
    Grounded (commission q).Allows k h := by
  unfold task at hs
  cases hdeleting : q.isDeleting with
  | true =>
    rw [hdeleting, if_pos rfl] at hs
    have hsweep : Errand.sweeping.PartOf (commission q) :=
      Errand.partOf_all (by rw [Commissions, if_pos hdeleting]; exact .inr rfl)
    -- A stop reverts what is asked for and what is marked alike.
    refine (keepsTo_stop hsweep).grounded (fun u hu => Errand.partOf_all ?_) hs k
    rw [Commissions, if_pos hdeleting]
    exact .inl ⟨u, hu, rfl⟩
  | false =>
    rw [hdeleting, if_neg Bool.false_ne_true] at hs
    have hlive : ∀ {E : Errand}, ((∃ n ∈ (new q 0).nodes, E = .shaping n) ∨
        (∃ u ∈ (new q 0).marked, E = .reverting u) ∨
          ∃ o ∈ q.observedNodes, E = .stripping o.resources) → E.PartOf (commission q) := by
      intro E hE
      refine Errand.partOf_all ?_
      rw [Commissions, hdeleting, if_neg Bool.false_ne_true]
      exact hE
    refine (keepsTo_settle q.isActive).grounded ⟨fun n hn => ?_, fun u hu => ?_,
      fun key o ho => ?_⟩ hs k
    · exact hlive (.inl ⟨n, hn, rfl⟩)
    · exact hlive (.inr (.inl ⟨u, hu, rfl⟩))
    · exact hlive (.inr (.inr ⟨o, (mem_of_get?_records_new ho).1, rfl⟩))

theorem not_calls_of_onCluster {r : Effects.Request} (hr : r.onCluster = false) (c : ClusterCall) :
    ¬ OnCluster.calls (I := Effects) r c := by
  cases r with
  | cluster r => cases hr
  | store _ | arm _ | disarm | now => exact id

/-- What is loaded is told by the first answer. -/
theorem loaded_append (hne : h ≠ []) (rest : Dialogue Effects) :
    loaded (h ++ rest) = loaded h := by
  obtain ⟨⟨r, answer⟩, h, rfl⟩ := List.exists_cons_of_ne_nil hne
  cases r with
  | store c =>
    cases c with
    | getQuarantine ns name => cases answer <;> rfl
    | addFinalizer _ | removeFinalizer _ | updateStatus _ _ => rfl
  | cluster _ | arm _ | disarm | now => rfl

/-- A reconcile that has found nothing makes no call. -/
theorem absent_of_opens (ho : (reconcile timing (some ns) name).run.Opens h)
    (hloaded : loaded h = none) : ∀ e ∈ h, e.1.onCluster = false ∧ e.1.onStore = false := by
  obtain ⟨rest, r, hs⟩ := ho
  intro e he
  exact (disciplined_of_speaks hs).absent
    ((loaded_append (List.ne_nil_of_mem he) rest).trans hloaded) e (List.mem_append_left _ he)

/-- What is loaded is what is stored. -/
theorem stored_of_loaded {others : ClusterState → ClusterState → Prop} {s t : Scene}
    (ho : (reconcile timing (some ns) name).run.Opens h) (hf : Follows (Answers others) s h t)
    (hloaded : loaded h = some q) : stored ns name s = some q := by
  obtain ⟨rest, r, hs⟩ := ho
  obtain ⟨answer, _, heq, -⟩ := speaks_load hs
  cases h with
  | nil => cases hloaded
  | cons e h =>
    obtain ⟨m, hm, -⟩ := hf
    cases heq
    cases answer with
    | error e => cases hloaded
    | ok found =>
      cases (show found = some q from hloaded)
      generalize hfound : Except.ok (some q) = a at hm
      cases hm with
      | answered => exact (Except.ok.inj hfound).symm
      | failed => cases hfound

/-- Every call of a reconcile is on an errand of the quarantine that it has loaded. -/
theorem grounded_of_opens (ho : (reconcile timing (some ns) name).run.Opens h)
    (hloaded : loaded h = some q) (k : Heard) : Grounded (commission q).Allows k h := by
  obtain ⟨rest, r, hs⟩ := ho
  have hne : h ≠ [] := by
    rintro rfl
    cases hloaded
  have hwhole : loaded (h ++ rest) = some q := (loaded_append hne rest).trans hloaded
  suffices hgrounded : Grounded (commission q).Allows k (h ++ rest) from hgrounded.front
  cases hheld : q.hasFinalizer with
  | false =>
    -- Without the finalizer the cluster is not called.
    refine grounded_of_silent fun e he => not_calls_of_onCluster ?_
    by_contra hcluster
    obtain ⟨q', hq', hheld'⟩ :=
      (disciplined_of_speaks hs).called e he (Bool.eq_true_of_not_eq_false hcluster)
    cases hwhole.symm.trans hq'
    cases hheld.symm.trans hheld'
  | true =>
    have htask : ∀ {during behind : Dialogue Effects} {r l},
        (task q).Says (new q timing.nodeTimeout) during r l →
        (∀ e ∈ behind, e.1.onCluster = false) →
        Grounded (I := Effects) (commission q).Allows k
          (⟨.store (.getQuarantine ns name), .ok (some q)⟩ :: (during ++ behind)) := by
      intro during behind r l hpass hbehind
      refine grounded_cons.2 ⟨fun c hc => hc.elim, grounded_append.2 ⟨grounded_task hpass _, ?_⟩⟩
      exact grounded_of_silent fun e he => not_calls_of_onCluster (hbehind e he)
    rcases reports_of_speaks hs hwhole hheld with
      ⟨hdeleting, during, l, answer, hstop, heq⟩ |
      ⟨during, behind, l, status, reason, message, hreports⟩
    · rw [heq]
      refine htask (r := .ok ()) (l := l) ?_ (by simp [Effects.Request.onCluster])
      rw [task, if_pos hdeleting]
      exact hstop
    · obtain ⟨r, hpass⟩ := hreports.verdict.task
      rw [hreports.dialogue]
      refine htask hpass ?_
      rcases id hreports.files with ⟨-, rfl⟩ | ⟨-, now, answer, rfl⟩
      · simp
      · simp [writing, Effects.Request.onCluster]

end Cordon.Controller
