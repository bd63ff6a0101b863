import Cordon.Proofs.Isolation.Scope
import Cordon.Proofs.Run.Reading

/-! # What each operation achieves

An operation of isolation that succeeds has done what it is for: a node that has been untainted
carries no taint, a workload whose toleration has been removed has none, and so on.  For the
removals this is so for every `Reading`, however the others use the cluster meanwhile, and it is so
as well if the object in question turns out to be absent.  What puts a mark on the cluster needs
the others to leave the mark alone.

`Clustered.Runs` is the run of a computation that makes one call after the other and is not cut
short; its rules take a successful run apart into successful runs of the parts.
-/

namespace Cordon

variable {others : ClusterState → ClusterState → Prop}

/-! ## Runs that make one call after the other -/

/-- A computation makes its calls and ends. -/
def Program.Calling (others : ClusterState → ClusterState → Prop) {α : Type} :
    Program ClusterApi α → Scene → α → Scene → Prop
  | .done a, s, b, t => b = a ∧ t = s
  | .ask c resume, s, b, t =>
    ∃ d answer m, Drifted others s d ∧ Calls d c (some answer) m ∧
      (resume answer).Calling others m b t

theorem Program.calling_andThen {α β : Type} {p : Program ClusterApi α}
    {f : α → Program ClusterApi β} {s t : Scene} {b : β} :
    (p.andThen f).Calling others s b t ↔
      ∃ a m, p.Calling others s a m ∧ (f a).Calling others m b t := by
  induction p generalizing s with
  | done a =>
    constructor
    · intro h
      exact ⟨a, s, ⟨rfl, rfl⟩, h⟩
    · rintro ⟨_, _, ⟨rfl, rfl⟩, h⟩
      exact h
  | ask c resume ih =>
    simp only [Program.ask_andThen, Program.Calling, ih]
    constructor
    · rintro ⟨d, answer, m, hd, hc, a, e, hp, hf⟩
      exact ⟨a, e, ⟨d, answer, m, hd, hc, hp⟩, hf⟩
    · rintro ⟨a, e, ⟨d, answer, m, hd, hc, hp⟩, hf⟩
      exact ⟨d, answer, m, hd, hc, a, e, hp, hf⟩

namespace Clustered

variable {α β : Type}

/-- A computation runs to its end and returns or fails. -/
def Runs (others : ClusterState → ClusterState → Prop) (p : Clustered α) (s : Scene)
    (r : Except IsolationError α) (t : Scene) : Prop :=
  p.run.Calling others s r t

/-- A step that is not cut short runs to its end. -/
theorem executes_sequentially {p : Clustered α} {s t : Scene} {r : Except IsolationError α} :
    Executes others (Effects.interruptible (Drain.sequentially p).run) s (some r) t ↔
      Runs others p s r t := by
  change Executes others (Effects.interruptible (Program.interpret _ p.run)) s (some r) t ↔ _
  unfold Runs
  generalize p.run = q
  induction q generalizing s with
  | done a =>
    constructor
    · rintro ⟨hr, ht⟩
      cases hr
      exact ⟨rfl, ht⟩
    · rintro ⟨rfl, ht⟩
      exact ⟨rfl, ht⟩
  | ask c resume ih =>
    simp only [Program.interpret, Program.query, Program.ask_andThen, Program.done_andThen,
      Effects.interruptible, Executes]
    constructor
    · rintro ⟨answer, m, ⟨d, hd, hc⟩, h⟩
      cases answer with
      | some answer => exact ⟨d, answer, m, hd, hc, (ih answer).1 h⟩
      | none => cases h.1
    · rintro ⟨d, answer, m, hd, hc, h⟩
      exact ⟨some answer, m, ⟨d, hd, hc⟩, (ih answer).2 h⟩

/-! What a computation does not set it does not gain, what it does not clear it does not lose. -/

theorem gained_of_runs {m : Mark} {R : Scene → Bool} (h : Reading others m R) {P : Footprint}
    {p : Clustered α} {s t : Scene} {r : Except IsolationError α} (hp : StaysIn P p)
    (hr : Runs others p s r t) (ht : R t = true) : R s = true ∨ P m true :=
  h.of_visits (Program.Obeys.interruptible (Program.Obeys.sequentially hp))
    (executes_sequentially.2 hr).visits ht

theorem lost_of_runs {m : Mark} {R : Scene → Bool} (h : Steady others m R) {P : Footprint}
    {p : Clustered α} {s t : Scene} {r : Except IsolationError α} (hp : StaysIn P p)
    (hr : Runs others p s r t) (hs : R s = true) : R t = true ∨ P m false :=
  h.of_visits (Program.Obeys.interruptible (Program.Obeys.sequentially hp))
    (executes_sequentially.2 hr).visits hs

/-! ## Successful runs -/

theorem runs_pure {a b : α} {s t : Scene} (h : Runs others (pure a) s (.ok b) t) :
    b = a ∧ t = s := by
  obtain ⟨hr, ht⟩ := h
  cases hr
  exact ⟨rfl, ht⟩

/-- Two computations that succeed in turn. -/
theorem runs_bind {p : Clustered α} {f : α → Clustered β} {s t : Scene} {b : β}
    (h : Runs others (p >>= f) s (.ok b) t) :
    ∃ a m, Runs others p s (.ok a) m ∧ Runs others (f a) m (.ok b) t := by
  unfold Runs at h
  rw [ExceptT.run_bind] at h
  obtain ⟨r, m, hp, hf⟩ := Program.calling_andThen.1 h
  cases r with
  | ok a => exact ⟨a, m, hp, hf⟩
  | error e => cases hf.1

/-- A call that succeeds has taken effect.  Evictions may be refused instead. -/
theorem runs_call {c : ClusterCall} {s t : Scene} {a : c.Reply}
    (hne : ∀ p dryRun, c ≠ .evictPod p dryRun) (h : Runs others (call c) s (.ok a) t) :
    ∃ d, Drifted others s d ∧ (d.cluster.perform c).1 = .ok a ∧ t = d.act c := by
  obtain ⟨d, answer, m, hd, hc, hr, rfl⟩ := h
  cases hr
  obtain ⟨hp, ht⟩ := hc.of_ok hne
  exact ⟨d, hd, hp, ht⟩

theorem not_runs_throw {e : IsolationError} {a : α} {s t : Scene} :
    ¬ Runs others (throw e) s (.ok a) t := by
  intro h
  cases h.1

/-- A handled computation succeeds by itself or by its handler. -/
theorem runs_tryCatch {p : Clustered α} {f : IsolationError → Clustered α} {s t : Scene} {a : α}
    (h : Runs others (tryCatch p f) s (.ok a) t) :
    Runs others p s (.ok a) t ∨
      ∃ e m, Runs others p s (.error e) m ∧ Runs others (f e) m (.ok a) t := by
  obtain ⟨r, m, hp, hf⟩ := Program.calling_andThen.1 h
  cases r with
  | ok b =>
    obtain ⟨hb, rfl⟩ := hf
    cases hb
    exact .inl hp
  | error e => exact .inr ⟨e, m, hp, hf⟩

/-- A call that finds nothing is one that there is nothing for. -/
theorem runs_call_notFound {c : ClusterCall} {s t : Scene} {e : IsolationError}
    (h : Runs others (call c) s (.error e) t) (he : e.isNotFound = true) :
    Drifted others s t ∧ ∃ e', (t.cluster.perform c).1 = .error e' := by
  obtain ⟨d, answer, m, hd, hc, hr, rfl⟩ := h
  cases hr
  obtain ⟨hp, rfl⟩ := hc.of_notFound he
  exact ⟨hd, hp⟩

theorem runs_map_error {p : Clustered α} {f : α → β} {e : IsolationError} {s t : Scene}
    (h : Runs others (f <$> p) s (.error e) t) : Runs others p s (.error e) t := by
  rw [← bind_pure_comp] at h
  obtain ⟨r, m, hp, hf⟩ := Program.calling_andThen.1 h
  cases r with
  | ok a => cases hf.1
  | error e' =>
    obtain ⟨he, rfl⟩ := hf
    cases he
    exact hp

/-- A look-up has found an object, or there is none. -/
theorem runs_ifPresent {c : ClusterCall} {found : Option c.Reply} {s t : Scene}
    (hne : ∀ p dryRun, c ≠ .evictPod p dryRun)
    (h : Runs others (Isolation.ifPresent (call c)) s (.ok found) t) :
    (∃ a d, found = some a ∧ Drifted others s d ∧ (d.cluster.perform c).1 = .ok a ∧
      t = d.act c) ∨
    (found = none ∧ Drifted others s t ∧ ∃ e, (t.cluster.perform c).1 = .error e) := by
  rcases runs_tryCatch h with h | ⟨e, m, hc, h⟩
  · rw [← bind_pure_comp] at h
    obtain ⟨a, m, hc, h⟩ := runs_bind h
    obtain ⟨rfl, rfl⟩ := runs_pure h
    obtain ⟨d, hd, hp, rfl⟩ := runs_call hne hc
    exact .inl ⟨a, d, rfl, hd, hp, rfl⟩
  · cases he : e.isNotFound with
    | true =>
      simp only [he, if_true] at h
      obtain ⟨rfl, rfl⟩ := runs_pure h
      exact .inr ⟨rfl, runs_call_notFound (runs_map_error hc) he⟩
    | false =>
      simp only [he] at h
      exact absurd h not_runs_throw

end Clustered

namespace Isolation

open Clustered

variable {m : Mark} {R : Scene → Bool} {s t : Scene}

/-! ## What is taken off -/

/-- A node that has been opened to scheduling is open. -/
theorem open_of_enableScheduling {node : String} (h : Reading others (.closed node) R)
    (hr : Runs others (enableScheduling node) s (.ok ()) t) : R t = false := by
  rcases runs_tryCatch hr with hr | ⟨e, m, hc, hr⟩
  · obtain ⟨d, -, hp, rfl⟩ := runs_call (by simp) hr
    rw [h.act d _ _ hp]
    simp only [ClusterCall.writes, if_true, Option.getD_some]
  -- A node that is not found is not there, so it is not closed either.
  · cases he : e.isNotFound with
    | true =>
      simp only [he, if_true] at hr
      obtain ⟨-, rfl⟩ := runs_pure hr
      obtain ⟨-, e', hp⟩ := runs_call_notFound hc he
      exact h.not_of_not_shown (ClusterState.shows_closed_of_absent hp)
    | false =>
      simp only [he] at hr
      exact absurd hr not_runs_throw

/-- A node that has been untainted carries no taint. -/
theorem untainted_of_untaintNode {node : String} (h : Reading others (.tainted node) R)
    (hr : Runs others (untaintNode node) s (.ok ()) t) : R t = false := by
  -- The taint is there and taken off, or it is not there, or there is no such node.
  obtain ⟨found, m, hget, hr⟩ := runs_bind hr
  rcases runs_ifPresent (by simp) hget with ⟨n, d, rfl, -, hp, rfl⟩ | ⟨rfl, -, e, hp⟩
  · dsimp only at hr
    cases hw : Repelling.withoutTaint n.taints with
    | some taints =>
      simp only [hw] at hr
      obtain ⟨e, -, hset, rfl⟩ := runs_call (by simp) hr
      have hname : n.name = node :=
        ClusterState.name_of_findNode (ClusterState.findNode_of_getNode hp)
      rw [h.act e _ _ hset]
      simp only [ClusterCall.writes, hname, if_true, Option.getD_some]
      exact Repelling.hasTaint_withoutTaint hw
    | none =>
      simp only [hw] at hr
      obtain ⟨-, rfl⟩ := runs_pure hr
      refine h.not_of_not_shown ?_
      rw [(Scene.act_of_writes_none rfl).2, (ClusterState.shows_of_getNode hp).2]
      exact Repelling.hasTaint_of_withoutTaint_none hw
  · obtain ⟨-, rfl⟩ := runs_pure hr
    exact h.not_of_not_shown (ClusterState.shows_tainted_of_absent hp)

/-- A workload whose toleration has been removed does not tolerate the taint. -/
theorem intolerant_of_removeToleration {r : ResourceRef}
    (h : Reading others (.tolerating r.key) R)
    (hr : Runs others (removeToleration r) s (.ok ()) t) : R t = false := by
  -- As for the taint: taken off, not there, or no such workload.
  obtain ⟨found, m, hget, hr⟩ := runs_bind hr
  rcases runs_ifPresent (by simp) hget with ⟨w, d, rfl, -, hp, rfl⟩ | ⟨rfl, -, e, hp⟩
  · change Runs others (stripToleration w) _ _ _ at hr
    unfold stripToleration at hr
    cases hw : Repelling.withoutToleration w.tolerations with
    | some tolerations =>
      simp only [hw] at hr
      obtain ⟨e, -, hset, rfl⟩ := runs_call (by simp) hr
      have hkey : w.key = r.key :=
        ClusterState.key_of_findWorkload (ClusterState.findWorkload_of_getWorkload hp)
      rw [h.act e _ _ hset]
      simp only [ClusterCall.writes, hkey, if_true, Option.getD_some]
      exact Repelling.hasToleration_withoutToleration hw
    | none =>
      simp only [hw] at hr
      obtain ⟨-, rfl⟩ := runs_pure hr
      refine h.not_of_not_shown ?_
      rw [(Scene.act_of_writes_none rfl).2, ClusterState.shows_of_getWorkload hp]
      exact Repelling.hasToleration_of_withoutToleration_none hw
  · obtain ⟨-, rfl⟩ := runs_pure hr
    exact h.not_of_not_shown (ClusterState.shows_tolerating_of_absent hp)

/-! ## What is put on -/

/-- Whether a node is isolated, if the others leave it as it is. -/
theorem eq_of_isIsolated {node : String} {b : Bool}
    (hclosed : Untouched others (.closed node)) (htainted : Untouched others (.tainted node))
    (hr : Runs others (isIsolated node) s (.ok b) t) :
    b = (s.cluster.shows (.closed node) && s.cluster.shows (.tainted node)) := by
  obtain ⟨n, m, hget, hr⟩ := runs_bind hr
  obtain ⟨rfl, -⟩ := runs_pure hr
  obtain ⟨d, hd, hp, -⟩ := runs_call (by simp) hget
  obtain ⟨hc, ht⟩ := ClusterState.shows_of_getNode hp
  rw [← (steady_shows hclosed).of_drifted hd, ← (steady_shows htainted).of_drifted hd, hc, ht]

/-- A workload that has been let onto isolated nodes tolerates the taint. -/
theorem tolerant_of_isolateWorkload {node : String} {r : ResourceRef}
    (h : Untouched others (.tolerating r.key))
    (hr : Runs others (isolateWorkload node true r) s (.ok ()) t) :
    t.cluster.shows (.tolerating r.key) = true := by
  obtain ⟨w, m₁, hget, hrest⟩ := runs_bind hr
  obtain ⟨_, m₂, hmark, hadd⟩ := runs_bind hrest
  obtain ⟨d, -, hp, hm₁⟩ := runs_call (by simp) hget
  change Runs others (addToleration w) _ _ _ at hadd
  unfold addToleration at hadd
  cases hw : Repelling.withToleration w.tolerations with
  | some tolerations =>
    simp only [hw] at hadd
    obtain ⟨e, -, hset, rfl⟩ := runs_call (by simp) hadd
    have hkey : w.key = r.key :=
      ClusterState.key_of_findWorkload (ClusterState.findWorkload_of_getWorkload hp)
    rw [(Scene.act_of_ok hset _).2.2]
    simp only [ClusterCall.writes, hkey, if_true, Option.getD_some]
    exact Repelling.hasToleration_withToleration hw
  | none =>
    simp only [hw] at hadd
    obtain ⟨-, rfl⟩ := runs_pure hadd
    -- It tolerates the taint when it is looked up, and marking its pods does not change that.
    have hshown : m₁.cluster.shows (.tolerating r.key) = true := by
      rw [hm₁, (Scene.act_of_writes_none rfl).2, ClusterState.shows_of_getWorkload hp]
      exact Repelling.hasToleration_of_withToleration_none hw
    have hstays : StaysIn .nothing (markPods node w) := staysIn_markPods node w
    exact (lost_of_runs (steady_shows h) hstays hmark hshown).resolve_right id

/-- All tracked workloads of a node that has been isolated tolerate the taint. -/
theorem tolerant_of_isolate {n : Target} {r : ResourceRef} (hmem : r ∈ n.resources)
    (h : Untouched others (.tolerating r.key))
    (hr : Runs others (isolate n true) s (.ok ()) t) :
    t.cluster.shows (.tolerating r.key) = true := by
  unfold isolate at hr
  generalize n.resources = l at hmem hr
  induction l generalizing s with
  | nil => cases hmem
  | cons a rest ih =>
    change Runs others (isolateWorkload n.name true a >>= fun _ =>
      rest.forM (isolateWorkload n.name true)) s (.ok ()) t at hr
    obtain ⟨_, m, hhead, hrest⟩ := runs_bind hr
    rcases List.mem_cons.1 hmem with rfl | hmem
    -- The workloads behind it in the list are given the toleration too, and none loses it.
    · have hshown := tolerant_of_isolateWorkload h hhead
      have hstays : StaysIn (fun _ b => b = true)
          (rest.forM (isolateWorkload n.name true)) :=
        staysIn_forM fun r _ => (staysIn_isolateWorkload n.name true r).mono
          fun _ _ hb => hb.2.2
      rcases lost_of_runs (steady_shows h) hstays hrest hshown with hshown | hfalse
      · exact hshown
      · cases hfalse
    · exact ih hmem hrest

end Isolation

end Cordon
