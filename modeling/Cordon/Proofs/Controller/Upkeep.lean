import Cordon.Proofs.Controller.Run
import Cordon.Proofs.Lifecycle.Settle

/-! # What holds once a reconcile has returned success

A reconcile that returns success has settled the quarantine, unless it has only taken it up or there
was nothing to settle.  Then the records say what has been done to nodes, and the cluster should
agree with them.  There are two laws to that effect: the workloads of a node that is in shape
tolerate the taint if the node is to be isolated (`WorkloadsTolerant`), and a node on record as not
isolated carries no taint (`TaintsOnRecord`).

Neither holds all along.  The two main statements, `workloads_tolerant_after_success` and
`taints_on_record_after_success`, say for every success of a run when it does, in terms of the
cluster and the records that the reconcile has started from.  Neither law depends on how long a step
may take, so in both a quarantine is loaded with a limit of 0.
-/

namespace Cordon.Controller

open Lifecycle (new)

variable {others : ClusterState → ClusterState → Prop} {ns name : String} {s₀ s t : Scene}
  {ms : List Move} {mv : Move} {p q : Quarantine}

/-! ## Successes -/

/-- The reconcile of a move has returned success. -/
def Move.Succeeds (mv : Move) : Prop := ∃ next, mv.turn = .reconciled (.ok next)

/-- A quarantine that a reconcile settles: it has been taken up and is not being deleted. -/
structure Settles (ns name : String) (s : Scene) (q : Quarantine) : Prop where
  stored : stored ns name s = some q
  live : q.isDeleting = false
  held : q.hasFinalizer = true

/-- A quarantine has been settled. -/
structure Settled (others : ClusterState → ClusterState → Prop) (s t : Scene) (q p : Quarantine)
    (v : Sight) (l : Lifecycle) : Prop where
  live : p.isDeleting = false
  spec : p.spec = q.spec
  outcome : (new q 0).Outcome v others s l t
  records : ∀ n ∈ (new q 0).nodes, (new p 0).records.get? n.name = l.records.get? n.name

/-- A turn of a run starts from a sound store and leaves one. -/
theorem turns_of_mem (h₀ : Sound ns name s₀) (hrun : Run others ns name s₀ ms s) (hmv : mv ∈ ms) :
    Sound ns name mv.before ∧ Turns others ns name mv.before mv.turn mv.after := by
  induction hrun with
  | start => cases hmv
  | @move ms s t k hrun hturn ih =>
    rcases List.mem_cons.1 hmv with rfl | hmv
    · exact ⟨sound_of_run h₀ hrun, hturn⟩
    · exact ih hmv

/-- A pass over a quarantine that succeeds settles it, once its records are stored. -/
theorem settled_of_pass {timeout : Nat} {l : Lifecycle} {d : Scene} (hq : q.Proper) (hp : p.Proper)
    (hlive : q.isDeleting = false)
    (hpass : Pass.Runs others (task q) (new q timeout) s (.ok ()) l d)
    (hspec : p.spec = q.spec) (hdeleting : p.isDeleting = q.isDeleting)
    (hrecords : p.observedNodes = l.observedNodes) : ∃ v, Settled others s d q p v l := by
  obtain ⟨hconcerns, htidy, -⟩ := covers_of_task (M := fun _ => False) hq (fun _ h => h.elim) hpass
  rw [task, hlive, if_neg Bool.false_ne_true] at hpass
  obtain ⟨v, hv⟩ := Lifecycle.outcome_of_settle (l := new q timeout) (Lifecycle.nodup_nodes_new hq)
    (Lifecycle.apart_new hq) hpass
  refine ⟨v, hdeleting.trans hlive, hspec, ⟨hv.sight, hv.records, hv.tolerating, hv.tainted⟩, ?_⟩
  exact fun n hn => Lifecycle.get?_records_kept hconcerns htidy hrecords hq hp hn

section Success

variable {timing : Timing} {next : Next} (hs : Sound ns name s)
  (h : Executes others (reconcile timing (some ns) name).run s (.ok next) t)

include hs h

/-- A success that has a quarantine to settle has settled it. -/
theorem settled_of_success (hq : Settles ns name s q) :
    ∃ p v l, stored ns name t = some p ∧ Settled others s t q p v l := by
  have hproper := hs.proper q hq.stored
  have ht : Sound ns name t := sound_of_turn hs (.reconciled s t timing (.ok next) h)
  -- The records of the pass are stored: they were there already, or they have been written.
  cases executes_reconcile_ok hq.stored h with
  | left _ hfree => rw [hq.held] at hfree; cases hfree
  | held _ hfree => rw [hq.held] at hfree; cases hfree
  | released l d _ hdeleting => rw [hq.live] at hdeleting; cases hdeleting
  | kept l d _ hlive hpass hsame =>
    obtain ⟨v, hv⟩ := settled_of_pass hproper hproper hlive hpass rfl rfl hsame
    exact ⟨q, v, l, stored_of_working hpass.visits hq.stored, hv⟩
  | told l d status hheld hlive hpass hnext =>
    have hd := distinct_of_working hpass.visits hs.distinct
    have hstored : stored ns name _ = some { q with status := some status } :=
      stored_told hd (stored_of_working hpass.visits hq.stored) hheld
    obtain ⟨v, hv⟩ := settled_of_pass (p := { q with status := some status }) hproper
      (ht.proper _ hstored) hlive hpass rfl rfl hnext
    refine ⟨_, v, l, hstored, hv.live, hv.spec, ?_, hv.records⟩
    exact ⟨hv.outcome.sight, hv.outcome.records, hv.outcome.tolerating, hv.outcome.tainted⟩

/-- A success that has no quarantine to settle leaves none with records. -/
theorem unrecorded_of_success (hnone : ¬ ∃ q, Settles ns name s q)
    (hp : stored ns name t = some p) (hlive : p.isDeleting = false) : p.observedNodes = [] := by
  have hloaded : ∃ q, stored ns name s = some q := by
    rcases visits_reconcile h.visits with rfl | ⟨q, hq, -⟩
    · exact ⟨p, hp⟩
    · exact ⟨q, hq⟩
  obtain ⟨q, hq⟩ := hloaded
  -- The quarantine has been taken up just now, or it is being deleted.
  cases executes_reconcile_ok hq h with
  | left hdeleting =>
    cases hq.symm.trans hp
    rw [hlive] at hdeleting
    cases hdeleting
  | held hnew hfree =>
    rw [stored_held hs.distinct hq] at hp
    cases hp
    rcases (hs.proper q hq).fresh with hheld | hdeleting | hobserved
    · rw [hfree] at hheld
      cases hheld
    · rw [hnew] at hdeleting
      cases hdeleting
    · exact hobserved
  | released l d hheld hdeleting hpass =>
    have hd := distinct_of_working hpass.visits hs.distinct
    cases stored_released hd (stored_of_working hpass.visits hq) hp
    rw [show q.isDeleting = false from hlive] at hdeleting
    cases hdeleting
  | kept l d hheld hnew => exact absurd ⟨q, hq, hnew, hheld⟩ hnone
  | told l d status hheld hnew => exact absurd ⟨q, hq, hnew, hheld⟩ hnone

end Success

theorem hasChanged_of_unrecorded (h : p.observedNodes = []) (n : Target) :
    (new p 0).hasChanged n = true := by
  unfold Lifecycle.hasChanged
  cases ho : (new p 0).records.get? n.name with
  | none => rfl
  | some o =>
    obtain ⟨o', ho', -⟩ := List.mem_map.1 (Dict.mem_of_get?_ofList ho)
    rw [h] at ho'
    cases ho'

section Settled

variable {v : Sight} {l : Lifecycle} {n : Target}

theorem Settled.nodes (h : Settled others s t q p v l) : (new p 0).nodes = (new q 0).nodes := by
  show p.spec.nodes.map (fun n => Target.resolve n p.spec) = _
  rw [h.spec]
  rfl

/-- A node that has been attended to is in shape, and one that was in shape still is. -/
theorem Settled.hasChanged_iff (h : Settled others s t q p v l) (hn : n ∈ (new q 0).nodes) :
    (new p 0).hasChanged n = false ↔ (new q 0).Attends n ∨ (new q 0).hasChanged n = false := by
  obtain ⟨hattended, hother⟩ := h.outcome.records n hn
  rw [← h.records n hn] at hattended hother
  -- Attended nodes have a record made from the request, all others the one they had.
  by_cases ha : (new q 0).Attends n
  · obtain ⟨node, -, rfl⟩ := Lifecycle.mem_nodes_new.1 hn
    exact iff_of_true (Lifecycle.hasChanged_of_recorded (hattended ha)) (.inl ha)
  · rw [Lifecycle.hasChanged, hother ha, ← Lifecycle.hasChanged, or_iff_right ha]

end Settled

/-! ## Workloads -/

/-- The workloads of a node to be isolated that is in shape tolerate the taint. -/
def WorkloadsTolerant (ns name : String) (t : Scene) : Prop :=
  ∀ p ∈ stored ns name t, p.isDeleting = false →
    ∀ n ∈ (new p 0).nodes, n.isolate = true → (new p 0).hasChanged n = false →
      ∀ r ∈ n.resources, t.cluster.hasWorkload r.key = true →
        t.cluster.shows (.tolerating r.key) = true

instance : Decidable (WorkloadsTolerant ns name t) :=
  inferInstanceAs (Decidable (∀ p ∈ stored ns name t, _))

/-- Each workload of a node to be isolated that a pass brings into shape, or finds in shape, is lent
the toleration, or has it and does not lose it. -/
def Sustains (l : Lifecycle) (v : Sight) (s t : Scene) : Prop :=
  ∀ n ∈ l.nodes, n.isolate = true → l.Attends n ∨ l.hasChanged n = false →
    ∀ r ∈ n.resources, t.cluster.hasWorkload r.key = true →
      l.Lends v r.key ∨ s.cluster.shows (.tolerating r.key) = true ∧ ¬ l.Strips v r.key

instance (l : Lifecycle) (v : Sight) : Decidable (Sustains l v s t) :=
  inferInstanceAs (Decidable (∀ n ∈ l.nodes, _))

theorem Settled.workloadsTolerant_iff {v : Sight} {l : Lifecycle}
    (h : Settled others s t q p v l) (hp : stored ns name t = some p)
    (hcalm : ∀ key, Untouched others (.tolerating key)) :
    WorkloadsTolerant ns name t ↔ Sustains (new q 0) v s t := by
  constructor
  · intro htolerant n hn hiso hshape r hr hthere
    rw [← h.outcome.tolerating _ (hcalm _)]
    exact htolerant p hp h.live n (h.nodes ▸ hn) hiso ((h.hasChanged_iff hn).2 hshape) r hr hthere
  · intro hsustains p' hp' _ n hn hiso hshape r hr hthere
    cases hp.symm.trans hp'
    rw [h.nodes] at hn
    rw [h.outcome.tolerating _ (hcalm _)]
    exact hsustains n hn hiso ((h.hasChanged_iff hn).1 hshape) r hr hthere

theorem sustains_congr {l : Lifecycle} {v w : Sight} (hagree : ∀ n ∈ l.nodes, v.Agrees w n) :
    Sustains l v s t ↔ Sustains l w s t := by
  unfold Sustains
  simp only [Lifecycle.lends_congr hagree, Lifecycle.strips_congr hagree]

/-- After a success the workloads of isolated nodes that are in shape tolerate the taint, exactly
if the pass sustains them, provided that the others leave nodes alone meanwhile.  Whatever the
others do to nodes, the workloads tolerate the taint if the pass sustains them whatever it sees. -/
theorem workloads_tolerant_after_success (h₀ : Created ns name s₀)
    (hrun : Run others ns name s₀ ms s) (hcalm : ∀ key, Untouched others (.tolerating key))
    (hmv : mv ∈ ms) (hok : mv.Succeeds) :
    ((¬ ∃ q, Settles ns name mv.before q) → WorkloadsTolerant ns name mv.after) ∧
    ∀ q, Settles ns name mv.before q →
      ((∀ v, Sustains (new q 0) v mv.before mv.after) → WorkloadsTolerant ns name mv.after) ∧
      ((∀ node, NodeUntouched others node) →
        (WorkloadsTolerant ns name mv.after ↔
          Sustains (new q 0) mv.before.sight mv.before mv.after)) := by
  obtain ⟨hs, hturn⟩ := turns_of_mem (sound_of_created h₀) hrun hmv
  obtain ⟨next, hnext⟩ := hok
  rw [hnext] at hturn
  cases hturn with
  | reconciled _ timing _ h =>
    refine ⟨fun hnone p hp hlive n hn _ hshape => ?_, fun q hq => ?_⟩
    · rw [hasChanged_of_unrecorded (unrecorded_of_success hs h hnone hp hlive)] at hshape
      cases hshape
    · obtain ⟨p, v, l, hp, hsettled⟩ := settled_of_success hs h hq
      have hiff := hsettled.workloadsTolerant_iff hp hcalm
      refine ⟨fun hall => hiff.2 (hall v), fun hnodes => hiff.trans (sustains_congr ?_)⟩
      exact fun n hn => hsettled.outcome.sight n hn (hnodes n.name)

theorem succeeds_undisturbed {timing : Timing}
    (hok : (undisturbed timing ns name s).1.isOk = true) :
    Move.Succeeds ⟨s, .reconciled (undisturbed timing ns name s).1, t⟩ := by
  cases hnext : (undisturbed timing ns name s).1 with
  | error e =>
    rw [hnext] at hok
    cases hok
  | ok next => exact ⟨next, rfl⟩

theorem settles_of_any {P : Quarantine → Prop} [DecidablePred P]
    (h : (stored ns name s).any (fun q => !q.isDeleting && q.hasFinalizer && decide (P q)) = true) :
    ∃ q, Settles ns name s q ∧ P q := by
  obtain ⟨q, hq, h⟩ := (Option.any_eq_true _ _).1 h
  simp only [Bool.and_eq_true, Bool.not_eq_true', decide_eq_true_eq] at h
  exact ⟨q, ⟨hq, h.1.1, h.1.2⟩, h.2⟩

namespace Sample

/-- Nodes have been put in place, and other nodes are then asked for. -/
def changed (before after : List NodeSpec) : Scene :=
  asked (reconciled (reconciled (start before))) after

/-- A change of a request in place, and the reconcile that follows. -/
theorem run_changed (before after : List NodeSpec) (hbefore : (before.map (·.name)).Nodup)
    (hafter : (after.map (·.name)).Nodup)
    (hq : (stored "ns" "m" (reconciled (reconciled (start before)))).isSome = true) :
    ∃ ms, (∀ mv ∈ ms, mv.turn ≠ .drifted) ∧
      Run nobody "ns" "m" (start before) ms (changed before after) :=
  ⟨_, by simp, ((Run.start.undisturbed timing).undisturbed timing).respecified (created hbefore) hq
    hafter⟩

end Sample

open Sample in
/-- A workload stays tolerant when a node is dropped that does not track it. -/
theorem workloads_tolerant_after_dropping : WorkloadsTolerant "ns" "m"
    (reconciled (changed [ask "w1" true [workload], ask "w2" true []]
      [ask "w1" true [workload]])) := by
  generalize hs : changed [ask "w1" true [workload], ask "w2" true []]
    [ask "w1" true [workload]] = s
  obtain ⟨ms, -, hrun⟩ := run_changed [ask "w1" true [workload], ask "w2" true []]
    [ask "w1" true [workload]] (by decide) (by decide) (by decide +kernel)
  rw [hs] at hrun
  have hok : (undisturbed timing "ns" "m" s).1.isOk = true := by
    rw [← hs]
    decide +kernel
  obtain ⟨q, hq, hsustains⟩ : ∃ q, Settles "ns" "m" s q ∧
      Sustains (new q 0) s.sight s (reconciled s) := by
    rw [← hs]
    exact settles_of_any (by decide +kernel)
  obtain ⟨-, hlaw⟩ := workloads_tolerant_after_success (created (by decide))
    (hrun.undisturbed timing) (fun key => untouched_nobody _) List.mem_cons_self
    (succeeds_undisturbed hok)
  exact ((hlaw q hq).2 fun node => ⟨untouched_nobody _, untouched_nobody _⟩).2 hsustains

open Sample in
/-- It is not so that they always are: a workload is tolerant no longer once another node is dropped
that tracks it as well. -/
theorem not_workloads_tolerant_after_success : ¬ ∀ s₀ ms s, Created "ns" "m" s₀ →
    Run nobody "ns" "m" s₀ ms s → (∀ mv ∈ ms, mv.turn ≠ .drifted) →
    ∀ mv ∈ ms, mv.Succeeds → WorkloadsTolerant "ns" "m" mv.after := by
  intro h
  obtain ⟨ms, halone, hrun⟩ := run_changed [ask "w1" true [workload], ask "w2" true [workload]]
    [ask "w1" true [workload]] (by decide) (by decide) (by decide +kernel)
  have hlaw := h _ _ _ (created (by decide)) (hrun.undisturbed timing)
    (by simpa using halone) _ List.mem_cons_self (succeeds_undisturbed (by decide +kernel))
  have hnot : ¬ WorkloadsTolerant "ns" "m" (reconciled (changed
      [ask "w1" true [workload], ask "w2" true [workload]] [ask "w1" true [workload]])) := by
    decide +kernel
  exact hnot hlaw

/-! ## Taints -/

/-- A node on record as not isolated carries no taint. -/
def TaintsOnRecord (ns name : String) (t : Scene) : Prop :=
  ∀ p ∈ stored ns name t, p.isDeleting = false →
    ∀ n ∈ p.spec.nodes, ∀ o ∈ p.observedNodes, o.name = n.name → o.isolate = false →
      t.cluster.shows (.tainted n.name) = false

instance : Decidable (TaintsOnRecord ns name t) :=
  inferInstanceAs (Decidable (∀ p ∈ stored ns name t, _))

/-- Each node that is tainted is untainted by a pass that puts it on record as not isolated, and is
not on record as such if the pass leaves its record. -/
def Untaints (l : Lifecycle) (v : Sight) (s : Scene) : Prop :=
  ∀ n ∈ l.nodes, s.cluster.shows (.tainted n.name) = true →
    (l.Attends n → n.isolate = false → l.Unisolates v n) ∧
    (¬ l.Attends n → ∀ o ∈ l.records.get? n.name, o.isolate = true)

instance (l : Lifecycle) (v : Sight) : Decidable (Untaints l v s) :=
  inferInstanceAs (Decidable (∀ n ∈ l.nodes, _))

section Taints

variable {v : Sight} {l : Lifecycle} (h : Settled others s t q p v l)

include h

/-- In terms of the pass: no node is tainted that its records have as not isolated. -/
theorem Settled.taintsOnRecord_iff_records (hproper : p.Proper) (hp : stored ns name t = some p) :
    TaintsOnRecord ns name t ↔ ∀ n ∈ (new q 0).nodes, ∀ o,
      l.records.get? n.name = some o → o.isolate = false →
        t.cluster.shows (.tainted n.name) = false := by
  constructor
  · intro hlaw n hn o ho hiso
    rw [← h.records n hn] at ho
    obtain ⟨hmem, hname⟩ := (Lifecycle.get?_records_new hproper).1 ho
    rw [← h.nodes] at hn
    obtain ⟨node, hnode, rfl⟩ := Lifecycle.mem_nodes_new.1 hn
    exact hlaw p hp h.live node hnode o hmem hname hiso
  · intro hlaw p' hp' _ node hnode o hmem hname hiso
    cases hp.symm.trans hp'
    have hn : Target.resolve node p.spec ∈ (new q 0).nodes :=
      h.nodes ▸ Lifecycle.mem_nodes_new.2 ⟨node, hnode, rfl⟩
    have ho : (new p 0).records.get? node.name = some o :=
      (Lifecycle.get?_records_new hproper).2 ⟨hmem, hname⟩
    exact hlaw _ hn o ((h.records _ hn).symm.trans ho) hiso

theorem Settled.taintsOnRecord_iff (hproper : p.Proper) (hp : stored ns name t = some p)
    (hcalm : ∀ node, Untouched others (.tainted node)) :
    TaintsOnRecord ns name t ↔ Untaints (new q 0) v s := by
  rw [h.taintsOnRecord_iff_records hproper hp]
  refine forall_congr' fun n => forall_congr' fun hn => ?_
  obtain ⟨hattended, hother⟩ := h.outcome.records n hn
  -- A node that carries no taint has carried none before, or has been untainted.
  have htainted : ((new q 0).Attends n → n.isolate = false) →
      (t.cluster.shows (.tainted n.name) = false ↔
        (s.cluster.shows (.tainted n.name) = true → (new q 0).Unisolates v n)) := by
    intro hiso
    rw [← Bool.not_eq_true, h.outcome.tainted n hn hiso (hcalm _), not_and_not_right]
  -- A node that is attended to is on record as the request has it, any other as it was.
  by_cases ha : (new q 0).Attends n
  · constructor
    · intro hlaw hs
      refine ⟨fun _ hiso => ?_, fun hnot => absurd ha hnot⟩
      exact (htainted fun _ => hiso).1 (hlaw _ (hattended ha) hiso) hs
    · intro hcond o ho hiso
      cases (hattended ha).symm.trans ho
      exact (htainted fun _ => hiso).2 fun hs => (hcond hs).1 ha hiso
  · have hnot : ¬ (new q 0).Unisolates v n := fun hu => ha fun _ => hu.2.1
    have hleft := htainted fun h => absurd h ha
    constructor
    · intro hlaw hs
      refine ⟨fun h => absurd h ha, fun _ o ho => ?_⟩
      cases hiso : o.isolate with
      | true => rfl
      | false => exact absurd (hleft.1 (hlaw o ((hother ha).trans ho) hiso) hs) hnot
    · intro hcond o ho hiso
      refine hleft.2 fun hs => ?_
      rw [(hcond hs).2 ha o ((hother ha).symm.trans ho)] at hiso
      cases hiso

end Taints

theorem untaints_congr {l : Lifecycle} {v w : Sight} (hagree : ∀ n ∈ l.nodes, v.Agrees w n) :
    Untaints l v s ↔ Untaints l w s := by
  unfold Untaints
  simp only [Lifecycle.unisolates_congr hagree]

/-- After a success no node is tainted that is on record as not isolated, exactly if the pass
untaints those that it puts on record as such, provided that the others do not open or close nodes
meanwhile.  Whatever the others do to them, there is no such node if there is none before. -/
theorem taints_on_record_after_success (h₀ : Created ns name s₀)
    (hrun : Run others ns name s₀ ms s) (hcalm : ∀ node, Untouched others (.tainted node))
    (hmv : mv ∈ ms) (hok : mv.Succeeds) :
    ((¬ ∃ q, Settles ns name mv.before q) → TaintsOnRecord ns name mv.after) ∧
    ∀ q, Settles ns name mv.before q →
      ((∀ v, Untaints (new q 0) v mv.before) → TaintsOnRecord ns name mv.after) ∧
      ((∀ node, Untouched others (.closed node)) →
        (TaintsOnRecord ns name mv.after ↔ Untaints (new q 0) mv.before.sight mv.before)) := by
  obtain ⟨hs, hturn⟩ := turns_of_mem (sound_of_created h₀) hrun hmv
  obtain ⟨next, hnext⟩ := hok
  rw [hnext] at hturn
  have ht := sound_of_turn hs hturn
  cases hturn with
  | reconciled _ timing _ h =>
    refine ⟨fun hnone p hp hlive n hn o ho _ _ => ?_, fun q hq => ?_⟩
    · rw [unrecorded_of_success hs h hnone hp hlive] at ho
      cases ho
    · obtain ⟨p, v, l, hp, hsettled⟩ := settled_of_success hs h hq
      have hiff := hsettled.taintsOnRecord_iff (ht.proper p hp) hp hcalm
      refine ⟨fun hall => hiff.2 (hall v), fun hnodes => hiff.trans (untaints_congr ?_)⟩
      exact fun n hn => hsettled.outcome.sight n hn ⟨hnodes n.name, hcalm n.name⟩

open Sample in
/-- A node that is not to be isolated any more carries no taint once an update has succeeded. -/
theorem taints_on_record_after_clearing : TaintsOnRecord "ns" "m"
    (reconciled (changed [ask "w1" true []] [ask "w1" false []])) := by
  generalize hs : changed [ask "w1" true []] [ask "w1" false []] = s
  obtain ⟨ms, -, hrun⟩ := run_changed [ask "w1" true []] [ask "w1" false []] (by decide)
    (by decide) (by decide +kernel)
  rw [hs] at hrun
  have hok : (undisturbed timing "ns" "m" s).1.isOk = true := by
    rw [← hs]
    decide +kernel
  obtain ⟨q, hq, huntaints⟩ : ∃ q, Settles "ns" "m" s q ∧ Untaints (new q 0) s.sight s := by
    rw [← hs]
    exact settles_of_any (by decide +kernel)
  obtain ⟨-, hlaw⟩ := taints_on_record_after_success (created (by decide))
    (hrun.undisturbed timing) (fun node => untouched_nobody _) List.mem_cons_self
    (succeeds_undisturbed hok)
  exact ((hlaw q hq).2 fun node => untouched_nobody _).2 huntaints

namespace Sample

theorem untainted_start {nodes : List NodeSpec} (name : String) :
    (start nodes).cluster.shows (.tainted name) = false := by
  rw [← Bool.not_eq_true]
  intro h
  obtain ⟨n, hn, htaint⟩ := (Option.any_eq_true _ _).1 h
  have hmem : n ∈ cluster.nodes := List.mem_of_find?_eq_some hn
  have hfree : ∀ n ∈ cluster.nodes, Repelling.hasTaint n.taints = false := by decide +kernel
  rw [hfree n hmem] at htaint
  cases htaint

/-- An isolated node is no longer to be isolated, but the update fails for want of a workload, which
is then no longer tracked. -/
def retried : Scene :=
  asked (reconciled (changed [ask "w1" true []] [ask "w1" false [missing]])) [ask "w1" false []]

theorem run_retried : ∃ ms, (∀ mv ∈ ms, mv.turn ≠ .drifted) ∧
    Run nobody "ns" "m" (start [ask "w1" true []]) ms retried := by
  obtain ⟨ms, halone, hrun⟩ := run_changed [ask "w1" true []] [ask "w1" false [missing]] (by decide)
    (by decide) (by decide +kernel)
  refine ⟨_, ?_, (hrun.undisturbed timing).respecified (created (by decide)) (by decide +kernel)
    (by decide)⟩
  simpa using halone

end Sample

open Sample in
/-- It is not so that such a node never is tainted: one is after an update has failed, since the
next reconcile brings the quarantine in place anew, and that takes no taint off. -/
theorem not_taints_on_record_after_success : ¬ ∀ s₀ ms s, Created "ns" "m" s₀ →
    (∀ node, s₀.cluster.shows (.tainted node) = false) →
    Run nobody "ns" "m" s₀ ms s → (∀ mv ∈ ms, mv.turn ≠ .drifted) →
    ∀ mv ∈ ms, mv.Succeeds → TaintsOnRecord "ns" "m" mv.after := by
  intro h
  obtain ⟨ms, halone, hrun⟩ := run_retried
  have hlaw := h _ _ _ (created (by decide)) untainted_start (hrun.undisturbed timing)
    (by simpa using halone) _ List.mem_cons_self (succeeds_undisturbed (by decide +kernel))
  have hnot : ¬ TaintsOnRecord "ns" "m" (reconciled retried) := by decide +kernel
  exact hnot hlaw

end Cordon.Controller
