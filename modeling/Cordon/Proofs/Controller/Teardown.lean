import Cordon.Proofs.Controller.Run

/-! # What is left when a quarantine has gone

Once a deleted quarantine has been stopped and let go, the controller's own marks should be gone
with it.  A stop goes through the nodes of the request, each with the workloads that it has now, and
through the dropped nodes, each with the workloads of its record.  So the marks that are gone are
those that the quarantine recalls when the stop begins; all others stay (`own_of_releases`,
`own_after_release`).

This makes the two main statements exact.  `tolerations_after_release` is about workloads: one stays
tolerant when an edit takes it out of the list of a node that the request still names, and the
quarantine is deleted before the node has been brought into line.  `nodes_known_of_run` is about
nodes: one stays closed when it was closed by a pass that failed before it was recorded, and an edit
drops it.  Nothing but an edit does so: failures, interruptions and changes by others make the
controller forget no mark.
-/

namespace Cordon.Controller

open Lifecycle (stop new)

variable {others : ClusterState → ClusterState → Prop} {ns name : String} {s₀ s t : Scene}
  {ms : List Move} {m : Mark}

/-! ## Release -/

/-- A deleted quarantine has been stopped and let go. -/
def Releases (others : ClusterState → ClusterState → Prop) (ns name : String) (s t : Scene) :
    Prop :=
  ∃ q timing next, stored ns name s = some q ∧ q.isDeleting = true ∧ q.hasFinalizer = true ∧
    Executes others (reconcile timing (some ns) name).run s (.ok next) t

theorem pass_of_releases (h : Releases others ns name s t) :
    ∃ q timeout l d, stored ns name s = some q ∧ q.isDeleting = true ∧
      Pass.Runs others (task q) (new q timeout) s (.ok ()) l d ∧ ∀ m, t.own m = d.own m := by
  obtain ⟨q, timing, next, hq, hdeleting, hheld, hexec⟩ := h
  cases executes_reconcile_ok hq hexec with
  | left _ hfree => rw [hheld] at hfree; cases hfree
  | held hlive => rw [hdeleting] at hlive; cases hlive
  | released l d _ _ hpass => exact ⟨q, _, l, d, hq, hdeleting, hpass, fun _ => rfl⟩
  | kept l d _ hlive => rw [hdeleting] at hlive; cases hlive
  | told l d next _ hlive => rw [hdeleting] at hlive; cases hlive

/-- A reconcile of a deleted quarantine that is left in peace releases it if it returns success. -/
theorem releases_undisturbed (timing : Timing)
    (hq : (stored ns name s).any (fun q => q.isDeleting && q.hasFinalizer) = true)
    (hok : (undisturbed timing ns name s).1.isOk = true) :
    Releases others ns name s (undisturbed timing ns name s).2 := by
  obtain ⟨q, hstored, hq⟩ := (Option.any_eq_true _ _).1 hq
  rw [Bool.and_eq_true] at hq
  have hexec := executes_run others (reconcile timing (some ns) name).run s
  change Executes others _ s (undisturbed timing ns name s).1 _ at hexec
  cases hnext : (undisturbed timing ns name s).1 with
  | error e =>
    rw [hnext] at hok
    cases hok
  | ok next =>
    rw [hnext] at hexec
    exact ⟨q, timing, next, hstored, hq.1, hq.2, hexec⟩

/-- What is left after a release was the controller's before, and the quarantine did not recall it.
-/
theorem own_of_releases (h : Releases others ns name s t) (ht : t.own m = true) :
    s.own m = true ∧ ¬ ∃ q, stored ns name s = some q ∧ q.Recalls m := by
  obtain ⟨q, timeout, l, d, hq, hdeleting, hpass, hown⟩ := pass_of_releases h
  rw [hown] at ht
  obtain ⟨hs, hnot⟩ := not_recalls_of_stopped hdeleting hpass ht
  refine ⟨hs, ?_⟩
  rintro ⟨p, hp, hrecalls⟩
  cases hq.symm.trans hp
  exact hnot hrecalls

/-- If the others leave a mark alone that the quarantine does not recall, a release leaves it. -/
theorem own_after_release (h : Releases others ns name s t) (hm : Untouched others m)
    (hs : s.own m = true) (hnot : ¬ ∃ q, stored ns name s = some q ∧ q.Recalls m) :
    t.own m = true := by
  obtain ⟨q, timeout, l, d, hq, hdeleting, hpass, hown⟩ := pass_of_releases h
  rw [task, if_pos hdeleting] at hpass
  rw [hown]
  refine (Pass.lost_of_runs (steady_own hm) (Lifecycle.staysIn_stop _ _) ⟨rfl, rfl⟩ hpass
    hs).resolve_right ?_
  rintro ⟨hreached, -⟩
  exact hnot ⟨q, hq, recalls_iff_reached.2 hreached⟩

/-! ## Workloads -/

/-- A stop will come by a workload: a node of the request has it in its list, or in the list of all
nodes, or it is on record for a dropped node. -/
def Listed (q : Quarantine) (key : ResourceKey) : Prop :=
  (∃ n ∈ q.spec.nodes, ∃ r ∈ ResourceRef.merge n.resources q.spec.resources, r.key = key) ∨
    ∃ o ∈ q.observedNodes, (∀ n ∈ q.spec.nodes, n.name ≠ o.name) ∧ ∃ r ∈ o.resources, r.key = key

instance (q : Quarantine) (key : ResourceKey) : Decidable (Listed q key) :=
  inferInstanceAs (Decidable (_ ∨ _))

theorem recalls_tolerating_iff {q : Quarantine} {key : ResourceKey} :
    q.Recalls (.tolerating key) ↔ Listed q key := by
  unfold Quarantine.Recalls Listed
  simp only [Target.Reaches, ObservedNode.Reaches, Mark.BelongsTo, Target.resolve,
    Target.mem_resources_ofResources]

/-- The workloads that the controller has made tolerant are listed. -/
def WorkloadsListed (ns name : String) (s : Scene) : Prop :=
  ∀ key, s.own (.tolerating key) = true → ∃ q, stored ns name s = some q ∧ Listed q key

theorem workloadsListed_iff :
    WorkloadsListed ns name s ↔ ∀ key, Recalled ns name (.tolerating key) s := by
  unfold WorkloadsListed Recalled
  simp only [recalls_tolerating_iff]

/-- After a release no workload is left that the controller has made tolerant, exactly if all of
them were listed when it began, provided that the others leave tolerations alone meanwhile.  So it
is whenever no edit of the run takes a tolerant workload out of sight. -/
theorem tolerations_after_release (h₀ : Created ns name s₀) (hrun : Run others ns name s₀ ms s)
    (hrelease : Releases others ns name s t) :
    (∀ key, t.own (.tolerating key) = true →
      s.own (.tolerating key) = true ∧ ¬ ∃ q, stored ns name s = some q ∧ Listed q key) ∧
    ((∀ key, Untouched others (.tolerating key)) →
      ((∀ key, t.own (.tolerating key) = false) ↔ WorkloadsListed ns name s)) ∧
    ((∀ mv ∈ ms, mv.turn = .edited → WorkloadsListed ns name mv.after) →
      ∀ key, t.own (.tolerating key) = false) := by
  have hleft : ∀ key, t.own (.tolerating key) = true →
      s.own (.tolerating key) = true ∧ ¬ ∃ q, stored ns name s = some q ∧ Listed q key := by
    intro key ht
    simpa only [recalls_tolerating_iff] using own_of_releases hrelease ht
  have hclean : WorkloadsListed ns name s → ∀ key, t.own (.tolerating key) = false := by
    intro hlisted key
    cases ht : t.own (.tolerating key) with
    | false => rfl
    | true =>
      obtain ⟨hs, hnot⟩ := hleft key ht
      exact absurd (hlisted key hs) hnot
  -- What is not listed is left, so if nothing is left then everything was listed.
  refine ⟨hleft, fun hcalm => ⟨fun hgone key hs => ?_, hclean⟩, fun hedits => hclean ?_⟩
  · refine Classical.byContradiction fun hnot => ?_
    have ht := own_after_release hrelease (hcalm key) hs
      (by simpa only [recalls_tolerating_iff] using hnot)
    rw [hgone key] at ht
    cases ht
  · refine workloadsListed_iff.2 fun key => ?_
    refine (recalled_of_run (sound_of_created h₀) (recalled_of_created h₀ _) hrun ?_).1
    intro mv hmem hedited
    exact workloadsListed_iff.1 (hedits mv hmem hedited) key

namespace Sample

/-- A workload is tracked on an isolated node; then other nodes are asked for, and the quarantine is
deleted before it is reconciled. -/
def abandoned (nodes : List NodeSpec) : Scene :=
  deleted "ns" "m" (asked (reconciled (reconciled (start [ask "w1" true [workload]]))) nodes) "now"

theorem run_abandoned (nodes : List NodeSpec) (hnodes : (nodes.map (·.name)).Nodup)
    (hheld : (stored "ns" "m" (asked (reconciled (reconciled (start [ask "w1" true [workload]])))
      nodes)).any Quarantine.hasFinalizer = true) :
    ∃ ms, Run nobody "ns" "m" (start [ask "w1" true [workload]]) ms (abandoned nodes) :=
  ⟨_, (((Run.start.undisturbed timing).undisturbed timing).respecified (created (by decide))
    (by decide +kernel) hnodes).deleted (created (by decide)) hheld⟩

end Sample

open Sample in
/-- A workload of a node that is dropped is still found on record, and is tolerant no longer. -/
theorem tolerations_after_release_of_dropped :
    (abandoned []).own (.tolerating workload.key) = true ∧
      (reconciled (abandoned [])).own (.tolerating workload.key) = false := by
  obtain ⟨ms, hrun⟩ := run_abandoned [] (by decide) (by decide +kernel)
  have hrelease : Releases nobody "ns" "m" (abandoned []) (reconciled (abandoned [])) :=
    releases_undisturbed timing (by decide +kernel) (by decide +kernel)
  obtain ⟨hleft, -, -⟩ := tolerations_after_release (created (by decide)) hrun hrelease
  have hlisted : ∃ q, stored "ns" "m" (abandoned []) = some q ∧ Listed q workload.key := by
    obtain ⟨q, hq, hmem⟩ := (Option.any_eq_true (fun q => decide (Listed q workload.key)) _).1
      (by decide +kernel : (stored "ns" "m" (abandoned [])).any _ = true)
    exact ⟨q, hq, of_decide_eq_true hmem⟩
  refine ⟨by decide +kernel, ?_⟩
  cases ht : (reconciled (abandoned [])).own (.tolerating workload.key) with
  | false => rfl
  | true => exact absurd hlisted (hleft _ ht).2

open Sample in
/-- It is not so that no workload is left tolerant: one is left that has been taken out of the list
of a node which is still asked for. -/
theorem not_tolerations_after_release : ¬ ∀ s₀ ms s t, Created "ns" "m" s₀ →
    Run nobody "ns" "m" s₀ ms s → Releases nobody "ns" "m" s t →
    ∀ key, t.own (.tolerating key) = false := by
  intro h
  obtain ⟨ms, hrun⟩ := run_abandoned [ask "w1" true []] (by decide) (by decide +kernel)
  have hgone := h _ ms _ _ (created (by decide)) hrun
    (releases_undisturbed timing (by decide +kernel) (by decide +kernel)) workload.key
  have hleft : (reconciled (abandoned [ask "w1" true []])).own (.tolerating workload.key) =
      true := by decide +kernel
  cases hleft.symm.trans hgone

/-! ## Nodes -/

/-- A node is named by the request or on record. -/
def Known (q : Quarantine) (node : String) : Prop :=
  (∃ n ∈ q.spec.nodes, n.name = node) ∨ ∃ o ∈ q.observedNodes, o.name = node

instance (q : Quarantine) (node : String) : Decidable (Known q node) :=
  inferInstanceAs (Decidable (_ ∨ _))

theorem recalls_closed_iff {q : Quarantine} {node : String} :
    q.Recalls (.closed node) ↔ Known q node := by
  constructor
  · rintro (⟨n, hn, hname⟩ | ⟨o, ho, -, hname⟩)
    · exact .inl ⟨n, hn, hname⟩
    · exact .inr ⟨o, ho, hname⟩
  · rintro (⟨n, hn, hname⟩ | ⟨o, ho, hname⟩)
    · exact .inl ⟨n, hn, hname⟩
    · by_cases hnamed : ∃ n ∈ q.spec.nodes, n.name = node
      · obtain ⟨n, hn, hname⟩ := hnamed
        exact .inl ⟨n, hn, hname⟩
      · refine .inr ⟨o, ho, fun n hn heq => hnamed ⟨n, hn, heq.trans hname⟩, hname⟩

theorem recalls_tainted_iff {q : Quarantine} {node : String} :
    q.Recalls (.tainted node) ↔ Known q node := recalls_closed_iff

/-- The nodes that the controller has closed or tainted are known. -/
def NodesKnown (ns name : String) (s : Scene) : Prop :=
  ∀ node, s.own (.closed node) = true ∨ s.own (.tainted node) = true →
    ∃ q, stored ns name s = some q ∧ Known q node

/-- Only the nodes that there are have to be looked at. -/
theorem nodesKnown_iff_nodes : NodesKnown ns name s ↔ ∀ n ∈ s.cluster.nodes,
    s.own (.closed n.name) = true ∨ s.own (.tainted n.name) = true →
      (stored ns name s).any (fun q => decide (Known q n.name)) = true := by
  have hknown : ∀ node, (stored ns name s).any (fun q => decide (Known q node)) = true ↔
      ∃ q, stored ns name s = some q ∧ Known q node := by
    intro node
    rw [Option.any_eq_true]
    simp only [decide_eq_true_eq]
  constructor
  · intro h n _ hown
    exact (hknown n.name).2 (h n.name hown)
  · intro h node hown
    -- A mark of the controller's shows on the cluster, so the node is there.
    have hthere : ∃ n ∈ s.cluster.nodes, n.name = node := by
      have hfound : (s.cluster.findNode node).isSome = true := by
        rcases hown with hown | hown
        · exact Option.isSome_of_any (s.own_shows _ hown)
        · exact Option.isSome_of_any (s.own_shows _ hown)
      obtain ⟨n, hn⟩ := Option.isSome_iff_exists.1 hfound
      exact ⟨n, List.mem_of_find?_eq_some hn, ClusterState.name_of_findNode hn⟩
    obtain ⟨n, hn, rfl⟩ := hthere
    exact (hknown n.name).1 (h n hn hown)

instance : Decidable (NodesKnown ns name s) := decidable_of_iff' _ nodesKnown_iff_nodes

theorem nodesKnown_iff : NodesKnown ns name s ↔
    ∀ node, Recalled ns name (.closed node) s ∧ Recalled ns name (.tainted node) s := by
  unfold NodesKnown Recalled
  simp only [recalls_closed_iff, recalls_tainted_iff, or_imp]

/-- The nodes that the controller has closed or tainted are known at every moment of a run, exactly
if no edit makes one of them unknown.  After a release none of them is closed or tainted by the
controller any more, exactly if they were known when it began, provided that the others leave nodes
alone meanwhile. -/
theorem nodes_known_of_run (h₀ : Created ns name s₀) (hrun : Run others ns name s₀ ms s) :
    ((∀ mv ∈ ms, NodesKnown ns name mv.after) ↔
      ∀ mv ∈ ms, mv.turn = .edited → NodesKnown ns name mv.after) ∧
    ∀ t, Releases others ns name s t →
      (NodesKnown ns name s →
        ∀ node, t.own (.closed node) = false ∧ t.own (.tainted node) = false) ∧
      ((∀ node, Untouched others (.closed node) ∧ Untouched others (.tainted node)) →
        ((∀ node, t.own (.closed node) = false ∧ t.own (.tainted node) = false) ↔
          NodesKnown ns name s)) := by
  constructor
  · refine ⟨fun h mv hmem _ => h mv hmem, fun hedits mv hmem => nodesKnown_iff.2 fun node => ?_⟩
    have hall : ∀ m, (∀ mv ∈ ms, mv.turn = .edited → Recalled ns name m mv.after) →
        Recalled ns name m mv.after := fun m hm =>
      (recalled_of_run (sound_of_created h₀) (recalled_of_created h₀ m) hrun hm).2 mv hmem
    exact ⟨hall _ fun mv hmem hk => (nodesKnown_iff.1 (hedits mv hmem hk) node).1,
      hall _ fun mv hmem hk => (nodesKnown_iff.1 (hedits mv hmem hk) node).2⟩
  · intro t hrelease
    have hclean : ∀ {m}, Recalled ns name m s → t.own m = false := by
      intro m hm
      cases ht : t.own m with
      | false => rfl
      | true =>
        obtain ⟨hs, hnot⟩ := own_of_releases hrelease ht
        exact absurd (hm hs) hnot
    have hall : NodesKnown ns name s →
        ∀ node, t.own (.closed node) = false ∧ t.own (.tainted node) = false := fun hknown node =>
      ⟨hclean (nodesKnown_iff.1 hknown node).1, hclean (nodesKnown_iff.1 hknown node).2⟩
    refine ⟨hall, fun hcalm => ⟨fun hgone => nodesKnown_iff.2 fun node => ?_, hall⟩⟩
    -- A mark that is not recalled is left by the stop, so a mark that is gone was recalled.
    have hrecalled : ∀ {m}, Untouched others m → t.own m = false → Recalled ns name m s := by
      intro m hm hgone hs
      refine Classical.byContradiction fun hnot => ?_
      rw [own_after_release hrelease hm hs hnot] at hgone
      cases hgone
    exact ⟨hrecalled (hcalm node).1 (hgone node).1, hrecalled (hcalm node).2 (hgone node).2⟩

open Sample in
/-- A node that is dropped is known from its record, and is open and untainted after the release. -/
theorem nodes_known_of_dropped : NodesKnown "ns" "m" (abandoned []) ∧
    ∀ node, (reconciled (abandoned [])).own (.closed node) = false ∧
      (reconciled (abandoned [])).own (.tainted node) = false := by
  obtain ⟨ms, hrun⟩ := run_abandoned [] (by decide) (by decide +kernel)
  have hrelease : Releases nobody "ns" "m" (abandoned []) (reconciled (abandoned [])) :=
    releases_undisturbed timing (by decide +kernel) (by decide +kernel)
  have hknown : NodesKnown "ns" "m" (abandoned []) := by decide +kernel
  obtain ⟨-, hclean⟩ := nodes_known_of_run (created (by decide)) hrun
  exact ⟨hknown, (hclean _ hrelease).1 hknown⟩

namespace Sample

/-- A node is closed by a pass that fails for want of a workload, and is then dropped. -/
def forgotten : Scene := asked (reconciled (reconciled (start [ask "w1" false [missing]]))) []

theorem run_forgotten :
    ∃ ms, Run nobody "ns" "m" (start [ask "w1" false [missing]]) ms forgotten :=
  ⟨_, ((Run.start.undisturbed timing).undisturbed timing).respecified (created (by decide))
    (by decide +kernel) (by decide)⟩

theorem run_forgotten_deleted : ∃ ms, Run nobody "ns" "m" (start [ask "w1" false [missing]]) ms
    (deleted "ns" "m" (reconciled forgotten) "now") := by
  obtain ⟨ms, hrun⟩ := run_forgotten
  exact ⟨_, (hrun.undisturbed timing).deleted (created (by decide)) (by decide +kernel)⟩

end Sample

open Sample in
/-- It is not so that nodes stay known, nor that none is left closed: one is both unknown and left
closed that was closed by a pass which failed before it was recorded. -/
theorem not_nodes_known_of_run :
    (¬ ∀ s₀ ms s, Created "ns" "m" s₀ → Run nobody "ns" "m" s₀ ms s →
      NodesKnown "ns" "m" s) ∧
    ¬ ∀ s₀ ms s t, Created "ns" "m" s₀ → Run nobody "ns" "m" s₀ ms s →
      Releases nobody "ns" "m" s t → ∀ node, t.own (.closed node) = false := by
  constructor
  · intro h
    obtain ⟨ms, hrun⟩ := run_forgotten
    have hunknown : ¬ NodesKnown "ns" "m" forgotten := by decide +kernel
    exact hunknown (h _ ms _ (created (by decide)) hrun)
  · intro h
    obtain ⟨ms, hrun⟩ := run_forgotten_deleted
    have hopen := h _ ms _ _ (created (by decide)) hrun
      (releases_undisturbed timing (by decide +kernel) (by decide +kernel)) "w1"
    have hclosed : (reconciled (deleted "ns" "m" (reconciled forgotten) "now")).own
        (.closed "w1") = true := by decide +kernel
    cases hclosed.symm.trans hopen

end Cordon.Controller
