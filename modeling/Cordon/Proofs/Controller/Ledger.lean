import Cordon.Proofs.Controller.History
import Cordon.Proofs.Controller.Teardown
import Cordon.Proofs.Lifecycle.Remains

/-! # Records that are kept

The records in a status say which nodes are still to be given up.  A reconcile drops the record of a
node only if each step that gives the node up has succeeded, and it puts the others in order: first
those of the nodes of the request, as the request names them, and behind these those of dropped
nodes that are not given up yet (`Arranged`).

`records_kept` says so of histories in which anything else may be asked for at any time and any call
may fail.  What is taken from a node is what is tracked of it then.  For a dropped node this is what
its record says, but for a node of the request it is what the request says, so of such a node a
workload on record may be missed.
-/

namespace Cordon.Controller

open Lifecycle (new settle stop prepare start update GivenUp Aftermath Concerns Reopens
  aftermath_of_settle aftermath_of_stop mem_nodes_new mem_marked_new mem_of_get?_records_new
  get?_records_new apart_new ne_of_mem_marked_new names_new reopens_append reopens_of_givenUp
  sublist_names)

variable {timing : Timing} {ns name : String} {s s₀ : Shelf} {q p : Quarantine} {l : Lifecycle}
  {h during behind : Dialogue Effects} {timeout : Nat} {c : Chapter} {cs : List Chapter}
  {o : ObservedNode}

/-! ## What a pass leaves of a quarantine -/

/-- What a pass over a quarantine leaves of the records. -/
def Tallies (q : Quarantine) (timeout : Nat) (h : Dialogue Effects) (l : Lifecycle)
    (gone : List Target) : Prop :=
  ∃ us ns, Aftermath us (new q timeout) h l gone ns ∧
    (us = (new q timeout).marked ∨
      q.isDeleting = true ∧ us = (new q timeout).nodes ++ (new q timeout).marked)

theorem tallies_of_task {r : Except ControllerError Unit}
    (hs : (task q).Says (new q timeout) h r l) : ∃ gone, Tallies q timeout h l gone := by
  unfold task at hs
  split at hs
  · next hdeleting =>
    obtain ⟨gone, hl⟩ := aftermath_of_stop hs
    exact ⟨gone, _, _, hl, .inr ⟨hdeleting, rfl⟩⟩
  · obtain ⟨gone, ns, hl⟩ := aftermath_of_settle hs
    exact ⟨gone, _, _, hl, .inl rfl⟩

theorem get?_records_new_ne_none (ho : o ∈ q.observedNodes) :
    (new q timeout).records.get? o.name ≠ none := by
  refine Dict.get?_foldl_insert_ne_none (.inr ?_)
  rw [List.map_map]
  exact List.mem_map.2 ⟨o, ho, rfl⟩

namespace Tallies

variable {gone : List Target} (hl : Tallies q timeout h l gone)

include hl

theorem named (key : String) (o : ObservedNode) (ho : l.records.get? key = some o) :
    o.name = key := by
  obtain ⟨us, ns, hl, -⟩ := hl
  exact hl.named (fun _ _ h => (mem_of_get?_records_new h).2) key o ho

theorem mem_of_gone {u : Target} (hu : u ∈ gone) : (q.isDeleting = true ∧
    u ∈ (new q timeout).nodes ∨ u ∈ (new q timeout).marked) ∧ GivenUp u h := by
  obtain ⟨us, ns, hl, rfl | ⟨hdeleting, rfl⟩⟩ := hl
  · exact ⟨.inr (hl.first.subset hu), hl.givenUp u hu⟩
  · refine ⟨(List.mem_append.1 (hl.first.subset hu)).imp_left fun hu => ⟨hdeleting, hu⟩, ?_⟩
    exact hl.givenUp u hu

/-- A record that was loaded is either left, and then kept, or its node has been given up. -/
theorem kept_or_gone (ho : o ∈ q.observedNodes) :
    (∃ o' ∈ l.observedNodes, o'.name = o.name) ∨ ∃ u ∈ gone, u.name = o.name := by
  have hnamed := hl.named
  obtain ⟨us, ns, hl, -⟩ := hl
  cases hget : l.records.get? o.name with
  | none => exact .inr (hl.mem_gone (get?_records_new_ne_none ho) hget)
  | some o' =>
    refine .inl ⟨o', ?_, hnamed _ _ hget⟩
    by_cases hnode : ∃ n ∈ q.spec.nodes, n.name = o.name
    · obtain ⟨n, hn, hname⟩ := hnode
      refine List.mem_append_left _ (List.mem_filterMap.2 ⟨.resolve n q.spec, ?_, ?_⟩)
      · rw [hl.nodes]
        exact mem_nodes_new.2 ⟨n, hn, rfl⟩
      · rw [← hget, ← hname]
        rfl
    · refine List.mem_append_right _ (List.mem_filterMap.2 ⟨.ofObserved o q.spec, ?_, hget⟩)
      rw [hl.marked]
      exact mem_marked_new.2 ⟨o, ho, fun n hn heq => hnode ⟨n, hn, heq⟩, rfl⟩

end Tallies

/-- What is asked of the store or of the clock is of no account. -/
theorem Tallies.around {gone : List Target} (hl : Tallies q timeout h l gone)
    (before after : Dialogue Effects) (hbefore : ∀ e ∈ before, e.1.onCluster = false)
    (hafter : ∀ e ∈ after, e.1.onCluster = false) :
    Tallies q timeout (before ++ h ++ after) l gone := by
  have hsilent : ∀ {k : Dialogue Effects} {node : String}, (∀ e ∈ k, e.1.onCluster = false) →
      ¬ Reopens node k := by
    rintro k node hk ⟨answer, hmem, -⟩
    cases hk _ hmem
  obtain ⟨us, ns, hl, hus⟩ := hl
  refine ⟨us, ns, ⟨hl.nodes, hl.marked, hl.records, hl.recorded, hl.first, fun u hu => ?_,
    fun node hopens => ?_⟩, hus⟩
  · exact (hl.givenUp u hu).within ⟨before, after, rfl⟩
  · rcases reopens_append.1 hopens with hopens | hopens
    · rcases reopens_append.1 hopens with hopens | hopens
      · exact (hsilent hbefore hopens).elim
      · exact hl.reopened node hopens
    · exact (hsilent hafter hopens).elim

/-! ## The order of the records -/

/-- The records of nodes that the request no longer names. -/
def dropped (q : Quarantine) : List ObservedNode :=
  q.observedNodes.filter fun o => decide (∀ n ∈ q.spec.nodes, n.name ≠ o.name)

theorem mem_dropped :
    o ∈ dropped q ↔ o ∈ q.observedNodes ∧ ∀ n ∈ q.spec.nodes, n.name ≠ o.name := by
  rw [dropped, List.mem_filter, decide_eq_true_iff]

theorem marked_new :
    (new q timeout).marked = (dropped q).map fun o => .ofObserved o q.spec := by
  refine congrArg (List.map _) (List.filter_congr fun o _ => ?_)
  rw [Bool.eq_iff_iff]
  simp [Target.resolve, Target.ofResources]

/-- Records are in order: those of nodes of the request as it names them, and behind them those of
dropped nodes that have not been given up in a dialogue. -/
structure Arranged (q : Quarantine) (h : Dialogue Effects)
    (requested awaiting : List ObservedNode) : Prop where
  asRequested : (requested.map (·.name)).Sublist (q.spec.nodes.map (·.name))
  asRecorded : awaiting.Sublist q.observedNodes
  mem_awaiting : ∀ o, o ∈ awaiting ↔ o ∈ q.observedNodes ∧
    (∀ n ∈ q.spec.nodes, n.name ≠ o.name) ∧ ¬ GivenUp (.ofObserved o q.spec) h

/-- Records in order are told apart by name. -/
theorem Arranged.nodup {requested awaiting : List ObservedNode}
    (ha : Arranged q h requested awaiting) (hnodes : (q.spec.nodes.map (·.name)).Nodup)
    (hrecords : (q.observedNodes.map (·.name)).Nodup) :
    ((requested ++ awaiting).map (·.name)).Nodup := by
  rw [List.map_append, List.nodup_append]
  refine ⟨hnodes.sublist ha.asRequested, hrecords.sublist (ha.asRecorded.map _), ?_⟩
  intro a hfirst b hlast hab
  obtain ⟨n, hn, hname⟩ := List.mem_map.1 (ha.asRequested.subset hfirst)
  obtain ⟨o, ho, rfl⟩ := List.mem_map.1 hlast
  exact ((ha.mem_awaiting o).1 ho).2.1 n hn (hname.trans hab)

namespace Tallies

variable {gone : List Target} {u : Target} (hl : Tallies q timeout h l gone)

include hl

/-- The record of a dropped node is dropped as well, or stays as it is. -/
theorem get?_of_marked (hu : u ∈ (new q timeout).marked) : l.records.get? u.name =
    if u.name ∈ gone.map (·.name) then none else (new q timeout).records.get? u.name := by
  obtain ⟨us, ns, hl, -⟩ := hl
  exact hl.get?_records fun n hn => (ne_of_mem_marked_new hu (hl.recorded n hn)).symm

/-- Of the dropped nodes, those are given up whose record is dropped. -/
theorem givenUp_iff (hq : q.Proper) (hu : u ∈ (new q timeout).marked) :
    GivenUp u h ↔ u.name ∈ gone.map (·.name) := by
  have hgone := fun v hv => hl.mem_of_gone (u := v) hv
  obtain ⟨us, ns, hl, -⟩ := hl
  constructor
  · intro hgiven
    exact List.mem_map.2 (hl.reopened u.name (reopens_of_givenUp hgiven))
  · intro hmem
    obtain ⟨v, hv, hname⟩ := List.mem_map.1 hmem
    obtain ⟨hnode | hmarked, hgiven⟩ := hgone v hv
    · exact absurd hname.symm (ne_of_mem_marked_new hu hnode.2)
    · cases List.inj_on_of_nodup_map (apart_new hq).nodup hmarked hu hname
      exact hgiven

/-- The records of dropped nodes that are left are those that were there, in their order. -/
theorem awaiting_eq (hq : q.Proper) : (l.marked.filterMap fun u => l.records.get? u.name) =
    (dropped q).filter fun o => decide (o.name ∉ gone.map (·.name)) := by
  have hmarked : l.marked = (new q timeout).marked := by
    obtain ⟨us, ns, hl, -⟩ := hl
    exact hl.marked
  have hget : ∀ o ∈ dropped q, l.records.get? o.name =
      Option.guard (fun o => decide (o.name ∉ gone.map (·.name))) o := by
    intro o ho
    have hmem : Target.ofObserved o q.spec ∈ (new q timeout).marked := by
      rw [marked_new]
      exact List.mem_map_of_mem ho
    have hkept : l.records.get? o.name = if o.name ∈ gone.map (·.name) then none
        else (new q timeout).records.get? o.name := hl.get?_of_marked hmem
    have hloaded : (new q timeout).records.get? o.name = some o :=
      (get?_records_new hq).2 ⟨(mem_dropped.1 ho).1, rfl⟩
    rw [hkept]
    by_cases hname : o.name ∈ gone.map (·.name)
    · rw [if_pos hname, Option.guard, decide_eq_false (not_not_intro hname)]
      rfl
    · rw [if_neg hname, Option.guard, decide_eq_true hname]
      exact hloaded
  rw [hmarked, marked_new, List.filterMap_map]
  exact (List.filterMap_congr hget).trans (congrFun List.filterMap_eq_filter _)

/-- A pass leaves the records in order. -/
theorem arranged (hq : q.Proper) : ∃ requested awaiting, l.observedNodes = requested ++ awaiting ∧
    Arranged q h requested awaiting := by
  refine ⟨_, _, rfl, ?_, ?_, fun o => ?_⟩
  · have hnodes : l.nodes = (new q timeout).nodes := by
      obtain ⟨us, ns, hl, -⟩ := hl
      exact hl.nodes
    have hnames : l.nodes.map (·.name) = q.spec.nodes.map (·.name) := hnodes ▸ names_new
    rw [← hnames]
    exact sublist_names fun n _ o ho => hl.named n.name o ho
  · rw [hl.awaiting_eq hq]
    exact List.filter_sublist.trans List.filter_sublist
  · rw [hl.awaiting_eq hq, List.mem_filter, decide_eq_true_iff, mem_dropped, and_assoc]
    refine and_congr_right fun ho => and_congr_right fun hdropped => not_congr ?_
    exact (hl.givenUp_iff hq (mem_marked_new.2 ⟨o, ho, hdropped, rfl⟩)).symm

end Tallies

/-! ## Chapters -/

/-- The record of a node is there before a chapter, and none of this node is there after it. -/
def Chapter.Loses (key : String) (c : Chapter) (o : ObservedNode) : Prop :=
  ∃ q p, c.before.lookup key = some q ∧ c.after.lookup key = some p ∧ o ∈ q.observedNodes ∧
    ∀ o' ∈ p.observedNodes, o'.name ≠ o.name

theorem observedNodes_congr (h : p.status = q.status) : p.observedNodes = q.observedNodes := by
  rw [Quarantine.observedNodes, h]
  rfl

theorem observedNodes_written {status : ConditionStatus} {reason message now : String}
    (h : p.status = some (written q l.observedNodes status reason message now)) :
    p.observedNodes = l.observedNodes := by
  rw [Quarantine.observedNodes, h]
  rfl

/-- Where a record comes from after a chapter: the records are those from before it, or those that
the pass over the copy that was loaded has left. -/
theorem records_of_takes (hs : c.before.Distinct) (h : c.Takes ns name)
    (hp : c.after.lookup (ns ++ "/" ++ name) = some p) :
    ∃ q₀, c.before.lookup (ns ++ "/" ++ name) = some q₀ ∧
      (p.observedNodes = q₀.observedNodes ∨ ∃ q l gone, loaded c.dialogue = some q ∧
        q.hasFinalizer = true ∧ q.observedNodes = q₀.observedNodes ∧
        p.observedNodes = l.observedNodes ∧
        Tallies q c.timing.nodeTimeout c.dialogue l gone) := by
  obtain ⟨q₀, hq₀, hsame | ⟨q, during, l, status, reason, message, now, answer, hstatus, hreports,
    hwritten⟩⟩ := (status_of_takes hs h).2 p hp
  · exact ⟨q₀, hq₀, .inl (observedNodes_congr hsame)⟩
  · obtain ⟨r, htask⟩ := hreports.verdict.task
    obtain ⟨gone, htallies⟩ := tallies_of_task htask
    refine ⟨q₀, hq₀, .inr ⟨q, l, gone, ?_, hreports.held, observedNodes_congr hstatus,
      observedNodes_written hwritten, ?_⟩⟩
    · rw [hreports.dialogue]
      rfl
    · rw [hreports.dialogue]
      exact htallies.around [_] _ (List.forall_mem_singleton.2 rfl)
        (by simp [writing, Effects.Request.onCluster])

theorem chronicle_of_mem (hrun : Chronicle ns name s₀ cs s) (hc : c ∈ cs) :
    c.Takes ns name ∧ ∃ cs', (∀ d ∈ cs', d ∈ cs) ∧ Chronicle ns name s₀ cs' c.before := by
  induction hrun with
  | start => cases hc
  | edited _ _ ih => exact ih hc
  | reconciled hrun htakes ih =>
    rcases List.mem_cons.1 hc with rfl | hc
    · exact ⟨htakes, _, fun d hd => List.mem_cons_of_mem _ hd, hrun⟩
    · obtain ⟨htakes, cs', hsub, hrun⟩ := ih hc
      exact ⟨htakes, cs', fun d hd => List.mem_cons_of_mem _ (hsub d hd), hrun⟩

/-- A workload is found by its key. -/
theorem removeToleration_congr {r r' : ResourceRef} (h : r'.key = r.key) :
    Isolation.removeToleration r' = Isolation.removeToleration r := by
  obtain ⟨_, _, _, _⟩ := r
  obtain ⟨_, _, _, _⟩ := r'
  cases h
  refine bind_congr fun found => ?_
  cases found with
  | none => rfl
  | some w => rfl

/-- A record is dropped only if its node has been given up. -/
theorem givenUp_of_loses (hs : c.before.Distinct) (htakes : c.Takes ns name)
    (hloses : c.Loses (ns ++ "/" ++ name) o) : ∃ q u, loaded c.dialogue = some q ∧
      q.hasFinalizer = true ∧ o ∈ q.observedNodes ∧
      (∃ q₀, c.before.lookup (ns ++ "/" ++ name) = some q₀ ∧
        q.observedNodes = q₀.observedNodes) ∧
      (q.isDeleting = true ∧ u ∈ (new q c.timing.nodeTimeout).nodes ∨
        u ∈ (new q c.timing.nodeTimeout).marked) ∧
      u.name = o.name ∧ GivenUp u c.dialogue := by
  obtain ⟨q₀, p, hq₀, hp, ho, hlost⟩ := hloses
  obtain ⟨q₀', hq₀', hrecords⟩ := records_of_takes hs htakes hp
  cases hq₀.symm.trans hq₀'
  rcases hrecords with hsame | ⟨q, l, gone, hloaded, hheld, hbefore, hafter, hl⟩
  · rw [hsame] at hlost
    exact absurd rfl (hlost o ho)
  · rw [← hbefore] at ho
    rcases hl.kept_or_gone ho with ⟨o', hkept, hname⟩ | ⟨u, hu, hname⟩
    · rw [← hafter] at hkept
      exact absurd hname (hlost o' hkept)
    · obtain ⟨hnode, hgiven⟩ := hl.mem_of_gone hu
      exact ⟨q, u, hloaded, hheld, ho, ⟨q₀, hq₀, hbefore⟩, hnode, hname, hgiven⟩

/-! ## Histories -/

/-- Records are told apart by name, and are in order: there are none, or a reconcile has put them in
order. -/
structure InOrder (cs : List Chapter) (records : List ObservedNode) : Prop where
  nodup : (records.map (·.name)).Nodup
  arranged : records = [] ∨ ∃ c ∈ cs, ∃ q requested awaiting, loaded c.dialogue = some q ∧
    records = requested ++ awaiting ∧ Arranged q c.dialogue requested awaiting

theorem InOrder.mono {cs' : List Chapter} {records : List ObservedNode} (h : InOrder cs records)
    (hsub : ∀ c ∈ cs, c ∈ cs') : InOrder cs' records :=
  ⟨h.nodup, h.arranged.imp_right fun ⟨c, hc, hrest⟩ => ⟨c, hsub c hc, hrest⟩⟩

theorem inOrder_of_chronicle (hs₀ : s₀.Distinct)
    (hfresh : ∀ p, s₀.lookup (ns ++ "/" ++ name) = some p → p.observedNodes = [])
    (hrun : Chronicle ns name s₀ cs s)
    (hnames : ∀ c ∈ cs, ∀ q, loaded c.dialogue = some q → (q.spec.nodes.map (·.name)).Nodup) :
    ∀ p, s.lookup (ns ++ "/" ++ name) = some p → InOrder cs p.observedNodes := by
  induction hrun with
  | start =>
    intro p hp
    rw [hfresh p hp]
    exact ⟨List.nodup_nil, .inl rfl⟩
  | edited _ hedit ih =>
    intro p hp
    obtain ⟨q, hq, hstatus⟩ := hedit.status p hp
    rw [observedNodes_congr hstatus]
    exact ih hnames q hq
  | @reconciled cs c hrun htakes ih =>
    intro p hp
    have hbefore := ih fun d hd => hnames d (List.mem_cons_of_mem _ hd)
    obtain ⟨q₀, hq₀, hsame | ⟨q, l, gone, hloaded, hheld, hloads, hafter, hl⟩⟩ :=
      records_of_takes (distinct_of_chronicle hs₀ hrun) htakes hp
    · rw [hsame]
      exact (hbefore q₀ hq₀).mono fun d hd => List.mem_cons_of_mem _ hd
    · have hnodes := hnames c (by simp) q hloaded
      -- The pass begins with the records of the chapters before, which are told apart by name.
      have hrecords : (q.observedNodes.map (·.name)).Nodup := hloads ▸ (hbefore q₀ hq₀).nodup
      obtain ⟨requested, awaiting, heq, ha⟩ := hl.arranged ⟨hnodes, hrecords, .inl hheld⟩
      rw [hafter, heq]
      exact ⟨ha.nodup hnodes hrecords, .inr ⟨c, by simp, q, requested, awaiting, hloaded, rfl, ha⟩⟩

/-- A record is lost only if each step that gives the node up has succeeded.  If the request never
names a node twice then no two records are of one node, and records are in order; and each workload
on record has been gone through as well, unless the request is deleted and still names the node,
without the workload. -/
theorem records_kept (hs₀ : s₀.Distinct) (hrun : Chronicle ns name s₀ cs s) :
    (∀ c ∈ cs, ∀ o, c.Loses (ns ++ "/" ++ name) o → ∃ q u, loaded c.dialogue = some q ∧
      (q.isDeleting = true ∧ u ∈ (new q c.timing.nodeTimeout).nodes ∨
        u ∈ (new q c.timing.nodeTimeout).marked) ∧
      u.name = o.name ∧ GivenUp u c.dialogue) ∧
    ((∀ p, s₀.lookup (ns ++ "/" ++ name) = some p → p.observedNodes = []) →
      (∀ c ∈ cs, ∀ q, loaded c.dialogue = some q → (q.spec.nodes.map (·.name)).Nodup) →
      (∀ p, s.lookup (ns ++ "/" ++ name) = some p → InOrder cs p.observedNodes) ∧
      ∀ c ∈ cs, ∀ o, c.Loses (ns ++ "/" ++ name) o → ∀ r ∈ o.resources,
        Pass.DoneIn (Lifecycle.stepInTurn "remove tolerations for" o.name
          (Isolation.removeToleration r)) c.dialogue ∨
        ∃ q, loaded c.dialogue = some q ∧ q.isDeleting = true ∧
          ∃ n ∈ q.spec.nodes, n.name = o.name ∧
            ∀ r' ∈ (Target.resolve n q.spec).resources, r'.key ≠ r.key) := by
  constructor
  · intro c hc o hloses
    obtain ⟨htakes, cs', -, hbefore⟩ := chronicle_of_mem hrun hc
    obtain ⟨q, u, hloaded, -, -, -, hu⟩ :=
      givenUp_of_loses (distinct_of_chronicle hs₀ hbefore) htakes hloses
    exact ⟨q, u, hloaded, hu⟩
  · intro hfresh hnames
    refine ⟨inOrder_of_chronicle hs₀ hfresh hrun hnames, fun c hc o hloses r hr => ?_⟩
    obtain ⟨htakes, cs', hsub, hbefore⟩ := chronicle_of_mem hrun hc
    obtain ⟨q, u, hloaded, hheld, ho, ⟨q₀, hq₀, hloads⟩, hnode, hname, hgiven⟩ :=
      givenUp_of_loses (distinct_of_chronicle hs₀ hbefore) htakes hloses
    -- A node that is still asked for is given up with the workloads the request lists now, a marked
    -- one with those on record.
    rcases hnode with ⟨hdeleting, hnode⟩ | hmarked
    · obtain ⟨n, hn, rfl⟩ := mem_nodes_new.1 hnode
      by_cases htracked : ∃ r' ∈ (Target.resolve n q.spec).resources, r'.key = r.key
      · obtain ⟨r', hr', hkey⟩ := htracked
        have hdone := hgiven.stripped r' hr'
        rw [hname, removeToleration_congr hkey] at hdone
        exact .inl hdone
      · exact .inr ⟨q, hloaded, hdeleting, n, hn, hname,
          fun r' hr' hkey => htracked ⟨r', hr', hkey⟩⟩
    · obtain ⟨o', ho', -, rfl⟩ := mem_marked_new.1 hmarked
      have hrecords : (q.observedNodes.map (·.name)).Nodup := by
        rw [hloads]
        exact (inOrder_of_chronicle hs₀ hfresh hbefore (fun d hd => hnames d (hsub d hd))
          q₀ hq₀).nodup
      cases List.inj_on_of_nodup_map hrecords ho' ho hname
      exact .inl (hgiven.stripped r (Target.mem_resources_ofResources.2 hr))

theorem asked_of_removeToleration {label node : String} {r : ResourceRef}
    (hd : Pass.DoneIn (Lifecycle.stepInTurn label node (Isolation.removeToleration r)) h) :
    ∃ e ∈ h, e.1 = .cluster (.call (.getWorkload r.key)) :=
  Pass.asked_of_doneIn rfl hd

/-- To be lost, a record has to be the only one before a chapter, with none after it. -/
theorem loses_of_lookup {key : String}
    (hbefore : (c.before.lookup key).map (·.observedNodes) = some [o])
    (hafter : (c.after.lookup key).map (·.observedNodes) = some []) : c.Loses key o := by
  obtain ⟨q, hq, hone⟩ := Option.map_eq_some_iff.1 hbefore
  obtain ⟨p, hp, hnone⟩ := Option.map_eq_some_iff.1 hafter
  exact ⟨q, p, hq, hp, by simp [hone], by simp [hnone]⟩

namespace Sample

/-- Nothing fails. -/
def calm : ClusterCall → Bool := fun _ => false

/-- The query for marked pods on all nodes fails. -/
def sweepFails : ClusterCall → Bool
  | .listPods filter => filter.nodeName.isNone
  | _ => false

/-- The scene after a reconcile in which some calls fail. -/
def passed (fails : ClusterCall → Bool) (s : Scene) : Scene :=
  ((reconcile Sample.timing (some "ns") "m").run.run (Scene.failing fails) s).2

/-- A chapter of the sample quarantine. -/
def chapter (fails : ClusterCall → Bool) (s : Scene) : Chapter :=
  .failing fails Sample.timing "ns" "m" s

/-- An isolated node that tracks a workload. -/
def begun : Scene := start [ask "w1" true [workload]]

def inPlace : Scene := passed calm (passed calm begun)

/-- The record of the node. -/
def onRecord : ObservedNode := ⟨"w1", true, [workload]⟩

/-- The reconciles that put the quarantine in place and one after that, the last one first. -/
def story (fails : ClusterCall → Bool) (s : Scene) : List Chapter :=
  [chapter fails s, chapter calm (passed calm begun), chapter calm begun]

theorem chronicle_story (fails : ClusterCall → Bool) {s : Scene}
    (hedit : Shelf.Spares "ns/m" inPlace.shelf s.shelf) :
    Chronicle "ns" "m" begun.shelf (story fails s) (passed fails s).shelf :=
  .reconciled (.edited (.reconciled (.reconciled .start (takes_failing _ _ _ _ _))
    (takes_failing _ _ _ _ _)) hedit) (takes_failing _ _ _ _ _)

/-- The node is dropped. -/
def emptied : Scene := asked inPlace []

/-- The workload is taken out of the list of the node, and the quarantine is deleted. -/
def relieved : Scene := deleted "ns" "m" (asked inPlace [ask "w1" true []]) "now"

end Sample

open Sample in
/-- The record of a node that is dropped is lost in the reconcile that gives the node up. -/
theorem records_kept_of_emptied :
    (chapter calm emptied).Loses "ns/m" onRecord ∧
    (∃ u, u.name = "w1" ∧ GivenUp u (chapter calm emptied).dialogue) ∧
    Pass.DoneIn (Lifecycle.stepInTurn "remove tolerations for" "w1"
      (Isolation.removeToleration workload)) (chapter calm emptied).dialogue := by
  have hloses : (chapter calm emptied).Loses "ns/m" onRecord :=
    loses_of_lookup (by decide +kernel) (by decide +kernel)
  have hrun : Chronicle "ns" "m" begun.shelf (story calm emptied) (passed calm emptied).shelf :=
    chronicle_story calm (Shelf.spares_respecify _ _)
  obtain ⟨hgiven, hnamed⟩ := records_kept (created (by decide)).distinct hrun
  obtain ⟨-, hstripped⟩ := hnamed (by decide +kernel)
    (by decide +kernel : ∀ c ∈ story calm emptied, ∀ q ∈ loaded c.dialogue,
      (q.spec.nodes.map (·.name)).Nodup)
  obtain ⟨q, u, -, -, hname, hu⟩ := hgiven _ (by simp [story]) _ hloses
  refine ⟨hloses, ⟨u, hname, hu⟩, ?_⟩
  rcases hstripped _ (by simp [story]) _ hloses workload (by simp [onRecord]) with
    hdone | ⟨q, hloaded, -, n, hn, -⟩
  · exact hdone
  · have hempty : ∀ q ∈ loaded (chapter calm emptied).dialogue, q.spec.nodes = [] := by
      decide +kernel
    rw [hempty q hloaded] at hn
    cases hn

open Sample in
/-- It is not so that all workloads on record are gone through: one is not that has been taken out
of the list of a node which is still asked for. -/
theorem not_records_kept : ¬ ∀ s₀ cs s, s₀.Distinct →
    (∀ p, s₀.lookup "ns/m" = some p → p.observedNodes = []) → Chronicle "ns" "m" s₀ cs s →
    (∀ c ∈ cs, ∀ q, loaded c.dialogue = some q → (q.spec.nodes.map (·.name)).Nodup) →
    ∀ c ∈ cs, ∀ o, c.Loses "ns/m" o → ∀ r ∈ o.resources,
      Pass.DoneIn (Lifecycle.stepInTurn "remove tolerations for" o.name
        (Isolation.removeToleration r)) c.dialogue := by
  intro hall
  have hrun : Chronicle "ns" "m" begun.shelf (story sweepFails relieved)
      (passed sweepFails relieved).shelf :=
    chronicle_story _ ((Shelf.spares_respecify _ _).trans
      (Shelf.spares_delete (show List.Nodup _ by decide +kernel) _ _))
  have hdone := hall _ _ _ (created (by decide)).distinct (by decide +kernel) hrun
    (by decide +kernel : ∀ c ∈ story sweepFails relieved, ∀ q ∈ loaded c.dialogue,
      (q.spec.nodes.map (·.name)).Nodup) _ (by simp [story]) onRecord
    (loses_of_lookup (c := chapter sweepFails relieved) (by decide +kernel) (by decide +kernel))
    workload (by simp [onRecord])
  obtain ⟨e, he, hasked⟩ := asked_of_removeToleration hdone
  have hnever : ∀ e ∈ (chapter sweepFails relieved).dialogue,
      e.1 ≠ .cluster (.call (.getWorkload workload.key)) := by decide +kernel
  exact hnever e he hasked

end Cordon.Controller
