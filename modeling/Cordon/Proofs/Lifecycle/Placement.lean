import Cordon.Proofs.Drain.Removals
import Cordon.Proofs.Lifecycle.Conduct

/-! # Bringing nodes into place

What a pass has done once it has returned, on a cluster whose calls act as documented, fails or
refuses removals as it may.  Nodes are prepared one after the other (`Readied`) and then emptied
one after the other (`Vacated`).  Both relations are put together node by node: a pod or workload
that two nodes have in common is marked or made tolerant once, and what is taken from one node
leaves the pods on all others alone.
-/

namespace Cordon

open Kube (Node Pod)

/-! ## Passes that return -/

namespace Pass

open Lifecycle (step stepInTurn)

variable {α β : Type} {p : Pass α} {f : α → Pass β} {l l' k : Lifecycle} {s t : Site} {a : α}
  {b : β}

/-- A pass returns, and leaves the lifecycle and the site like this. -/
def Attains (p : Pass α) (l : Lifecycle) (s : Site) (a : α) (l' : Lifecycle) (t : Site) : Prop :=
  (p.run.run l).Attains Site.Replies s (.ok a, l') t

theorem attains_pure {b : α} (h : (pure a : Pass α).Attains l s b l' t) : b = a ∧ t = s := by
  obtain ⟨hr, rfl⟩ := Program.attains_done.1 h
  cases hr
  exact ⟨rfl, rfl⟩

theorem attains_modify {g : Lifecycle → Lifecycle}
    (h : (modify g : Pass PUnit).Attains l s ⟨⟩ l' t) : t = s :=
  (Program.attains_done.1 h).2

theorem attains_bind (h : (p >>= f).Attains l s b l' t) :
    ∃ a k m, p.Attains l s a k m ∧ (f a).Attains k m b l' t := by
  unfold Attains at h
  rw [run_bind] at h
  obtain ⟨⟨r, k⟩, m, hp, hf⟩ := Program.attains_andThen.1 h
  cases r with
  | ok a => exact ⟨a, k, m, hp, hf⟩
  | error e => cases (Program.attains_done.1 hf).1

theorem attains_get {f : Lifecycle → Pass β} :
    (get >>= f).Attains l s b l' t ↔ (f l).Attains l s b l' t := Iff.rfl

theorem eq_of_gives (hp : p.Gives l k) (h : p.Attains l s a l' t) : l' = k := by
  obtain ⟨dialogue, hsays, -⟩ := h
  exact hp _ _ _ hsays

theorem attains_advance {next : Phase} (h : (Lifecycle.advance next).Attains l s () l' t) :
    l.phase.allows next = true ∧ l' = l.inPhase next ∧ t = s := by
  cases hallows : l.phase.allows next with
  | true =>
    obtain ⟨dialogue, hsays, hfollows⟩ := h
    obtain ⟨rfl, -, rfl⟩ := says_advance hallows hsays
    exact ⟨rfl, rfl, hfollows⟩
  | false =>
    have hmove : l.phase.transition next = .error (.invalidTransition l.phase next) := by
      simp [Phase.transition, Phase.move, hallows]
    unfold Attains at h
    rw [Lifecycle.run_advance, hmove] at h
    cases (Program.attains_done.1 h).1

/-- A step that returns has been done on a site on which nothing else is under way. -/
theorem attains_step {label node : String} {q : ExceptT IsolationError (Program Drain.Api) α}
    (h : (step label node q).Attains l s a l' t) : ∃ m,
      q.run.Attains Site.Drains { s with flights := [] } (.ok a) m ∧
        t = { m with flights := [] } := by
  unfold Attains at h
  rw [run_step, within_eq] at h
  obtain ⟨_, _, rfl, hrest⟩ := Program.attains_ask.1 h
  obtain ⟨o, m, hstep, hrest⟩ := Program.attains_andThen.1 hrest
  obtain ⟨o', m', hq, hstep⟩ := Program.attains_andThen.1 hstep
  obtain ⟨_, _, rfl, hstep⟩ := Program.attains_ask.1 hstep
  obtain ⟨rfl, rfl⟩ := Program.attains_done.1 hstep
  -- A step that is late or fails does not return.
  rcases o with _ | (e | b)
  · cases (Program.attains_done.1 hrest).1
  · cases (Program.attains_done.1 hrest).1
  · obtain ⟨hr, rfl⟩ := Program.attains_done.1 hrest
    cases hr
    exact ⟨m', Site.attains_interruptible hq, rfl⟩

theorem attains_stepInTurn {label node : String} {q : Clustered α}
    (h : (stepInTurn label node q).Attains l s a l' t) :
    t.spared = s.spared ∧ q.Yields s.cluster a t.cluster := by
  obtain ⟨m, hq, rfl⟩ := attains_step h
  obtain ⟨c, hc, rfl⟩ := Site.attains_sequentially hq
  exact ⟨rfl, hc⟩

theorem attains_answer (hok : ((p.run.run l).run Site.answer s).1.1 = .ok a) :
    p.Attains l s a ((p.run.run l).run Site.answer s).1.2 ((p.run.run l).run Site.answer s).2 := by
  have h := Program.attains_run Site.replies_answer (p.run.run l) s
  unfold Attains
  rwa [← hok]

end Pass

/-! ## Preparing nodes -/

namespace Lifecycle

open Pass Clustered Isolation

/-- Whether a pod is on one of some nodes and claimed by a workload that this node tracks. -/
def tracked (us : List Target) (s : ClusterState) (p : Pod) : Bool :=
  us.any fun u => s.tracks u.name u.resources p

/-- Whether a workload is tracked by one of some nodes that are to be isolated. -/
def lent (us : List Target) (key : ResourceKey) : Bool :=
  us.any fun u => u.isolate && decide (key ∈ u.resources.map (·.key))

/-- A debug pod of one of some nodes, possibly marked. -/
def IsDebugPod (us : List Target) (p : Pod) : Prop :=
  ∃ u ∈ us, u.debug.enabled = true ∧
    (p = DebugPod.make u.name u.debug ∨ p = (DebugPod.make u.name u.debug).marked)

/-- Nodes are closed, tracked pods are marked and lent workloads tolerate the taint; debug pods have
come, and everything else is as before. -/
structure Readied (us : List Target) (s t : ClusterState) : Prop where
  sameNodes : t.nodes.map (·.name) = s.nodes.map (·.name)
  nodes : ∀ name, t.findNode name =
    (s.findNode name).map fun n => if name ∈ us.map (·.name) then n.withUnschedulable true else n
  sameWorkloads : t.workloads.map (·.key) = s.workloads.map (·.key)
  workloads : ∀ key, t.findWorkload key =
    (s.findWorkload key).map fun w => if lent us key then w.tolerant else w
  there : ∀ u ∈ us, (s.findNode u.name).isSome = true ∧
    ∀ r ∈ u.resources, (s.findWorkload r.key).isSome = true
  pods : ∃ added, t.pods = (s.pods.map fun p => if tracked us s p then p.marked else p) ++ added ∧
    ∀ p ∈ added, IsDebugPod us p
  distinct : (t.pods.map (·.identity)).Nodup
  ignoresLabels : t.ignoresLabels = s.ignoresLabels

section Preparing

variable {us us' : List Target} {u : Target} {s m t : ClusterState}

theorem readied_nothing (hs : (s.pods.map (·.identity)).Nodup) : Readied [] s s where
  sameNodes := rfl
  nodes name := by simp
  sameWorkloads := rfl
  workloads key := by simp [lent]
  there := by simp
  pods := ⟨[], by simp [tracked], by simp⟩
  distinct := hs
  ignoresLabels := rfl

theorem isDebugPod_marked {p : Pod} (h : IsDebugPod us p) : IsDebugPod us p.marked := by
  obtain ⟨u, hu, hdebug, rfl | rfl⟩ := h
  · exact ⟨u, hu, hdebug, .inr rfl⟩
  · exact ⟨u, hu, hdebug, .inr (Pod.marked_marked _)⟩

theorem isDebugPod_mono {p : Pod} (hus : us ⊆ us') (h : IsDebugPod us p) : IsDebugPod us' p := by
  obtain ⟨u, hu, hdebug, hp⟩ := h
  exact ⟨u, hus hu, hdebug, hp⟩

theorem Readied.tracked_eq (h : Readied us s t) (us' : List Target) (p : Pod) :
    tracked us' t p = tracked us' s p := by
  unfold tracked
  refine congrArg us'.any (funext fun u => ?_)
  exact ClusterState.tracks_eq h.workloads u.name u.resources p

theorem Readied.trans (h : Readied us s m) (h' : Readied us' m t) : Readied (us ++ us') s t where
  sameNodes := h'.sameNodes.trans h.sameNodes
  nodes name := by
    rw [h'.nodes, h.nodes, Option.map_map, List.map_append]
    refine congrArg (Option.map · _) (funext fun n => ?_)
    by_cases hname : name ∈ us.map (·.name)
    · by_cases hname' : name ∈ us'.map (·.name)
      · simp only [Function.comp, hname, hname', List.mem_append, or_self, if_true]
        rfl
      · simp only [Function.comp, hname, hname', List.mem_append, or_false, if_true, if_false]
    · simp only [Function.comp, hname, List.mem_append, false_or, if_false]
  sameWorkloads := h'.sameWorkloads.trans h.sameWorkloads
  workloads key := by
    have hlent : lent (us ++ us') key = (lent us key || lent us' key) := by simp [lent]
    rw [h'.workloads, h.workloads, Option.map_map, hlent]
    refine congrArg (Option.map · _) (funext fun w => ?_)
    cases lent us key with
    | true => cases lent us' key <;> simp [Workload.tolerant_tolerant]
    | false => simp
  there u hu := by
    rcases List.mem_append.1 hu with hu | hu
    · exact h.there u hu
    · obtain ⟨hnode, hworkloads⟩ := h'.there u hu
      rw [h.nodes, Option.isSome_map] at hnode
      refine ⟨hnode, fun r hr => ?_⟩
      have hfound := hworkloads r hr
      rwa [h.workloads, Option.isSome_map] at hfound
  pods := by
    obtain ⟨added, hpods, hadded⟩ := h.pods
    obtain ⟨added', hpods', hadded'⟩ := h'.pods
    have htracked : ∀ p, tracked (us ++ us') s p = (tracked us s p || tracked us' s p) := by
      simp [tracked]
    -- The debug pods of the first nodes may in turn be tracked by the others.
    refine ⟨(added.map fun p => if tracked us' m p then p.marked else p) ++ added', ?_, ?_⟩
    · rw [hpods', hpods, List.map_append, List.map_map, List.append_assoc]
      refine congrArg (· ++ _) (List.map_congr_left fun p _ => ?_)
      rw [htracked, Function.comp]
      simp only [h.tracked_eq]
      cases hp : tracked us s p with
      | true => simp [Pod.marked_marked]
      | false => simp
    · intro p hp
      rcases List.mem_append.1 hp with hp | hp
      · obtain ⟨q, hq, rfl⟩ := List.mem_map.1 hp
        have hdebug := isDebugPod_mono (List.subset_append_left us us') (hadded q hq)
        split
        · exact isDebugPod_marked hdebug
        · exact hdebug
      · exact isDebugPod_mono (List.subset_append_right us us') (hadded' p hp)
  distinct := h'.distinct
  ignoresLabels := h'.ignoresLabels.trans h.ignoresLabels

theorem deployed_eq (hs : (s.pods.map (·.identity)).Nodup) : ∃ added,
    s.deployed u = { s with pods := s.pods ++ added } ∧
      (∀ p ∈ added, p = DebugPod.make u.name u.debug) ∧
      ((s.pods ++ added).map (·.identity)).Nodup := by
  unfold ClusterState.deployed
  cases hfind : s.findPod (DebugPod.make u.name u.debug).identity with
  | some p => exact ⟨[], by simp, by simp, by simpa using hs⟩
  | none =>
    refine ⟨[DebugPod.make u.name u.debug], by simp, by simp, ?_⟩
    have hnew : ∀ p ∈ s.pods, p.identity ≠ (DebugPod.make u.name u.debug).identity := by
      simpa [ClusterState.findPod] using hfind
    rw [List.map_append, List.nodup_append]
    exact ⟨hs, by simp, by simpa using hnew⟩

theorem yields_deployIfAsked {l l' : Lifecycle} {s t : Site}
    (hs : (s.cluster.pods.map (·.identity)).Nodup)
    (h : (deployIfAsked u).Attains l s () l' t) : t.spared = s.spared ∧ ∃ added,
      t.cluster = { s.cluster with pods := s.cluster.pods ++ added } ∧
      (∀ p ∈ added, u.debug.enabled = true ∧ p = DebugPod.make u.name u.debug) ∧
      ((s.cluster.pods ++ added).map (·.identity)).Nodup := by
  unfold deployIfAsked at h
  by_cases hdebug : u.debug.enabled
  · rw [if_pos hdebug] at h
    obtain ⟨hspared, hyields⟩ := attains_stepInTurn h
    rw [yields_deployDebug hyields]
    obtain ⟨added, hdeployed, hadded, hnodup⟩ := deployed_eq (u := u) hs
    exact ⟨hspared, added, hdeployed, fun p hp => ⟨hdebug, hadded p hp⟩, hnodup⟩
  · rw [if_neg hdebug] at h
    rw [(attains_pure h).2]
    exact ⟨rfl, [], by simp, by simp, by simpa using hs⟩

theorem readied_of_withIsolated {added : List Pod} (hnode : (s.findNode u.name).isSome = true)
    (hworkloads : ∀ r ∈ u.resources, (s.findWorkload r.key).isSome = true)
    (hadded : ∀ p ∈ added, u.debug.enabled = true ∧ p = DebugPod.make u.name u.debug)
    (hs : ((s.pods ++ added).map (·.identity)).Nodup)
    (hm : m = ({ s with pods := s.pods ++ added } : ClusterState).changeNode u.name
      (·.withUnschedulable true)) :
    Readied [u] s (m.withIsolated u.name u.isolate u.resources) := by
  have hframe := m.withIsolated_frame u.name u.isolate u.resources
  have hpods : m.pods = s.pods ++ added := by rw [hm]; rfl
  have hclose := (Node.name_withUnschedulable · true)
  exact {
    sameNodes := by
      rw [hframe.nodes, hm]
      exact Shelf.map_changeFirst hclose _ _
    nodes := fun name => by
      have hfind := ClusterState.findNode_changeNode
        ({ s with pods := s.pods ++ added } : ClusterState) hclose u.name name
      rw [ClusterState.findNode, hframe.nodes, ← ClusterState.findNode, hm, hfind]
      by_cases hname : u.name = name
      · simp [hname, ClusterState.findNode]
      · simp [hname, Ne.symm hname, ClusterState.findNode]
    sameWorkloads := by
      rw [hframe.keys, hm]
      rfl
    workloads := fun key => by
      have hsame : m.findWorkload key = s.findWorkload key := by rw [hm]; rfl
      have hlent : lent [u] key = true ↔ u.isolate = true ∧ key ∈ u.resources.map (·.key) := by
        simp [lent]
      simp only [hframe.workloads, hsame, hlent]
    there := by simpa using ⟨hnode, hworkloads⟩
    pods := by
      have htracks : m.tracks u.name u.resources = s.tracks u.name u.resources := by rw [hm]; rfl
      refine ⟨added.map fun p => if s.tracks u.name u.resources p then p.marked else p, ?_, ?_⟩
      · rw [hframe.pods, hpods, htracks, List.map_append]
        simp [tracked]
      · intro p hp
        obtain ⟨q, hq, rfl⟩ := List.mem_map.1 hp
        obtain ⟨hdebug, rfl⟩ := hadded q hq
        have hmade : IsDebugPod [u] (DebugPod.make u.name u.debug) :=
          ⟨u, by simp, hdebug, .inl rfl⟩
        split
        · exact isDebugPod_marked hmade
        · exact hmade
    distinct := by
      rw [hframe.identities, hpods]
      exact hs
    ignoresLabels := by
      rw [hframe.ignoresLabels, hm]
      rfl }

variable {l l' : Lifecycle} {s t : Site}

def Unisolated (s : ClusterState) (u : Target) : Prop :=
  ∀ n, s.findNode u.name = some n → (n.isUnschedulable && Repelling.hasTaint n.taints) = false

theorem readied_of_prepareNode (hs : (s.cluster.pods.map (·.identity)).Nodup)
    (hlabels : s.cluster.ignoresLabels = false) (hu : Unisolated s.cluster u)
    (h : (prepareNode u).Attains l s () l' t) :
    t.spared = s.spared ∧ Readied [u] s.cluster t.cluster := by
  rw [prepareNode_eq] at h
  obtain ⟨_, _, d, hdeploy, h⟩ := attains_bind h
  obtain ⟨hspared₁, added, hd, hadded, hnodup⟩ := yields_deployIfAsked hs hdeploy
  obtain ⟨isolated, _, e, hcheck, h⟩ := attains_bind h
  obtain ⟨hspared₂, hcheck⟩ := attains_stepInTurn hcheck
  obtain ⟨he, n, hn, hisolated⟩ := yields_isIsolated hcheck
  -- The check sees the node as it was before, so that the node is not passed over.
  rw [hd] at hn
  have hnode : s.cluster.findNode u.name = some n := hn
  rw [hu n hnode] at hisolated
  rw [hisolated, if_neg Bool.false_ne_true] at h
  obtain ⟨_, _, c, hclose, h⟩ := attains_bind h
  obtain ⟨hspared₃, hclose⟩ := attains_stepInTurn hclose
  obtain ⟨-, hc⟩ := yields_disableScheduling hclose
  obtain ⟨hspared₄, hlend⟩ := attains_stepInTurn h
  rw [he, hd] at hc
  have hpods : c.cluster.pods = s.cluster.pods ++ added := by rw [hc]; rfl
  have hsame : c.cluster.ignoresLabels = s.cluster.ignoresLabels := by rw [hc]; rfl
  obtain ⟨ht, hworkloads⟩ := yields_isolate (hpods ▸ hnodup) (hsame.trans hlabels) hlend
  have hthere : ∀ r ∈ u.resources, (s.cluster.findWorkload r.key).isSome = true := by
    rw [hc] at hworkloads
    exact hworkloads
  rw [hspared₄, hspared₃, hspared₂, hspared₁, ht]
  exact ⟨rfl, readied_of_withIsolated (by simp [hnode]) hthere hadded hnodup hc⟩

/-- Nodes that are prepared in turn; each is not isolated when its turn comes, as no other has its
name. -/
theorem readied_of_prepareAll (hs : (s.cluster.pods.map (·.identity)).Nodup)
    (hlabels : s.cluster.ignoresLabels = false) (hus : (us.map (·.name)).Nodup)
    (hall : ∀ u ∈ us, Unisolated s.cluster u) (h : (us.forM prepareNode).Attains l s () l' t) :
    t.spared = s.spared ∧ Readied us s.cluster t.cluster := by
  induction us generalizing l s with
  | nil =>
    rw [(attains_pure h).2]
    exact ⟨rfl, readied_nothing hs⟩
  | cons u rest ih =>
    change (prepareNode u >>= fun _ => rest.forM prepareNode).Attains l s () l' t at h
    obtain ⟨_, k, m, hhead, hrest⟩ := attains_bind h
    obtain ⟨hspared, hreadied⟩ := readied_of_prepareNode hs hlabels (hall u (by simp)) hhead
    rw [List.map_cons, List.nodup_cons] at hus
    have hothers : ∀ v ∈ rest, Unisolated m.cluster v := by
      intro v hv n hn
      have hne : v.name ≠ u.name := fun heq =>
        hus.1 (heq ▸ List.mem_map_of_mem (f := (·.name)) hv)
      have hsame : m.cluster.findNode v.name = s.cluster.findNode v.name := by
        simp [hreadied.nodes, hne]
      exact hall v (List.mem_cons_of_mem u hv) n (hsame ▸ hn)
    obtain ⟨hspared', hrest⟩ := ih hreadied.distinct (hreadied.ignoresLabels.trans hlabels) hus.2
      hothers hrest
    exact ⟨hspared'.trans hspared, hreadied.trans hrest⟩

end Preparing

/-! ## Emptying nodes -/

open Drain (Stays keptOn plan Emptied)

/-- Nodes have been emptied, and tainted if they are to be isolated. -/
structure Vacated (us : List Target) (new : List String) (s t : Site) : Prop where
  sameNodes : t.cluster.nodes.map (·.name) = s.cluster.nodes.map (·.name)
  nodes : ∀ name, t.cluster.findNode name = (s.cluster.findNode name).map fun n =>
    if us.any fun u => u.name == name && u.isolate then n.tainted else n
  workloads : t.cluster.workloads = s.cluster.workloads
  inOrder : t.cluster.pods.Sublist s.cluster.pods
  spared : t.spared = new ++ s.spared
  known : ∀ i ∈ new, ∃ p ∈ s.cluster.pods, p.identity = i ∧ ∃ u ∈ us, p.nodeName = some u.name
  pods : ∀ p ∈ s.cluster.pods, p ∈ t.cluster.pods ↔
    ∀ u ∈ us, p.nodeName = some u.name → Stays u s.cluster new p

section Emptying

variable {us us' : List Target} {u : Target} {s m t : Site} {new new' : List String}

theorem vacated_nothing (s : Site) : Vacated [] [] s s where
  sameNodes := rfl
  nodes name := by simp
  workloads := rfl
  inOrder := List.Sublist.refl _
  spared := rfl
  known := by simp
  pods := by simp

/-- Whether a pod stays is decided by the workloads, and by whether it is spared. -/
theorem stays_congr {c c' : ClusterState} {p : Pod} {spared spared' : List String}
    (hworkloads : c'.workloads = c.workloads)
    (hspared : p.identity ∈ spared' ↔ p.identity ∈ spared) :
    Stays u c' spared' p ↔ Stays u c spared p := by
  have hkept : keptOn c' u = keptOn c u := by
    unfold keptOn ClusterState.findWorkload
    rw [hworkloads]
  rw [Stays, Stays, hkept, hspared]

/-- What has been spared on some nodes is of no concern to any other node. -/
theorem Vacated.not_mem_new {pods : List Pod} {p : Pod} {v : Target}
    (hpods : (pods.map (·.identity)).Nodup) (hsub : s.cluster.pods ⊆ pods) (hp : p ∈ pods)
    (hnode : p.nodeName = some v.name) (hapart : ∀ u ∈ us, u.name ≠ v.name)
    (h : Vacated us new s t) : p.identity ∉ new := by
  intro hi
  obtain ⟨q, hq, hidentity, u, hu, hnode'⟩ := h.known _ hi
  cases List.inj_on_of_nodup_map hpods (hsub hq) hp hidentity
  exact hapart u hu (Option.some.inj (hnode'.symm.trans hnode))

/-- No pod is on two nodes, so what is done to the nodes in turn is done to each of them alone. -/
theorem Vacated.trans (hs : (s.cluster.pods.map (·.identity)).Nodup)
    (hapart : ∀ u ∈ us, ∀ v ∈ us', u.name ≠ v.name) (h : Vacated us new s m)
    (h' : Vacated us' new' m t) : Vacated (us ++ us') (new' ++ new) s t where
  sameNodes := h'.sameNodes.trans h.sameNodes
  nodes name := by
    rw [h'.nodes, h.nodes, Option.map_map]
    refine congrArg (Option.map · _) (funext fun n => ?_)
    rw [List.any_append, Function.comp]
    cases hus : us.any fun u => u.name == name && u.isolate with
    | false => simp
    | true =>
      -- The name is that of one of the first nodes, and so of none of the others.
      obtain ⟨u, hu, hname⟩ := List.any_eq_true.1 hus
      have hnone : (us'.any fun v => v.name == name && v.isolate) = false := by
        refine List.any_eq_false.2 fun v hv hsame => hapart u hu v hv ?_
        simp only [Bool.and_eq_true, beq_iff_eq] at hname hsame
        exact hname.1.trans hsame.1.symm
      simp [hnone]
  workloads := h'.workloads.trans h.workloads
  inOrder := h'.inOrder.trans h.inOrder
  spared := by rw [h'.spared, h.spared, List.append_assoc]
  known i hi := by
    rcases List.mem_append.1 hi with hi | hi
    · obtain ⟨p, hp, hidentity, u, hu, hnode⟩ := h'.known i hi
      exact ⟨p, h.inOrder.subset hp, hidentity, u, List.mem_append_right us hu, hnode⟩
    · obtain ⟨p, hp, hidentity, u, hu, hnode⟩ := h.known i hi
      exact ⟨p, hp, hidentity, u, List.mem_append_left us' hu, hnode⟩
  pods p hp := by
    have hstays : (∀ v ∈ us, p.nodeName = some v.name → Stays v s.cluster (new' ++ new) p) ↔
        p ∈ m.cluster.pods := by
      rw [h.pods p hp]
      refine forall₃_congr fun v hv hnode => stays_congr rfl ?_
      have hnot := h'.not_mem_new hs h.inOrder.subset hp hnode
        fun u hu => (hapart v hv u hu).symm
      simp [hnot]
    have hstays' : p ∈ m.cluster.pods →
        ((∀ v ∈ us', p.nodeName = some v.name → Stays v s.cluster (new' ++ new) p) ↔
          p ∈ t.cluster.pods) := by
      intro hm
      rw [h'.pods p hm]
      refine forall₃_congr fun v hv hnode => stays_congr h.workloads.symm ?_
      have hnot := h.not_mem_new hs (List.Subset.refl _) hp hnode fun u hu => hapart u hu v hv
      simp [hnot]
    rw [List.forall_mem_append, hstays]
    exact ⟨fun ht => ⟨h'.inOrder.subset ht, (hstays' (h'.inOrder.subset ht)).2 ht⟩,
      fun ⟨hm, hall⟩ => (hstays' hm).1 hall⟩

theorem frame_of_tainted {c d : ClusterState}
    (hd : d = if u.isolate then c.changeNode u.name Node.tainted else c) :
    d.pods = c.pods ∧ d.workloads = c.workloads := by
  rw [hd]
  split <;> exact ⟨rfl, rfl⟩

theorem vacated_of_emptied (h : Emptied u new s m) (hspared : t.spared = m.spared)
    (ht : t.cluster = if u.isolate then m.cluster.changeNode u.name Node.tainted else m.cluster) :
    Vacated [u] new s t where
  sameNodes := by
    rw [ht, ← h.frame.1]
    split
    · exact Shelf.map_changeFirst Node.name_tainted _ _
    · rfl
  nodes name := by
    have hfind : m.cluster.findNode name = s.cluster.findNode name := by
      rw [ClusterState.findNode, h.frame.1, ClusterState.findNode]
    rw [ht]
    cases hisolate : u.isolate with
    | true =>
      rw [if_pos rfl, ClusterState.findNode_changeNode m.cluster Node.name_tainted, hfind]
      by_cases hname : u.name = name <;> simp [hname, hisolate]
    | false => simp [hisolate, hfind]
  workloads := (frame_of_tainted ht).2.trans h.frame.2.1
  inOrder := by
    rw [(frame_of_tainted ht).1]
    exact h.inOrder
  spared := hspared.trans h.spared
  known i hi := by
    obtain ⟨p, hp, hnode, hidentity⟩ := h.known i hi
    exact ⟨p, hp, hidentity, u, by simp, hnode⟩
  pods p hp := by
    rw [(frame_of_tainted ht).1, h.pods p hp]
    simp

theorem vacated_of_startNode {l l' : Lifecycle} (hs : (s.cluster.pods.map (·.identity)).Nodup)
    (h : (startNode u).Attains l s () l' t) : ∃ new, Vacated [u] new s t := by
  obtain ⟨_, k, m, hstep, h⟩ := attains_bind h
  obtain ⟨d, hdrain, rfl⟩ := attains_step hstep
  obtain ⟨new, hemptied⟩ :=
    Drain.emptied_of_deschedule (s := { s with flights := [] }) hs rfl hdrain
  have hemptied : Emptied u new s d :=
    ⟨hemptied.frame, hemptied.inOrder, hemptied.spared, hemptied.known, hemptied.pods⟩
  by_cases hisolate : u.isolate
  · rw [if_pos hisolate] at h
    obtain ⟨_, _, e, htaint, hrecord⟩ := attains_bind h
    obtain ⟨hspared, htaint⟩ := attains_stepInTurn htaint
    cases attains_modify hrecord
    refine ⟨new, vacated_of_emptied hemptied hspared ?_⟩
    rw [if_pos hisolate]
    exact yields_taintNode htaint
  · rw [if_neg hisolate] at h
    cases attains_modify h
    exact ⟨new, vacated_of_emptied hemptied rfl (if_neg hisolate).symm⟩

theorem vacated_of_startAll {l l' : Lifecycle} (hs : (s.cluster.pods.map (·.identity)).Nodup)
    (hus : (us.map (·.name)).Nodup) (h : (us.forM startNode).Attains l s () l' t) :
    ∃ new, Vacated us new s t := by
  induction us generalizing l s with
  | nil =>
    rw [(attains_pure h).2]
    exact ⟨[], vacated_nothing s⟩
  | cons u rest ih =>
    change (startNode u >>= fun _ => rest.forM startNode).Attains l s () l' t at h
    obtain ⟨_, k, m, hhead, hrest⟩ := attains_bind h
    obtain ⟨new, hvacated⟩ := vacated_of_startNode hs hhead
    rw [List.map_cons, List.nodup_cons] at hus
    obtain ⟨new', hothers⟩ := ih (hs.sublist (hvacated.inOrder.map _)) hus.2 hrest
    refine ⟨new' ++ new, hvacated.trans hs (fun v hv w hw heq => ?_) hothers⟩
    rw [List.mem_singleton.1 hv] at heq
    exact hus.1 (heq ▸ List.mem_map_of_mem (f := (·.name)) hw)

end Emptying

end Lifecycle

end Cordon
