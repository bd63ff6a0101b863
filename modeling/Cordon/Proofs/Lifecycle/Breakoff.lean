import Cordon.Proofs.Drain.Breakoff
import Cordon.Proofs.Lifecycle.Extent
import Cordon.Proofs.Lifecycle.Remains
import Cordon.Proofs.Lifecycle.Stages
import Cordon.Proofs.Run.Break

/-! # A pass that fails on a node

A pass comes to one node after the other and stops at the first one that it fails on.  The stages
before that one are complete, the dialogue breaks off with the step that failed, and nothing has
been asked about a node that comes later.  Of the records, those that the complete stages have
written or dropped are the only ones that are not as before (`severed_of_nodeStep`).

What a single stage does when it fails is put together from its steps (`failsAt_stage`); no part of
a stage writes a record before its last step has succeeded.
-/

namespace Cordon

open OnCluster (calls)

/-- What is asked within a step and answered in time. -/
def inTime (e : Drain.Api.Event) : Effects.Event := ⟨.cluster e.1, some e.2⟩

namespace Pass

open Lifecycle (step stepInTurn)

variable {α β : Type} {p : Pass α} {t : Target} {l l' : Lifecycle} {h : Dialogue Effects}

/-! ## Steps that fail -/

theorem speaks_interruptible {q : Program Drain.Api α} {a : α}
    (hs : (Effects.interruptible q).Speaks h (some a)) :
    ∃ k, q.Speaks k a ∧ h = k.map inTime := by
  induction q generalizing h with
  | done b =>
    obtain ⟨rfl, hb⟩ := hs
    cases hb
    exact ⟨[], ⟨rfl, rfl⟩, rfl⟩
  | ask r resume ih =>
    rw [Effects.interruptible] at hs
    obtain ⟨answer, rest, rfl, hs⟩ := hs
    cases answer with
    | some answer =>
      obtain ⟨k, hk, rfl⟩ := ih answer hs
      exact ⟨⟨r, answer⟩ :: k, ⟨answer, k, rfl, hk⟩, rfl⟩
    | none => cases hs.2

/-- A dialogue breaks off with a step on a node that has failed with this error. -/
def BreaksOff (t : Target) (e : IsolationError) (h : Dialogue Effects) : Prop :=
  ∃ before limit k, h = before ++ ⟨.arm limit, ()⟩ :: (k.map inTime ++ [⟨.disarm, ()⟩]) ∧
    Drain.BrokenOff t e k

theorem BreaksOff.after {e : IsolationError} (hb : BreaksOff t e h) (k : Dialogue Effects) :
    BreaksOff t e (k ++ h) := by
  obtain ⟨before, limit, during, rfl, hbroken⟩ := hb
  exact ⟨k ++ before, limit, during, (List.append_assoc _ _ _).symm, hbroken⟩

/-- A part of a pass that is about a node: where it fails with a step, that step is on the node, the
dialogue breaks off with it, and the lifecycle is as before. -/
def FailsAt (t : Target) (p : Pass α) : Prop :=
  ∀ l h label name e l', p.Says l h (.error (.nodeStep label name e)) l' →
    name = t.name ∧ BreaksOff t e h ∧ l' = l

theorem failsAt_pure (a : α) : FailsAt t (pure a : Pass α) := by
  intro l h label name e l' hs
  cases (says_pure hs).2.1

theorem failsAt_modify (g : Lifecycle → Lifecycle) : FailsAt t (modify g : Pass PUnit) := by
  intro l h label name e l' hs
  cases (says_modify hs).2.1

theorem failsAt_get {f : Lifecycle → Pass β} (hf : ∀ l, FailsAt t (f l)) :
    FailsAt t (get >>= f) := fun l h label name e l' hs => hf l l h label name e l' (says_get.1 hs)

theorem failsAt_bind {f : α → Pass β} (hp : FailsAt t p) (hleaves : Leaves p)
    (hf : ∀ a, FailsAt t (f a)) : FailsAt t (p >>= f) := by
  intro l h label name e l' hs
  rcases says_bind.1 hs with ⟨a, k, h₁, h₂, rfl, hs₁, hs₂⟩ | ⟨_, he, hs₁⟩
  · obtain ⟨hname, hbreaks, rfl⟩ := hf a _ _ _ _ _ _ hs₂
    exact ⟨hname, hbreaks.after h₁, hleaves _ _ _ _ hs₁⟩
  · cases he
    exact hp _ _ _ _ _ _ hs₁

theorem failsAt_forM {as : List α} {f : α → Pass Unit} (hf : ∀ a, FailsAt t (f a))
    (hleaves : ∀ a, Leaves (f a)) : FailsAt t (as.forM f) := by
  induction as with
  | nil => exact failsAt_pure ()
  | cons a rest ih => exact failsAt_bind (hf a) (hleaves a) fun _ => ih

theorem failsAt_step (label : String) {q : ExceptT IsolationError (Program Drain.Api) α}
    (hq : ∀ h e, q.run.Speaks h (.error e) → Drain.BrokenOff t e h) :
    FailsAt t (step label t.name q) := by
  intro l h label' name e l' hs
  unfold Says at hs
  rw [run_step] at hs
  obtain ⟨o, h₁, h₂, rfl, hw, hr⟩ := Program.speaks_andThen.1 hs
  rw [within_eq] at hw
  obtain ⟨_, rest, rfl, hw⟩ := hw
  obtain ⟨_, h₃, h₄, rfl, hspeaks, _, _, rfl, rfl, rfl⟩ := Program.speaks_andThen.1 hw
  rcases o with _ | (e' | a)
  · cases hr.2
  · obtain ⟨rfl, hr⟩ := hr
    cases hr
    obtain ⟨k, hk, rfl⟩ := speaks_interruptible hspeaks
    exact ⟨rfl, ⟨[], l.timeout, k, List.append_nil _, hq _ _ hk⟩, rfl⟩
  · cases hr.2

theorem failsAt_stepInTurn (label : String) {q : Clustered α} (hq : FailsLast q) :
    FailsAt t (stepInTurn label t.name q) :=
  failsAt_step label fun _ _ hs => Drain.brokenOff_sequentially hq hs

end Pass

namespace Lifecycle

open Pass Isolation

/-! ## Stages that fail -/

section FailsAt

variable {t : Target}

theorem failsAt_removeTolerations (resources : List ResourceRef) :
    FailsAt t (removeTolerations t.name resources) :=
  failsAt_forM (fun r => failsAt_stepInTurn _ (failsLast_removeToleration r))
    fun _ => leaves_step _ _ _

theorem failsAt_undo : FailsAt t (undo t) := by
  refine failsAt_bind (failsAt_stepInTurn _ failsLast_untaintNode) (leaves_step _ _ _) fun _ => ?_
  refine failsAt_bind (failsAt_removeTolerations _) (leaves_removeTolerations _ _) fun _ => ?_
  refine failsAt_bind (failsAt_stepInTurn _ (failsLast_removeDebug _ _)) (leaves_step _ _ _)
    fun _ => ?_
  exact failsAt_bind (failsAt_stepInTurn _ failsLast_removeIsolatedPods) (leaves_step _ _ _)
    fun _ => failsAt_stepInTurn _ failsLast_enableScheduling

theorem failsAt_reverseNode : FailsAt t (reverseNode t) := by
  rw [reverseNode_eq]
  exact failsAt_bind failsAt_undo (leaves_undo t) fun _ => failsAt_modify _

theorem failsAt_deployIfAsked :
    FailsAt t (deployIfAsked t) ∧ Leaves (deployIfAsked t) := by
  unfold deployIfAsked
  split
  · exact ⟨failsAt_stepInTurn _ failsLast_deployDebug, leaves_step _ _ _⟩
  · exact ⟨failsAt_pure (), leaves_pure ()⟩

theorem failsAt_prepareNode : FailsAt t (prepareNode t) := by
  obtain ⟨hfails, hleaves⟩ := failsAt_deployIfAsked (t := t)
  rw [prepareNode_eq]
  refine failsAt_bind hfails hleaves fun _ =>
    failsAt_bind (failsAt_stepInTurn _ failsLast_isIsolated) (leaves_step _ _ _) fun isolated => ?_
  split
  · exact failsAt_pure ()
  · exact failsAt_bind (failsAt_stepInTurn _ failsLast_disableScheduling) (leaves_step _ _ _)
      fun _ => failsAt_stepInTurn _ (failsLast_isolate t.isolate)

theorem failsAt_startNode : FailsAt t (startNode t) := by
  refine failsAt_bind (failsAt_step _ fun _ _ hs => Drain.brokenOff_deschedule hs)
    (leaves_step _ _ _) fun _ => ?_
  split
  · exact failsAt_bind (failsAt_stepInTurn _ failsLast_taintNode) (leaves_step _ _ _)
      fun _ => failsAt_modify _
  · exact failsAt_modify _

theorem failsAt_removeDropped (previous : Option ObservedNode) :
    FailsAt t (removeDropped t previous) ∧ Leaves (removeDropped t previous) := by
  cases previous with
  | some o => exact ⟨failsAt_removeTolerations _, leaves_removeTolerations _ _⟩
  | none => exact ⟨failsAt_pure (), leaves_pure ()⟩

theorem failsAt_unisolate (previous : Option ObservedNode) :
    FailsAt t (unisolate t previous) ∧ Leaves (unisolate t previous) := by
  unfold unisolate
  split
  · exact ⟨failsAt_bind (failsAt_stepInTurn _ failsLast_untaintNode) (leaves_step _ _ _)
      fun _ => failsAt_removeTolerations _,
      leaves_bind (leaves_step _ _ _) fun _ => leaves_removeTolerations _ _⟩
  · exact ⟨failsAt_pure (), leaves_pure ()⟩

theorem failsAt_convergeNode : FailsAt t (convergeNode t) := by
  rw [convergeNode_eq]
  refine failsAt_get fun l => ?_
  obtain ⟨hremove, hremoveLeaves⟩ := failsAt_removeDropped (t := t) (l.records.get? t.name)
  obtain ⟨hopen, hopenLeaves⟩ := failsAt_unisolate (t := t) (l.records.get? t.name)
  refine failsAt_bind hremove hremoveLeaves fun _ =>
    failsAt_bind (failsAt_stepInTurn _ failsLast_isIsolated) (leaves_step _ _ _) fun isolated => ?_
  split
  · exact failsAt_bind (failsAt_stepInTurn _ (failsLast_isolate t.isolate)) (leaves_step _ _ _)
      fun _ => failsAt_bind hopen hopenLeaves fun _ => failsAt_modify _
  · exact failsAt_bind failsAt_prepareNode (leaves_prepareNode t) fun _ => failsAt_startNode

end FailsAt

theorem failsAt_stage (x : Stage) : FailsAt x.node x.pass := by
  cases x with
  | reverse u => exact failsAt_reverseNode
  | prepare n => exact failsAt_prepareNode
  | start n => exact failsAt_startNode
  | converge n => exact failsAt_convergeNode

/-! ## The order of nodes -/

/-- The nodes of a pass, in the order in which it comes to them. -/
def Act.order (l : Lifecycle) : Act → List Target
  | .start => l.nodes
  | .prepare | .update => l.marked ++ l.nodes
  | .stop => l.nodes ++ l.marked

variable {l l' : Lifecycle} {h : Dialogue Effects} {a : Act} {before after : List Stage} {x : Stage}

/-- A node of the request comes after nodes of other names only. -/
theorem pairwise_order (ha : a ≠ .stop) (hnames : (l.nodes.map (·.name)).Nodup)
    (hdropped : ∀ u ∈ l.marked, ∀ n ∈ l.nodes, u.name ≠ n.name) :
    (a.order l).Pairwise fun m n => n ∈ l.nodes → m.name ≠ n.name := by
  have hnodes : l.nodes.Pairwise fun m n => n ∈ l.nodes → m.name ≠ n.name := by
    refine (List.pairwise_map.1 hnames).imp ?_
    intro m n hne _
    exact hne
  have hall : (l.marked ++ l.nodes).Pairwise fun m n => n ∈ l.nodes → m.name ≠ n.name := by
    refine List.pairwise_append.2 ⟨?_, hnodes, fun u hu n _ hn => hdropped u hu n hn⟩
    exact List.pairwise_of_forall_mem_list fun u _ v hv hv' => absurd rfl (hdropped v hv v hv')
  cases a with
  | start => exact hnodes
  | prepare | update => exact hall
  | stop => exact absurd rfl ha

/-- The dropped node that a stage reverses. -/
def Stage.reversed? : Stage → Option Target
  | reverse u => some u
  | _ => none

/-- Whether a stage writes the record of its node. -/
def Stage.records : Stage → Bool
  | start _ | converge _ => true
  | reverse _ | prepare _ => false

/-- A stage of a pass reverses a dropped node, or it is that of a node of the request. -/
theorem mem_stages (ha : a ≠ .stop) (hx : x ∈ a.stages l) :
    (x.node ∈ l.marked ∧ x = .reverse x.node) ∨ (x.node ∈ l.nodes ∧ x.reversed? = none) := by
  have hreverse : x ∈ l.marked.map Stage.reverse → x.node ∈ l.marked ∧ x = .reverse x.node := by
    intro hx
    obtain ⟨u, hu, rfl⟩ := List.mem_map.1 hx
    exact ⟨hu, rfl⟩
  cases a with
  | stop => exact absurd rfl ha
  | start =>
    obtain ⟨n, hn, rfl⟩ := List.mem_map.1 hx
    exact .inr ⟨hn, rfl⟩
  | prepare =>
    refine (List.mem_append.1 hx).imp hreverse fun hx => ?_
    obtain ⟨n, hn, rfl⟩ := List.mem_map.1 hx
    exact ⟨hn, rfl⟩
  | update =>
    refine (List.mem_append.1 hx).imp hreverse fun hx => ?_
    obtain ⟨n, hn, rfl⟩ := List.mem_map.1 hx
    have hn : n ∈ l.undropped.nodes := List.mem_of_find?_eq_some (Option.mem_toList.1 hn)
    rw [undropped_eq] at hn
    exact ⟨hn, rfl⟩

/-- Where the stage of a node stands in a pass, as against the nodes that the pass comes to. -/
structure Standing (a : Act) (l : Lifecycle) (before : List Stage) (x : Stage)
    (front later : List Target) : Prop where
  stages : ∃ after, a.stages l = before ++ x :: after
  order : a.order l = front ++ x.node :: later
  reached : ∀ y ∈ before, y.node ∈ front
  /-- A node that is passed over by an update has not changed. -/
  passed : ∀ m ∈ front,
    (∃ y ∈ before, y.node = m) ∨ a = .update ∧ m ∈ l.nodes ∧ l.undropped.hasChanged m = false
  started : a = .start → before = front.map .start
  unrecorded : a ≠ .start → ∀ y ∈ before, y.records = false

theorem standing_of_nodes (hnodes : (a.stages l).map Stage.node = a.order l)
    (hstages : a.stages l = before ++ x :: after)
    (hstarted : a = .start → ∀ y ∈ before, y = .start y.node)
    (hunrecorded : a ≠ .start → ∀ y ∈ before, y.records = false) :
    Standing a l before x (before.map Stage.node) (after.map Stage.node) where
  stages := ⟨after, hstages⟩
  order := by rw [← hnodes, hstages, List.map_append, List.map_cons]
  reached y hy := List.mem_map.2 ⟨y, hy, rfl⟩
  passed m hm := .inl (List.mem_map.1 hm)
  started ha :=
    calc before
      _ = before.map id := (List.map_id before).symm
      _ = before.map (Stage.start ∘ Stage.node) := List.map_congr_left (hstarted ha)
      _ = _ := List.map_map.symm
  unrecorded := hunrecorded

/-- An update stands at a dropped node, or at the node that has changed first, once all dropped
nodes and the nodes of the request before that one are behind it. -/
theorem standing_of_update (hstages : Act.stages l .update = before ++ x :: after) :
    ∃ front later, Standing .update l before x front later := by
  rcases split_append (show l.marked.map Stage.reverse ++
    l.undropped.firstChanged.toList.map Stage.converge = _ from hstages) with
    ⟨during, hmarked⟩ | ⟨middle, rfl, hfirst⟩
  · obtain ⟨us, rest, husrest, rfl, hrest⟩ := List.map_eq_append_iff.1 hmarked
    obtain ⟨u, others, rfl, rfl, -⟩ := List.map_eq_cons_iff.1 hrest
    refine ⟨us, others ++ l.nodes, ⟨after, hstages⟩, ?_, ?_, ?_, (fun hstart => by cases hstart),
      fun _ => ?_⟩
    · simp [Act.order, husrest, Stage.node]
    · simp [Stage.node]
    · exact fun m hm => .inl ⟨.reverse m, List.mem_map.2 ⟨m, hm, rfl⟩, rfl⟩
    · simp [Stage.records]
  · cases hchanged : l.undropped.firstChanged with
    | none => simp [hchanged] at hfirst
    | some n =>
      -- The update brings one node into line, so that no stage stands between.
      have hlast : middle = [] ∧ x = .converge n := by
        cases middle with
        | nil => simp_all
        | cons y ys => simp [hchanged] at hfirst
      obtain ⟨rfl, rfl⟩ := hlast
      obtain ⟨-, ns, others, hsplit, hsame⟩ := List.find?_eq_some_iff_append.1
        (show l.undropped.nodes.find? l.undropped.hasChanged = some n from hchanged)
      have hnodes : l.nodes = ns ++ n :: others := by
        rw [undropped_eq] at hsplit
        exact hsplit
      refine ⟨l.marked ++ ns, others, ⟨after, hstages⟩, ?_, ?_, fun m hm => ?_,
        (fun hstart => by cases hstart), fun _ => ?_⟩
      · simp [Act.order, hnodes, Stage.node]
      · simp +contextual [Stage.node]
      · rcases List.mem_append.1 hm with hm | hm
        · exact .inl ⟨.reverse m, by simp [hm], rfl⟩
        · exact .inr ⟨rfl, by simp [hnodes, hm], by simpa using hsame m hm⟩
      · simp [Stage.records]

theorem standing_of_stages (ha : a ≠ .stop) (hstages : a.stages l = before ++ x :: after) :
    ∃ front later, Standing a l before x front later := by
  have hmem : ∀ y ∈ before, y ∈ a.stages l := fun y hy => by
    rw [hstages]
    exact List.mem_append_left _ hy
  cases a with
  | stop => exact absurd rfl ha
  | update => exact standing_of_update hstages
  | start =>
    refine ⟨_, _, standing_of_nodes (by simp [Act.stages, Act.order, Function.comp_def, Stage.node])
      hstages (fun _ y hy => ?_) fun hne => absurd rfl hne⟩
    obtain ⟨n, -, rfl⟩ := List.mem_map.1 (hmem y hy)
    rfl
  | prepare =>
    refine ⟨_, _, standing_of_nodes (by simp [Act.stages, Act.order, Function.comp_def, Stage.node])
      hstages (fun hstart => by cases hstart) fun _ y hy => ?_⟩
    rcases List.mem_append.1 (hmem y hy) with hy | hy
    · obtain ⟨u, -, rfl⟩ := List.mem_map.1 hy
      rfl
    · obtain ⟨n, -, rfl⟩ := List.mem_map.1 hy
      rfl

/-! ## What is left of the records -/

/-- Stages that write no record drop those of the nodes that they reverse. -/
theorem records_foldl_leaves {ss : List Stage} (hss : ∀ y ∈ ss, y.records = false) :
    (ss.foldl Stage.leaves l).records =
      (ss.filterMap Stage.reversed?).foldl (fun d u => d.erase u.name) l.records := by
  induction ss generalizing l with
  | nil => rfl
  | cons y rest ih =>
    obtain ⟨hy, hrest⟩ := List.forall_mem_cons.1 hss
    cases y with
    | reverse u => exact ih hrest
    | prepare n => exact ih hrest
    | start n | converge n => cases hy

section Standing

variable {front later : List Target}

/-- The nodes that a pass has come to have other names than the nodes of the request that come
later. -/
theorem Standing.ne_later (hx : Standing a l before x front later) (ha : a ≠ .stop)
    (hnames : (l.nodes.map (·.name)).Nodup)
    (hdropped : ∀ u ∈ l.marked, ∀ n ∈ l.nodes, u.name ≠ n.name) :
    ∀ n ∈ front ++ [x.node], ∀ m ∈ later, m ∈ l.nodes → n.name ≠ m.name := by
  have hpairs := pairwise_order ha hnames hdropped
  rw [hx.order, List.append_cons] at hpairs
  exact (List.pairwise_append.1 hpairs).2.2

theorem Standing.reached_snoc (hx : Standing a l before x front later) :
    ∀ y ∈ before ++ [x], y.node ∈ front ++ [x.node] := by
  intro y hy
  rcases List.mem_append.1 hy with hy | hy
  · exact List.mem_append_left _ (hx.reached y hy)
  · cases List.mem_singleton.1 hy
    exact List.mem_append_right _ (List.mem_singleton_self _)

/-- Once the nodes before one have been emptied, they are on record and it is not, nor are those
after it. -/
theorem Standing.get?_records (hx : Standing .start l before x front later)
    (hnames : (l.nodes.map (·.name)).Nodup) (phase : Phase) :
    (∀ n ∈ front, (before.foldl Stage.leaves (l.inPhase phase)).records.get? n.name =
      some n.observed) ∧
    ∀ n ∈ x.node :: later, (before.foldl Stage.leaves (l.inPhase phase)).records.get? n.name =
      l.records.get? n.name := by
  have horder : l.nodes = front ++ x.node :: later := hx.order
  rw [horder, List.map_append] at hnames
  obtain ⟨hfront, -, hapart⟩ := List.nodup_append.1 hnames
  obtain ⟨hrecorded, hkept⟩ := get?_foldl_recorded (l := l.inPhase phase) hfront
  rw [hx.started rfl, List.foldl_map]
  refine ⟨hrecorded, fun n hn => hkept n.name fun hmem => ?_⟩
  exact hapart _ hmem _ (List.mem_map.2 ⟨n, hn, rfl⟩) rfl

/-- The nodes that have been reversed are the dropped ones among those before. -/
theorem Standing.mem_reversed (hx : Standing a l before x front later) (ha : a ≠ .stop)
    (hdropped : ∀ u ∈ l.marked, ∀ n ∈ l.nodes, u.name ≠ n.name) {u : Target} :
    u ∈ before.filterMap Stage.reversed? ↔ u ∈ front ∧ u ∈ l.marked := by
  obtain ⟨after, hstages⟩ := hx.stages
  have hbefore : ∀ y ∈ before, y ∈ a.stages l := fun y hy => by
    rw [hstages]
    exact List.mem_append_left _ hy
  constructor
  · intro hu
    obtain ⟨y, hy, hyu⟩ := List.mem_filterMap.1 hu
    rcases mem_stages ha (hbefore y hy) with ⟨hmarked, heq⟩ | ⟨-, hnone⟩
    · rw [heq] at hyu
      cases hyu
      exact ⟨hx.reached y hy, hmarked⟩
    · cases hnone.symm.trans hyu
  · rintro ⟨hfront, hmarked⟩
    rcases hx.passed u hfront with ⟨y, hy, rfl⟩ | ⟨-, hrequested, -⟩
    · rcases mem_stages ha (hbefore y hy) with ⟨-, heq⟩ | ⟨hrequested, -⟩
      · exact List.mem_filterMap.2 ⟨y, hy, by rw [heq]; rfl⟩
      · exact absurd rfl (hdropped _ hmarked _ hrequested)
    · exact absurd rfl (hdropped _ hmarked _ hrequested)

/-- Once the nodes before one have been reversed or prepared, the dropped ones have no records, and
the other records are as they were. -/
theorem Standing.get?_dropped (hx : Standing a l before x front later) (ha : a ≠ .stop)
    (hstart : a ≠ .start) (hdropped : ∀ u ∈ l.marked, ∀ n ∈ l.nodes, u.name ≠ n.name)
    (phase : Phase) :
    (∀ u ∈ front, u ∈ l.marked →
      (before.foldl Stage.leaves (l.inPhase phase)).records.get? u.name = none) ∧
    ∀ name, (∀ u ∈ front, u ∈ l.marked → u.name ≠ name) →
      (before.foldl Stage.leaves (l.inPhase phase)).records.get? name = l.records.get? name := by
  rw [records_foldl_leaves (hx.unrecorded hstart)]
  constructor
  · intro u hfront hmarked
    have hu := (hx.mem_reversed ha hdropped).2 ⟨hfront, hmarked⟩
    rw [get?_foldl_erase, if_pos (List.mem_map.2 ⟨u, hu, rfl⟩)]
  · intro name hother
    rw [get?_foldl_erase, if_neg]
    · rfl
    rintro hmem
    obtain ⟨u, hu, hname⟩ := List.mem_map.1 hmem
    obtain ⟨hfront, hmarked⟩ := (hx.mem_reversed ha hdropped).1 hu
    exact hother u hfront hmarked hname

end Standing

/-- What a pass has done that has failed with a step on a node. -/
structure Severed (a : Act) (l : Lifecycle) (h : Dialogue Effects) (label : String)
    (e : IsolationError) (l' : Lifecycle) (before : List Stage) (x : Stage)
    (front later : List Target) : Prop extends Standing a l before x front later where
  /-- The stages before that of the node are complete, and the last one is that of the node. -/
  complete : ∃ k k' h₁ h₂, h = h₁ ++ h₂ ∧
    (before.forM Stage.pass).Says (l.inPhase a.opening) h₁ (.ok ()) k ∧
    x.pass.Says k h₂ (.error (.nodeStep label x.node.name e)) k'
  /-- Nothing is asked after the step that has failed. -/
  last : BreaksOff x.node e h
  /-- On a cluster that tells the truth, all calls regard the nodes up to the one that the pass has
  failed on, and none of them names a later one. -/
  regards : ∀ others s t first event rest, h = first ++ event :: rest →
    Follows (Answers others) s first t → ∀ c, calls event.1 c →
      (∃ y ∈ before ++ [x], c.Regards (heardIn first) y.node (y.tracked l)) ∧
      ∀ m ∈ later, (m ∈ l.nodes ∨ ∀ n ∈ front ++ [x.node], n.name ≠ m.name) →
        c.node? ≠ some m.name
  /-- A pass that empties nodes has recorded those that it has been through. -/
  recorded : a = .start →
    (∀ n ∈ front, l'.records.get? n.name = some n.observed) ∧
      ∀ n ∈ x.node :: later, l'.records.get? n.name = l.records.get? n.name
  /-- Any other has dropped the records of the dropped nodes that it has been through, and no
  others. -/
  dropped : a ≠ .start → (∀ u ∈ front, u ∈ l.marked → l'.records.get? u.name = none) ∧
    ∀ name, (∀ u ∈ front, u ∈ l.marked → u.name ≠ name) →
      l'.records.get? name = l.records.get? name

/-- A pass that fails with a step on a node leaves a clean front: the nodes before that one have
been dealt with and nothing has been asked about those after it.  The dialogue ends with the step
that has failed, and the records are those of the nodes dealt with and, for the others, the ones
there were. -/
theorem severed_of_nodeStep {q : Quarantine} {timeout : Nat} {label name : String}
    {e : IsolationError} (hnames : (q.spec.nodes.map (·.name)).Nodup)
    (hl : Concerns (new q timeout).nodes (new q timeout).marked l) (ha : a ≠ .stop)
    (hs : a.pass.Says l h (.error (.nodeStep label name e)) l') :
    ∃ before x front later, x.node.name = name ∧
      Severed a l h label e l' before x front later := by
  obtain ⟨hnodes, hmarked⟩ := hl
  have hdropped : ∀ u ∈ l.marked, ∀ n ∈ l.nodes, u.name ≠ n.name := by
    rw [hnodes, hmarked]
    exact fun u hu n hn => ne_of_mem_marked_new hu hn
  have hnames : (l.nodes.map (·.name)).Nodup := by rwa [hnodes, names_new]
  rcases says_stages ha hs with ⟨-, hr, -⟩ | ⟨k', phase, hrun, rfl⟩
  · cases hr
  obtain ⟨before, x, after, k, h₁, h₂, hstages, rfl, hbefore, hx⟩ := broken_of_forM hrun
  obtain ⟨front, later, hstanding⟩ := standing_of_stages ha hstages
  obtain ⟨rfl, hbreaks, rfl⟩ := failsAt_stage x _ _ _ _ _ _ hx
  have hfold := gives_stages before _ _ _ hbefore
  subst hfold
  refine ⟨before, x, front, later, rfl, {
    toStanding := hstanding
    complete := ⟨_, _, h₁, h₂, rfl, hbefore, hx⟩
    last := hbreaks.after h₁
    regards := fun others s t first event rest heq hf c hc => ?_
    recorded := fun hstart => ?_
    dropped := fun hstart => hstanding.get?_dropped ha hstart hdropped _ }⟩
  · have hrun := says_forM_snoc hbefore hx
    rw [heq] at hrun
    obtain ⟨y, hy, hregards⟩ := regards_of_stages hrun hf hc
    refine ⟨⟨y, hy, hregards⟩, fun m hm hother hnamed => ?_⟩
    have hname : m.name = y.node.name := hregards.node?_eq hnamed
    have hreached := hstanding.reached_snoc y hy
    rcases hother with hrequested | hother
    · exact hstanding.ne_later ha hnames hdropped y.node hreached m hm hrequested hname.symm
    · exact hother y.node hreached hname.symm
  · subst hstart
    exact hstanding.get?_records hnames _

namespace Sample

/-- A request for three nodes that has not been acted on; all pods may be evicted. -/
def fresh : Quarantine where
  metadata := widened.metadata
  spec := { widened.spec with flags := { DrainFlags.unset with force := some true } }
  status := none

def pod (name node : String) : Kube.Pod :=
  ⟨{ Kube.ObjectMeta.blank with name := some name }, some ⟨some node, [], none, none, []⟩, none⟩

/-- Two pods on the first node and one each on the other two. -/
def inhabited : Scene where
  cluster :=
    { fourNodes.cluster with pods := [pod "a" "w1", pod "b" "w1", pod "c" "w2", pod "d" "w3"] }
  shelf := []
  flights := []
  own _ := false
  own_shows _ h := by cases h

/-- The second node takes no taint. -/
def taintFails : ClusterCall → Bool
  | .setNodeTaints n _ => n.name == "w2"
  | _ => false

/-- Its nodes are emptied one after the other. -/
def halted : Dialogue Effects :=
  (start.run.run ((new fresh 10).inPhase .preparing)).transcript (Scene.failing taintFails)
    inhabited

/-- What is left of the cluster. -/
def remainder : ClusterState :=
  ((start.run.run ((new fresh 10).inPhase .preparing)).run (Scene.failing taintFails)
    inhabited).2.cluster

/-- A cluster that fails some calls answers as a cluster may. -/
theorem answers_failing (others : ClusterState → ClusterState → Prop)
    (fails : ClusterCall → Bool) (r : Effects.Request) (s : Scene) :
    Answers others r s (s.failing fails r).1 (s.failing fails r).2 := by
  cases r with
  | cluster r =>
    cases r with
    | call c =>
      by_cases hc : fails c = true
      · simp only [Scene.failing, if_pos hc]
        refine ⟨s, .refl, .failed c _ s (.inl rfl) fun habsent => ?_⟩
        have hpresent : (c.error (.transport "timeout")).isNotFound = false := by
          cases c <;> rfl
        cases hpresent.symm.trans habsent
      · simp only [Scene.failing, if_neg hc]
        exact Scene.answers_answer others _ s
    | launch _ | await _ => exact Scene.answers_answer others _ s
  | store _ | arm _ | disarm | now => exact Scene.answers_answer others _ s

end Sample

open Sample in
/-- The second node cannot be tainted: the first one has been emptied and is on record by then, the
others are not on record, and nothing is asked about the third one, whose pod stays. -/
theorem severed_of_nodeStep_halted : ∃ l' before x front later,
    start.Says ((new fresh 10).inPhase .preparing) halted
      (.error (.nodeStep "taint" "w2" (.updateNodeTaints "w2" (.transport "timeout")))) l' ∧
    Severed .start ((new fresh 10).inPhase .preparing) halted "taint"
      (.updateNodeTaints "w2" (.transport "timeout")) l' before x front later ∧
    front.map (·.name) = ["w1"] ∧ later.map (·.name) = ["w3"] ∧
    l'.records.get? "w1" = some ⟨"w1", false, []⟩ ∧ l'.records.get? "w2" = none ∧
    l'.records.get? "w3" = none ∧
    (∀ event ∈ halted, ∀ c, calls event.1 c → c.node? ≠ some "w3") ∧
    remainder.pods = [pod "d" "w3"] := by
  have hfollows := follows_transcript (answers_failing (fun _ _ => False) taintFails)
    (start.run.run ((new fresh 10).inPhase .preparing)) inhabited
  obtain ⟨l', hs⟩ := says_transcript (Scene.failing taintFails) start
    ((new fresh 10).inPhase .preparing) inhabited (r := .error (.nodeStep "taint" "w2"
      (.updateNodeTaints "w2" (.transport "timeout")))) (by decide +kernel)
  have hl : Concerns (new fresh 10).nodes (new fresh 10).marked
    ((new fresh 10).inPhase .preparing) := ⟨rfl, rfl⟩
  obtain ⟨before, x, front, later, hname, hsevered⟩ :=
    severed_of_nodeStep (a := .start) (by decide) hl (by decide) hs
  -- The order of the request, with the node that the pass has failed on in the middle.
  have hnodes : (new fresh 10).nodes.map Target.observed =
      [⟨"w1", false, []⟩, ⟨"w2", true, []⟩, ⟨"w3", true, []⟩] := by decide +kernel
  rw [show (new fresh 10).nodes = front ++ x.node :: later from hsevered.order, List.map_append,
    List.map_cons] at hnodes
  have hother : ∀ name isolate, name ≠ "w2" →
      x.node.observed ∉ [(⟨name, isolate, []⟩ : ObservedNode)] := by
    intro name isolate hne hmem
    have heq : x.node.name = name := congrArg ObservedNode.name (List.mem_singleton.1 hmem)
    exact hne (heq.symm.trans hname)
  obtain ⟨hfront, -, hlater⟩ := (List.append_cons_inj_of_notMem (hother "w1" false (by decide))
    (hother "w3" true (by decide))).1 hnodes.symm
  obtain ⟨w1, rfl, hw1⟩ := List.map_eq_singleton_iff.1 hfront.symm
  obtain ⟨w3, rfl, hw3⟩ := List.map_eq_singleton_iff.1 hlater.symm
  have hname1 : w1.name = "w1" := congrArg ObservedNode.name hw1
  have hname3 : w3.name = "w3" := congrArg ObservedNode.name hw3
  obtain ⟨hrecorded, hkept⟩ := hsevered.recorded rfl
  refine ⟨l', before, x, [w1], [w3], hs, hsevered, by simp [hname1], by simp [hname3], ?_, ?_, ?_,
    fun event hevent c hc => ?_, by decide +kernel⟩
  · have hfirst := hrecorded w1 (by simp)
    rwa [hname1, hw1] at hfirst
  · rw [← hname]
    exact (hkept x.node (by simp)).trans rfl
  · rw [← hname3]
    exact (hkept w3 (by simp)).trans rfl
  · obtain ⟨first, rest, hsplit⟩ := List.append_of_mem hevent
    rw [← halted, hsplit] at hfollows
    obtain ⟨t, hfirst, -⟩ := follows_append.1 hfollows
    have hw3 : w3 ∈ Act.order ((new fresh 10).inPhase .preparing) .start := by
      rw [hsevered.order]
      simp
    rw [← hname3]
    exact (hsevered.regards _ _ t first event rest hsplit hfirst c hc).2 w3 (by simp) (.inl hw3)

end Lifecycle

end Cordon
