import Cordon.Proofs.Lifecycle.Effect
import Cordon.Proofs.Lifecycle.Remains
import Cordon.Proofs.Run.Break

/-! # In which order a node is isolated

Nodes are closed before any is emptied, and a node is emptied before it is tainted.

`Pass.Comes` says that a pass comes to ask something in a scene, after a dialogue; the pass may be
broken off there.  A question of a sequence of passes is asked by the first one, or by the second
one after the first one has succeeded (`comes_bind`).  Removals are only asked for by the step that
empties a node (`drains_of_startNode`), and all other parts of a pass make one call after the other
(`Pass.InTurn`); what they write is told by their footprints.

The main statements are `closed_of_settle`, that a node is closed when pods are removed from it, and
`emptied_of_settle`, that a node has been emptied when the taint is put on it.
-/

namespace Cordon

/-- Whether a question is about removals that run side by side. -/
def Effects.Request.drains : Effects.Request → Bool
  | .cluster (.launch _) | .cluster (.await _) => true
  | _ => false

/-- No question about removals. -/
def Protocol.inTurn : Protocol Effects := ⟨fun r => r.drains = false, fun _ _ => True⟩

namespace Pass

open Lifecycle (step stepInTurn advance)

variable {others : ClusterState → ClusterState → Prop} {α β : Type} {p : Pass α} {f : α → Pass β}
  {l l' : Lifecycle} {s t m : Scene} {h before : Dialogue Effects} {e : Effects.Event}

/-! ## Coming to a question -/

/-- A pass comes to ask something in a scene, after this dialogue. -/
def Comes (others : ClusterState → ClusterState → Prop) (p : Pass α) (l : Lifecycle) (s : Scene)
    (before : Dialogue Effects) (e : Effects.Event) (m : Scene) : Prop :=
  ∃ rest r l', p.Says l (before ++ e :: rest) r l' ∧ Follows (Answers others) s before m

theorem not_comes_pure (a : α) : ¬ (pure a : Pass α).Comes others l s before e m := by
  rintro ⟨rest, r, l', hs, -⟩
  have hnil := (says_pure hs).1
  simp at hnil

theorem not_comes_modify (g : Lifecycle → Lifecycle) :
    ¬ (modify g : Pass PUnit).Comes others l s before e m := by
  rintro ⟨rest, r, l', hs, -⟩
  have hnil := (says_modify hs).1
  simp at hnil

theorem comes_get {f : Lifecycle → Pass β} :
    (get >>= f).Comes others l s before e m ↔ (f l).Comes others l s before e m := Iff.rfl

/-- What is asked in a sequence is asked by the first pass, or by the second one after the first
one has succeeded. -/
theorem comes_bind (hc : (p >>= f).Comes others l s before e m) :
    p.Comes others l s before e m ∨
      ∃ a k h₁ h₂ d, before = h₁ ++ h₂ ∧ p.Says l h₁ (.ok a) k ∧ Follows (Answers others) s h₁ d ∧
        (f a).Comes others k d h₂ e m := by
  obtain ⟨rest, r, l', hs, hf⟩ := hc
  rcases says_bind.1 hs with ⟨a, k, h₁, h₂, heq, hp, hsecond⟩ | ⟨err, -, hp⟩
  · rcases split_append heq.symm with ⟨during, rfl⟩ | ⟨front, rfl, rfl⟩
    · exact .inl ⟨during, .ok a, k, hp, hf⟩
    · obtain ⟨d, hfirst, hlast⟩ := follows_append.1 hf
      exact .inr ⟨a, k, h₁, front, d, rfl, hp, hfirst, rest, r, l', hsecond, hlast⟩
  · exact .inl ⟨rest, .error err, l', hp, hf⟩

/-- What is asked in a loop is asked in one of its rounds. -/
theorem comes_forM {as : List α} {f : α → Pass Unit}
    (hc : (as.forM f).Comes others l s before e m) :
    ∃ a ∈ as, ∃ k h₁ h₂ d, before = h₁ ++ h₂ ∧ (f a).Comes others k d h₂ e m := by
  induction as generalizing l s before with
  | nil => exact absurd hc (not_comes_pure ())
  | cons a rest ih =>
    rcases comes_bind (show (f a >>= fun _ => rest.forM f).Comes others l s before e m from hc) with
      hc | ⟨_, k, h₁, h₂, d, rfl, -, -, hc⟩
    · exact ⟨a, by simp, l, [], before, s, rfl, hc⟩
    · obtain ⟨b, hb, k', h₃, h₄, d', rfl, hround⟩ := ih hc
      exact ⟨b, by simp [hb], k', h₁ ++ h₃, h₄, d', by simp, hround⟩

/-- A pass has visited the scene in which it comes to ask something. -/
theorem Comes.visits (hc : p.Comes others l s before e m) :
    Visits others (p.run.run l) s m := by
  obtain ⟨rest, r, l', hs, hf⟩ := hc
  exact visits_of_follows ⟨e :: rest, (r, l'), hs⟩ hf

theorem runs_of_follows {r : Except ControllerError α} (hs : p.Says l h r l')
    (hf : Follows (Answers others) s h t) : Runs others p l s r l' t :=
  executes_of_follows hs hf

/-- A pass that does not put the taint on nodes does not come to do so. -/
theorem not_tainting_of_comes {P : Footprint} {J : Lifecycle → Prop} {n : Kube.Node}
    {taints : List Kube.Taint} (hp : StaysIn P J p) (hc : p.Comes others l s before e m)
    (he : e.1 = .cluster (.call (.setNodeTaints n taints))) (hl : J l)
    (hP : ¬ P (.tainted n.name) true) : Repelling.hasTaint taints = false := by
  obtain ⟨rest, r, l', hs, hf⟩ := hc
  refine Bool.eq_false_iff.2 fun htaint => hP ?_
  have hasks := (hp l hl).asks hs hf.honest
  rw [he] at hasks
  exact hasks (.tainted n.name) true (by simp [ClusterCall.writes, htaint])

/-! ## One call after the other -/

/-- A pass does not ask for removals that run side by side. -/
def InTurn (p : Pass α) : Prop := ∀ l, (p.run.run l).Obeys .inTurn fun _ => True

theorem InTurn.drains (hp : InTurn p) (hc : p.Comes others l s before e m) :
    e.1.drains = false := by
  obtain ⟨rest, r, l', hs, -⟩ := hc
  exact (hp l).asks hs fun _ _ => trivial

theorem inTurn_pure (a : α) : InTurn (pure a : Pass α) := fun _ => trivial

theorem inTurn_modify (g : Lifecycle → Lifecycle) : InTurn (modify g : Pass PUnit) :=
  fun _ => trivial

theorem inTurn_bind (hp : InTurn p) (hf : ∀ a, InTurn (f a)) : InTurn (p >>= f) := by
  intro l
  rw [run_bind]
  refine (hp l).andThen fun r _ => ?_
  obtain ⟨r, k⟩ := r
  cases r with
  | ok a => exact hf a k
  | error e => exact trivial

theorem inTurn_get {f : Lifecycle → Pass β} (hf : ∀ l, InTurn (f l)) : InTurn (get >>= f) :=
  fun l => hf l l

theorem inTurn_forM {as : List α} {f : α → Pass Unit} (hf : ∀ a ∈ as, InTurn (f a)) :
    InTurn (as.forM f) := by
  induction as with
  | nil => exact inTurn_pure ()
  | cons a rest ih =>
    show InTurn (f a >>= fun _ => rest.forM f)
    exact inTurn_bind (hf a (by simp)) fun _ => ih fun b hb => hf b (by simp [hb])

theorem inTurn_advance (next : Phase) : InTurn (advance next) := by
  intro l
  rw [Lifecycle.run_advance]
  split <;> exact trivial

theorem obeys_inTurn_sequentially (q : Clustered α) :
    (Effects.interruptible (Drain.sequentially q).run).Obeys .inTurn fun _ => True := by
  show (Effects.interruptible (Program.interpret _ q.run)).Obeys .inTurn _
  generalize q.run = c
  induction c with
  | done a => exact trivial
  | ask c resume ih =>
    simp only [Program.interpret, Program.query, Program.ask_andThen, Program.done_andThen,
      Effects.interruptible]
    refine ⟨rfl, fun answer _ => ?_⟩
    cases answer with
    | some answer => exact ih answer
    | none => exact trivial

theorem inTurn_stepInTurn (label node : String) (q : Clustered α) :
    InTurn (stepInTurn label node q) := by
  intro l
  have hwithin : (Effects.within l.timeout (Drain.sequentially q).run).Obeys .inTurn
      fun _ => True := by
    -- The step is a run of calls between an alarm that is set and one that is put off.
    rw [within_eq]
    exact ⟨rfl, fun _ _ => (obeys_inTurn_sequentially q).andThen fun _ _ =>
      ⟨rfl, fun _ _ => trivial⟩⟩
  unfold stepInTurn
  rw [run_step]
  refine hwithin.andThen fun o _ => ?_
  rcases o with _ | (_ | _) <;> exact trivial

end Pass

namespace Lifecycle

open Pass Isolation

variable {others : ClusterState → ClusterState → Prop} {l l' k : Lifecycle} {s t m : Scene}
  {h before : Dialogue Effects} {e : Effects.Event} {n : Target} {node : String}

/-! ## Parts that make one call after the other -/

theorem inTurn_removeTolerations (node : String) (resources : List ResourceRef) :
    InTurn (removeTolerations node resources) :=
  inTurn_forM fun _ _ => inTurn_stepInTurn _ _ _

theorem inTurn_prepareNode (n : Target) : InTurn (prepareNode n) := by
  rw [prepareNode_eq]
  refine inTurn_bind ?_ fun _ => inTurn_bind (inTurn_stepInTurn _ _ _) fun isolated => ?_
  · unfold deployIfAsked
    split
    · exact inTurn_stepInTurn _ _ _
    · exact inTurn_pure ()
  · split
    · exact inTurn_pure ()
    · exact inTurn_bind (inTurn_stepInTurn _ _ _) fun _ => inTurn_stepInTurn _ _ _

theorem inTurn_reverseMarked : InTurn reverseMarked :=
  inTurn_get fun _ => inTurn_forM fun _ _ =>
    inTurn_bind (inTurn_stepInTurn _ _ _) fun _ => inTurn_bind (inTurn_removeTolerations _ _)
      fun _ => inTurn_bind (inTurn_stepInTurn _ _ _) fun _ => inTurn_bind (inTurn_stepInTurn _ _ _)
        fun _ => inTurn_bind (inTurn_stepInTurn _ _ _) fun _ => inTurn_modify _

theorem inTurn_prepare : InTurn prepare :=
  inTurn_bind (inTurn_advance _) fun _ => inTurn_bind inTurn_reverseMarked fun _ =>
    inTurn_get fun _ => inTurn_forM fun n _ => inTurn_prepareNode n

theorem inTurn_removeDropped (n : Target) (previous : Option ObservedNode) :
    InTurn (removeDropped n previous) := by
  cases previous with
  | none => exact inTurn_pure ()
  | some o => exact inTurn_removeTolerations _ _

theorem inTurn_adjust (n : Target) (previous : Option ObservedNode) :
    InTurn (adjust n previous) := by
  refine inTurn_bind (inTurn_stepInTurn _ _ _) fun _ => inTurn_bind ?_ fun _ => inTurn_modify _
  unfold unisolate
  split
  · exact inTurn_bind (inTurn_stepInTurn _ _ _) fun _ => inTurn_removeTolerations _ _
  · exact inTurn_pure ()

theorem staysIn_adjust (n : Target) (previous : Option ObservedNode) :
    StaysIn (fun m b => b = true → ∃ key, m = .tolerating key) (fun _ => True)
      (adjust n previous) := by
  have hclears {P : Footprint} {p : Pass Unit} (hp : StaysIn P (fun _ => True) p)
      (hP : ∀ m b, P m b → b = false) :
      StaysIn (fun m b => b = true → ∃ key, m = .tolerating key) (fun _ => True) p :=
    hp.mono fun m b h hb => by cases hb.symm.trans (hP m b h)
  refine staysIn_bind ?_ fun _ => staysIn_bind ?_ fun _ => staysIn_modify fun _ h => h
  · refine staysIn_stepInTurn ((staysIn_isolate n n.isolate).mono ?_)
    rintro _ _ ⟨-, ⟨r, -, rfl⟩, -⟩ -
    exact ⟨r.key, rfl⟩
  · unfold unisolate
    split
    · exact staysIn_bind (hclears (staysIn_stepInTurn (staysIn_untaintNode n.name))
        fun _ _ h => h.2) fun _ => hclears (staysIn_removeTolerations _ _) fun _ _ h => h.2
    · exact staysIn_pure ()

/-! ## Nodes that are closed -/

/-- A node that is found isolated is closed. -/
theorem closed_of_check {label : String}
    (h : Runs others (stepInTurn label node (isIsolated node)) l s (.ok true) l' t) :
    t.cluster.shows (.closed node) = true := by
  obtain ⟨-, m, hcheck, rfl⟩ := runs_stepInTurn h
  obtain ⟨a, d, hget, hpure⟩ := Clustered.runs_bind hcheck
  obtain ⟨hisolated, rfl⟩ := Clustered.runs_pure hpure
  obtain ⟨d', -, hp, rfl⟩ := Clustered.runs_call (by simp) hget
  show (d'.act (.getNode node)).cluster.shows (.closed node) = true
  rw [(Scene.act_of_writes_none rfl).2, (ClusterState.shows_of_getNode hp).1]
  exact (Bool.and_eq_true _ _ ▸ hisolated.symm).1

/-- A node that has been prepared is closed. -/
theorem closed_of_prepareNode (hnode : Untouched others (.closed n.name))
    (h : Runs others (prepareNode n) l s (.ok ()) l' t) :
    t.cluster.shows (.closed n.name) = true := by
  rw [prepareNode_eq] at h
  obtain ⟨_, l₁, s₁, -, hrest⟩ := runs_bind h
  obtain ⟨isolated, l₂, s₂, hcheck, hrest⟩ := runs_bind hrest
  cases isolated with
  | true =>
    obtain ⟨-, -, rfl⟩ := runs_pure hrest
    exact closed_of_check hcheck
  | false =>
    obtain ⟨_, l₃, s₃, hcordon, hisolate⟩ := runs_bind hrest
    have hs₃ : s₃.cluster.shows (.closed n.name) = true := by
      obtain ⟨-, m, hcall, rfl⟩ := runs_stepInTurn hcordon
      obtain ⟨d, -, hp, rfl⟩ := Clustered.runs_call (by simp) hcall
      show (d.act (.cordonNode n.name)).cluster.shows (.closed n.name) = true
      rw [(Scene.act_of_ok hp _).2.2]
      simp [ClusterCall.writes]
    -- Isolating the workloads of a node does not open it.
    refine (lost_of_runs (steady_shows hnode) (J := fun _ => True)
      (staysIn_stepInTurn (staysIn_isolate n n.isolate)) trivial hisolate hs₃).resolve_right ?_
    rintro ⟨-, -, hb⟩
    cases hb

/-- Of the nodes that have been prepared in turn, all are closed. -/
theorem closed_of_prepareAll {ns : List Target} (hn : n ∈ ns)
    (hnode : Untouched others (.closed n.name))
    (h : Runs others (ns.forM prepareNode) l s (.ok ()) l' t) :
    t.cluster.shows (.closed n.name) = true := by
  induction ns generalizing l s with
  | nil => cases hn
  | cons a rest ih =>
    change Runs others (prepareNode a >>= fun _ => rest.forM prepareNode) l s (.ok ()) l' t at h
    obtain ⟨_, k, d, hhead, hrest⟩ := runs_bind h
    rcases List.mem_cons.1 hn with rfl | hn
    -- The nodes that are prepared later are closed too, and none is opened.
    · refine (lost_of_runs (steady_shows hnode) (J := fun _ => True) (staysIn_prepareAll rest)
        trivial hrest (closed_of_prepareNode hnode hhead)).resolve_right ?_
      rintro ⟨hb, -⟩
      cases hb
    · exact ih hn hrest

/-- Once a quarantine has been prepared, its nodes are closed. -/
theorem closed_of_prepare (hn : n ∈ l.nodes) (hnode : Untouched others (.closed n.name))
    (h : Runs others prepare l s (.ok ()) l' t) : t.cluster.shows (.closed n.name) = true := by
  obtain ⟨phase, hrest⟩ := runs_advance_bind h
  obtain ⟨_, k, d, hreverse, hprepare⟩ := runs_bind hrest
  have hk : k.nodes = l.nodes := by
    refine (kept_of_runs (staysIn_reverseMarked l.nodes l.marked) ?_ hreverse).1
    exact ⟨rfl, rfl⟩
  exact closed_of_prepareAll (hk ▸ hn) hnode (runs_get.1 hprepare)

/-! ## Emptying and tainting -/

/-- The step that empties a node. -/
def emptyNode (n : Target) : Pass Unit := step "deschedule pods from" n.name (Drain.deschedule n)

/-- When this is asked after this dialogue, a node is being emptied. -/
def Emptying (n : Target) (before : Dialogue Effects) (e : Effects.Event) : Prop :=
  ∃ front during rest r l l', before = front ++ during ∧
    (emptyNode n).Says l (during ++ e :: rest) r l'

/-- A node to be isolated has been emptied in a dialogue, and this is its name. -/
def Emptied (ns : List Target) (before : Dialogue Effects) (name : String) : Prop :=
  ∃ n ∈ ns, n.isolate = true ∧ name = n.name ∧ (emptyNode n).DoneIn before

theorem Emptying.after {front : Dialogue Effects} (h : Emptying n before e) :
    Emptying n (front ++ before) e := by
  obtain ⟨front', during, rest, r, l, l', rfl, hs⟩ := h
  exact ⟨front ++ front', during, rest, r, l, l', by simp, hs⟩

theorem Emptied.after {ns ns' : List Target} {front : Dialogue Effects} {name : String}
    (h : Emptied ns before name) (hns : ∀ n ∈ ns, n ∈ ns') :
    Emptied ns' (front ++ before) name := by
  obtain ⟨n, hn, hisolate, hname, hdone⟩ := h
  exact ⟨n, hns n hn, hisolate, hname, hdone.within ⟨front, [], by simp⟩⟩

/-! Starting a node. -/

section Start

theorem drains_of_startNode (hc : (startNode n).Comes others l s before e m)
    (he : e.1.drains = true) : Emptying n before e := by
  rcases comes_bind (f := fun _ => _) hc with
    ⟨rest, r, l', hs, -⟩ | ⟨_, k, h₁, h₂, d, rfl, -, -, hc⟩
  · exact ⟨[], before, rest, r, l, l', rfl, hs⟩
  · have hrest : InTurn (if n.isolate = true then
        stepInTurn "taint" n.name (taintNode n.name) >>= fun _ => record n else record n) := by
      split
      · exact inTurn_bind (inTurn_stepInTurn _ _ _) fun _ => inTurn_modify _
      · exact inTurn_modify _
    cases he.symm.trans (hrest.drains hc)

variable {node : Kube.Node} {taints : List Kube.Taint}

theorem emptied_of_startNode (hc : (startNode n).Comes others l s before e m)
    (he : e.1 = .cluster (.call (.setNodeTaints node taints)))
    (htaint : Repelling.hasTaint taints = true) : Emptied [n] before node.name := by
  rcases comes_bind (f := fun _ => _) hc with hempty | ⟨_, k, h₁, h₂, d, rfl, hs, -, hc⟩
  · cases htaint.symm.trans (not_tainting_of_comes (P := .nothing) (J := fun _ => True)
      (staysIn_step (Drain.obeys_deschedule n)) hempty he trivial id)
  · cases hisolate : n.isolate with
    | false =>
      simp only [hisolate, Bool.false_eq_true, if_false] at hc
      exact absurd hc (not_comes_modify _)
    | true =>
      simp only [hisolate, if_true] at hc
      rcases comes_bind hc with htainting | ⟨_, _, _, _, _, -, -, -, hc⟩
      · refine ⟨n, by simp, hisolate, ?_, (doneIn_of_ok hs).within ⟨[], h₂, by simp⟩⟩
        by_contra hname
        cases htaint.symm.trans (not_tainting_of_comes (J := fun _ => True)
          (staysIn_stepInTurn (staysIn_taintNode n.name)) htainting he trivial
          fun hP => hname (Mark.tainted.inj hP.1))
      · exact absurd hc (not_comes_modify _)

/-! Whole passes. -/

theorem not_comes_advance {next : Phase} : ¬ (advance next).Comes others l s before e m := by
  rintro ⟨rest, r, l', hs, -⟩
  unfold Pass.Says at hs
  rw [run_advance] at hs
  split at hs
  · simpa using hs.1
  · simpa using hs.1

theorem comes_advance_bind {next : Phase} {f : Unit → Pass Unit}
    (hc : (advance next >>= f).Comes others l s before e m) :
    ∃ phase, (f ()).Comes others (l.inPhase phase) s before e m := by
  rcases comes_bind hc with hc | ⟨_, k, h₁, h₂, d, rfl, hs, hf, hc⟩
  · exact absurd hc not_comes_advance
  · unfold Pass.Says at hs
    rw [run_advance] at hs
    split at hs
    · next phase _ =>
      obtain ⟨rfl, heq⟩ := hs
      cases heq
      cases hf
      exact ⟨phase, hc⟩
    · cases hs.2

/-- Pods are removed by the start of a pass only, from a node that is being emptied. -/
theorem drains_of_start (hc : start.Comes others l s before e m) (he : e.1.drains = true) :
    ∃ n ∈ l.nodes, Emptying n before e := by
  obtain ⟨phase, hc⟩ := comes_advance_bind hc
  obtain ⟨n, hn, k, h₁, h₂, d, rfl, hround⟩ := comes_forM (comes_get.1 hc)
  exact ⟨n, hn, (drains_of_startNode hround he).after⟩

theorem emptied_of_start (hc : start.Comes others l s before e m)
    (he : e.1 = .cluster (.call (.setNodeTaints node taints)))
    (htaint : Repelling.hasTaint taints = true) : Emptied l.nodes before node.name := by
  obtain ⟨phase, hc⟩ := comes_advance_bind hc
  obtain ⟨n, hn, k, h₁, h₂, d, rfl, hround⟩ := comes_forM (comes_get.1 hc)
  exact (emptied_of_startNode hround he htaint).after fun u hu => List.mem_singleton.1 hu ▸ hn

/-- While the nodes are emptied, none is opened. -/
theorem closed_of_start (hnode : Untouched others (.closed n.name))
    (hc : start.Comes others l s before e m) (hs : s.cluster.shows (.closed n.name) = true) :
    m.cluster.shows (.closed n.name) = true := by
  refine ((steady_shows hnode).of_visits (staysIn_start l.nodes l.marked l ⟨rfl, rfl⟩) hc.visits
    hs).resolve_right ?_
  rintro ⟨hb, -⟩
  cases hb

/-- When a node is brought into line, pods are removed from it only once it is closed. -/
theorem drains_of_convergeNode (hc : (convergeNode n).Comes others l s before e m)
    (he : e.1.drains = true) : Emptying n before e ∧
      (Untouched others (.closed n.name) → m.cluster.shows (.closed n.name) = true) := by
  rw [convergeNode_eq] at hc
  rcases comes_bind (comes_get.1 hc) with hc | ⟨_, k₁, h₁, _, d₁, rfl, -, -, hc⟩
  · cases he.symm.trans ((inTurn_removeDropped n _).drains hc)
  rcases comes_bind hc with hc | ⟨isolated, k₂, h₂, _, d₂, rfl, -, -, hc⟩
  · cases he.symm.trans ((inTurn_stepInTurn _ _ _).drains hc)
  cases isolated with
  | true => cases he.symm.trans ((inTurn_adjust n _).drains hc)
  | false =>
    rcases comes_bind hc with hc | ⟨_, k₃, h₃, h₄, d₃, rfl, hs, hf, hstart⟩
    · cases he.symm.trans ((inTurn_prepareNode n).drains hc)
    · refine ⟨(drains_of_startNode hstart he).after.after.after, fun hnode => ?_⟩
      refine ((steady_shows hnode).of_visits
        (staysIn_startNode (J := fun _ => True) n (fun _ _ => trivial) k₃ trivial) hstart.visits
        (closed_of_prepareNode hnode (runs_of_follows hs hf))).resolve_right ?_
      rintro ⟨hb, -⟩
      cases hb

theorem emptied_of_convergeNode (hc : (convergeNode n).Comes others l s before e m)
    (he : e.1 = .cluster (.call (.setNodeTaints node taints)))
    (htaint : Repelling.hasTaint taints = true) : Emptied [n] before node.name := by
  -- Of the parts only the start of the node puts the taint on.
  have hsilent {P : Footprint} {α : Type} {p : Pass α} {l s before}
      (hp : StaysIn P (fun _ => True) p) (hP : ¬ P (.tainted node.name) true) :
      ¬ p.Comes others l s before e m := fun hc => by
    cases htaint.symm.trans (not_tainting_of_comes hp hc he trivial hP)
  rw [convergeNode_eq] at hc
  rcases comes_bind (comes_get.1 hc) with hc | ⟨_, k₁, h₁, _, d₁, rfl, -, -, hc⟩
  · refine absurd hc (hsilent (P := fun _ b => b = false) ?_ (by simp))
    cases l.records.get? n.name with
    | none => exact staysIn_pure ()
    | some o => exact (staysIn_removeTolerations _ _).mono fun _ _ h => h.2
  rcases comes_bind hc with hc | ⟨isolated, k₂, h₂, _, d₂, rfl, -, -, hc⟩
  · exact absurd hc (hsilent (P := .nothing) (staysIn_stepInTurn (staysIn_isIsolated _)) id)
  cases isolated with
  | true => exact absurd hc (hsilent (staysIn_adjust n _) (by simp))
  | false =>
    rcases comes_bind hc with hc | ⟨_, k₃, h₃, h₄, d₃, rfl, hs, hf, hstart⟩
    · refine absurd hc (hsilent (staysIn_prepareNode n) ?_)
      rintro ⟨-, hm | ⟨-, r, -, hm⟩⟩ <;> cases hm
    · exact (((emptied_of_startNode hstart he htaint).after fun _ h => h).after
        fun _ h => h).after fun _ h => h

/-- A quarantine that is not in place is prepared, and once its nodes are closed it is started. -/
theorem comes_settle_false (hc : (settle false).Comes others l s before e m) :
    prepare.Comes others l s before e m ∨
      ∃ k h₁ h₂ d, before = h₁ ++ h₂ ∧ k.nodes = l.nodes ∧ start.Comes others k d h₂ e m ∧
        ∀ n ∈ l.nodes, Untouched others (.closed n.name) →
          d.cluster.shows (.closed n.name) = true := by
  rcases comes_bind hc with hc | ⟨_, k, h₁, h₂, d, rfl, hs, hf, hc⟩
  · exact .inl hc
  · have hrun := runs_of_follows hs hf
    have hk := (kept_of_runs (staysIn_prepare l.nodes l.marked) ⟨rfl, rfl⟩ hrun).1
    exact .inr ⟨k, h₁, h₂, d, rfl, hk, hc, fun n hn hnode => closed_of_prepare hn hnode hrun⟩

/-- One that is in place has its dropped nodes reversed, and a node of the request brought into
line. -/
theorem comes_settle_true (hc : (settle true).Comes others l s before e m) :
    (∃ phase, reverseMarked.Comes others (l.inPhase phase) s before e m) ∨
      ∃ n ∈ l.nodes, ∃ k h₁ h₂ d, before = h₁ ++ h₂ ∧ (convergeNode n).Comes others k d h₂ e m := by
  have hupdate : update.Comes others l s before e m := hc
  rw [update_eq] at hupdate
  obtain ⟨phase, hrest⟩ := comes_advance_bind hupdate
  rcases comes_bind hrest with hreverse | ⟨_, k, h₁, h₂, d, rfl, hs, hf, hrest⟩
  · exact .inl ⟨phase, hreverse⟩
  have hk : k.nodes = l.nodes := by
    refine (kept_of_runs (staysIn_reverseMarked l.nodes l.marked) ?_ (runs_of_follows hs hf)).1
    exact ⟨rfl, rfl⟩
  rcases comes_bind (comes_get.1 hrest) with hfirst | ⟨_, _, _, _, _, -, -, -, hlast⟩
  · unfold convergeFirst at hfirst
    cases hfind : k.firstChanged with
    | none =>
      rw [hfind] at hfirst
      exact absurd hfirst (not_comes_pure ())
    | some n =>
      rw [hfind] at hfirst
      exact .inr ⟨n, hk ▸ List.mem_of_find?_eq_some hfind, k, h₁, h₂, d, rfl, hfirst⟩
  · exact absurd hlast not_comes_advance

/-- Pods are removed only from a node of the request that is being emptied, and this node is closed
then.  If the quarantine is not in place yet then all nodes of the request are. -/
theorem closed_of_settle {wasActive : Bool} (hc : (settle wasActive).Comes others l s before e m)
    (he : e.1.drains = true) : ∃ n ∈ l.nodes, Emptying n before e ∧
      ∀ u ∈ l.nodes, wasActive = false ∨ u = n → Untouched others (.closed u.name) →
        m.cluster.shows (.closed u.name) = true := by
  cases wasActive with
  | false =>
    rcases comes_settle_false hc with hc | ⟨k, h₁, h₂, d, rfl, hk, hstart, hclosed⟩
    · cases he.symm.trans (inTurn_prepare.drains hc)
    · obtain ⟨n, hn, hempty⟩ := drains_of_start hstart he
      exact ⟨n, hk ▸ hn, hempty.after, fun u hu _ hnode =>
        closed_of_start hnode hstart (hclosed u hu hnode)⟩
  | true =>
    rcases comes_settle_true hc with ⟨phase, hc⟩ | ⟨n, hn, k, h₁, h₂, d, rfl, hconverge⟩
    · cases he.symm.trans (inTurn_reverseMarked.drains hc)
    · obtain ⟨hempty, hclosed⟩ := drains_of_convergeNode hconverge he
      refine ⟨n, hn, hempty.after, fun u _ hu hnode => ?_⟩
      rcases hu with hfalse | rfl
      · cases hfalse
      · exact hclosed hnode

/-- The taint is put only on a node of the request that has been emptied. -/
theorem emptied_of_settle {wasActive : Bool} (hc : (settle wasActive).Comes others l s before e m)
    (he : e.1 = .cluster (.call (.setNodeTaints node taints)))
    (htaint : Repelling.hasTaint taints = true) : Emptied l.nodes before node.name := by
  cases wasActive with
  | false =>
    rcases comes_settle_false hc with hc | ⟨k, h₁, h₂, d, rfl, hk, hstart, -⟩
    · have hsilent : ¬ (clears l.marked (.tainted node.name) true ∨
          prepares l.nodes (.tainted node.name) true) := by
        rintro (⟨-, hb⟩ | ⟨-, n, -, hm | ⟨-, r, -, hm⟩⟩)
        · cases hb
        · cases hm
        · cases hm
      cases htaint.symm.trans (not_tainting_of_comes (staysIn_prepare l.nodes l.marked) hc he
        ⟨rfl, rfl⟩ hsilent)
    · exact (emptied_of_start hstart he htaint).after fun u hu => hk ▸ hu
  | true =>
    rcases comes_settle_true hc with ⟨phase, hc⟩ | ⟨n, hn, k, h₁, h₂, d, rfl, hconverge⟩
    · cases htaint.symm.trans (not_tainting_of_comes (staysIn_reverseMarked l.nodes l.marked)
        hc he ⟨rfl, rfl⟩ fun hP => by cases hP.2)
    · exact (emptied_of_convergeNode hconverge he htaint).after
        fun u hu => List.mem_singleton.1 hu ▸ hn

end Start

end Lifecycle

end Cordon
