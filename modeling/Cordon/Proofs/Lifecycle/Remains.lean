import Cordon.Proofs.Lifecycle.Errands

/-! # What is left of the records

A pass goes through the nodes that are to be given up in turn, and stops at the first one that it
fails on.  So the records that are left, however the pass ends, are those of the nodes that it has
not come to the end of: a record is dropped only if each step that gives its node up has succeeded
(`GivenUp`), and then it is dropped (`Aftermath`).

`aftermath_of_settle` and `aftermath_of_stop` say this of whole passes, of those that fail as well.
A node that has been given up can be told from the dialogue alone, since no pass opens a node to
scheduling but for the last of these steps (`reopens_of_givenUp`).
-/

namespace Cordon

namespace Pass

open Lifecycle (step stepInTurn)

variable {α β : Type} {l l' : Lifecycle} {h : Dialogue Effects}

/-- A part of a pass that has succeeded in a dialogue. -/
def DoneIn (p : Pass Unit) (h : Dialogue Effects) : Prop :=
  ∃ before during after l l', h = before ++ during ++ after ∧ p.Says l during (.ok ()) l'

theorem doneIn_of_ok {p : Pass Unit} (hs : p.Says l h (.ok ()) l') : p.DoneIn h :=
  ⟨[], h, [], l, l', by simp, hs⟩

theorem DoneIn.within {p : Pass Unit} {k : Dialogue Effects} (hp : p.DoneIn h)
    (hk : ∃ before after, k = before ++ h ++ after) : p.DoneIn k := by
  obtain ⟨before, during, after, l, l', rfl, hs⟩ := hp
  obtain ⟨before', after', rfl⟩ := hk
  exact ⟨before' ++ before, during, after ++ after', l, l', by simp, hs⟩

/-! ## Passes that leave the lifecycle alone -/

/-- A pass that leaves the lifecycle as it is, however it ends. -/
def Leaves (p : Pass α) : Prop := ∀ l h r l', p.Says l h r l' → l' = l

theorem leaves_pure (a : α) : Leaves (pure a : Pass α) := fun _ _ _ _ hs => (says_pure hs).2.2

theorem leaves_step (label node : String) (q : ExceptT IsolationError (Program Drain.Api) α) :
    Leaves (step label node q) := fun _ _ _ _ hs => (says_step hs).2.2

theorem leaves_bind {p : Pass α} {f : α → Pass β} (hp : Leaves p) (hf : ∀ a, Leaves (f a)) :
    Leaves (p >>= f) := by
  intro l h r l' hs
  rcases says_bind.1 hs with ⟨a, k, h₁, h₂, -, hs₁, hs₂⟩ | ⟨e, -, hs₁⟩
  · exact (hf a _ _ _ _ hs₂).trans (hp _ _ _ _ hs₁)
  · exact hp _ _ _ _ hs₁

theorem leaves_forM {as : List α} {f : α → Pass Unit} (hf : ∀ a, Leaves (f a)) :
    Leaves (as.forM f) := by
  induction as with
  | nil => exact leaves_pure ()
  | cons a rest ih => exact leaves_bind (hf a) fun _ => ih

/-! ## Steps of one call -/

/-- A step that makes one call asks for it within its limit, and nothing else. -/
theorem says_oneCall {label node : String} {p : Clustered Unit} {c : ClusterCall}
    {f : Except IsolationError c.Reply → Except IsolationError Unit}
    (hp : p.run = Program.ask (I := ClusterApi) c fun answer => .done (f answer))
    {r : Except ControllerError Unit} (hs : (stepInTurn label node p).Says l h r l') :
    ∃ answer : Option (Except IsolationError c.Reply),
      h = [⟨.arm l.timeout, ()⟩, ⟨.cluster (.call c), answer⟩, ⟨.disarm, ()⟩] ∧
      (r = .ok () ↔ ∃ a, answer = some a ∧ f a = .ok ()) := by
  have hrun : (Drain.sequentially p).run =
      Program.ask (I := Drain.Api) (.call c) fun answer => .done (f answer) := by
    show Program.interpret _ p.run = _
    rw [hp]
    rfl
  unfold Says stepInTurn at hs
  rw [run_step, hrun] at hs
  obtain ⟨o, h₁, h₂, rfl, hw, hr⟩ := Program.speaks_andThen.1 hs
  rw [within_eq] at hw
  obtain ⟨_, rest, rfl, hw⟩ := hw
  obtain ⟨_, h₃, h₄, rfl, hq, _, _, rfl, rfl, rfl⟩ := Program.speaks_andThen.1 hw
  rw [Effects.interruptible] at hq
  obtain ⟨answer, rest, rfl, hq⟩ := hq
  -- The program is over with the only answer it asks for, or with none if the limit is reached.
  have hend : rest = [] ∧ o = answer.map f := by
    cases answer with
    | none => exact hq
    | some a => exact hq
  obtain ⟨rfl, rfl⟩ := hend
  refine ⟨answer, ?_⟩
  cases answer with
  | none =>
    obtain ⟨rfl, hr⟩ := hr
    cases hr
    exact ⟨rfl, by simp⟩
  | some a =>
    simp only [Option.map_some] at hr
    cases hf : f a with
    | ok u =>
      rw [hf] at hr
      obtain ⟨rfl, hr⟩ := hr
      cases hr
      exact ⟨rfl, by simp [hf]⟩
    | error e =>
      rw [hf] at hr
      obtain ⟨rfl, hr⟩ := hr
      cases hr
      exact ⟨rfl, by simp [hf]⟩

/-- A step begins with its first call. -/
theorem asked_of_doneIn {label node : String} {p : Clustered Unit} {c : ClusterCall}
    {resume : Except IsolationError c.Reply → Program ClusterApi (Except IsolationError Unit)}
    (hp : p.run = Program.ask (I := ClusterApi) c resume)
    (hd : DoneIn (stepInTurn label node p) h) :
    ∃ e ∈ h, e.1 = .cluster (.call c) := by
  obtain ⟨before, during, after, l, l', rfl, hs⟩ := hd
  have hrun : (Drain.sequentially p).run = Program.ask (I := Drain.Api) (.call c) fun answer =>
      (resume answer).interpret fun c => Program.query (I := Drain.Api) (.call c) := by
    show Program.interpret _ p.run = _
    rw [hp]
    rfl
  unfold Says stepInTurn at hs
  rw [run_step, hrun] at hs
  obtain ⟨_, h₁, _, rfl, hw, -⟩ := Program.speaks_andThen.1 hs
  rw [within_eq] at hw
  obtain ⟨_, _, rfl, hw⟩ := hw
  obtain ⟨_, _, _, rfl, hq, -⟩ := Program.speaks_andThen.1 hw
  rw [Effects.interruptible] at hq
  obtain ⟨answer, _, rfl, -⟩ := hq
  exact ⟨⟨.cluster (.call c), answer⟩, by simp, rfl⟩

end Pass

/-- The outcome of a call whose object may be absent. -/
def Isolation.absentOk : Except IsolationError Unit → Except IsolationError Unit
  | .ok _ => .ok ()
  | .error e => if e.isNotFound then .ok () else .error e

theorem Isolation.absentOk_eq_ok {a : Except IsolationError Unit} :
    absentOk a = .ok () ↔ ∀ e, a = .error e → e.isNotFound = true := by
  cases a with
  | ok u => simp [absentOk]
  | error e =>
    unfold absentOk
    split <;> simp_all

theorem Isolation.run_orAbsent (p : Clustered Unit) :
    (orAbsent p).run = p.run.andThen fun r => .done (absentOk r) := by
  show p.run.andThen _ = _
  refine congrArg _ (funext fun r => ?_)
  cases r with
  | ok u => rfl
  | error e =>
    show ExceptT.run (if e.isNotFound then pure () else throw e) = _
    cases h : e.isNotFound with
    | true => simp [absentOk, h]
    | false => simp [absentOk, h]

theorem not_mem_of_grounded {L : Licence} {c : ClusterCall} (hL : ∀ k, ¬ L k c) {k : Heard}
    {h : Dialogue Effects} (hg : Grounded L k h)
    (answer : Option (Except IsolationError c.Reply)) :
    ⟨.cluster (.call c), answer⟩ ∉ h := by
  intro hmem
  obtain ⟨before, after, rfl⟩ := List.append_of_mem hmem
  exact hL _ (hg before _ after rfl c rfl)

namespace Lifecycle

open Pass Isolation

variable {l l' : Lifecycle} {h : Dialogue Effects} {u : Target}

/-! ## Nodes that are given up -/

/-- Each step that gives a node up has succeeded in a dialogue. -/
structure GivenUp (u : Target) (h : Dialogue Effects) : Prop where
  untainted : DoneIn (stepInTurn "untaint" u.name (untaintNode u.name)) h
  stripped : ∀ r ∈ u.resources,
    DoneIn (stepInTurn "remove tolerations for" u.name (removeToleration r)) h
  recalled : DoneIn
    (stepInTurn "remove debug pod from" u.name
      (removeDebug u.debugPodName u.debug.namespaceName)) h
  emptied : DoneIn
    (stepInTurn "remove quarantined pods from" u.name (removeIsolatedPods u.name)) h
  reopened : DoneIn (stepInTurn "uncordon" u.name (enableScheduling u.name)) h

theorem GivenUp.within {k : Dialogue Effects} (hu : GivenUp u h)
    (hk : ∃ before after, k = before ++ h ++ after) : GivenUp u k where
  untainted := hu.untainted.within hk
  stripped r hr := (hu.stripped r hr).within hk
  recalled := hu.recalled.within hk
  emptied := hu.emptied.within hk
  reopened := hu.reopened.within hk

theorem leaves_removeTolerations (node : String) (resources : List ResourceRef) :
    Leaves (removeTolerations node resources) := leaves_forM fun _ => leaves_step _ _ _

theorem leaves_undo (u : Target) : Leaves (undo u) :=
  leaves_bind (leaves_step _ _ _) fun _ => leaves_bind (leaves_removeTolerations _ _) fun _ =>
    leaves_bind (leaves_step _ _ _) fun _ => leaves_bind (leaves_step _ _ _) fun _ =>
      leaves_step _ _ _

theorem leaves_prepareNode (n : Target) : Leaves (prepareNode n) := by
  rw [prepareNode_eq]
  refine leaves_bind ?_ fun _ => leaves_bind (leaves_step _ _ _) fun isolated => ?_
  · unfold deployIfAsked
    split
    · exact leaves_step _ _ _
    · exact leaves_pure ()
  · split
    · exact leaves_pure ()
    · exact leaves_bind (leaves_step _ _ _) fun _ => leaves_step _ _ _

theorem doneIn_of_removeTolerations {node : String} {resources : List ResourceRef}
    (hs : (removeTolerations node resources).Says l h (.ok ()) l') {r : ResourceRef}
    (hr : r ∈ resources) :
    DoneIn (stepInTurn "remove tolerations for" node (removeToleration r)) h := by
  induction resources generalizing l h with
  | nil => cases hr
  | cons a rest ih =>
    obtain ⟨_, k, h₁, h₂, rfl, hhead, hrest⟩ := says_bind_ok
      (show (stepInTurn _ node (removeToleration a) >>= fun _ =>
        removeTolerations node rest).Says l h (.ok ()) l' from hs)
    rcases List.mem_cons.1 hr with rfl | hr
    · exact (doneIn_of_ok hhead).within ⟨[], h₂, by simp⟩
    · exact (ih hrest hr).within ⟨h₁, [], by simp⟩

theorem givenUp_of_undo (hs : (undo u).Says l h (.ok ()) l') : GivenUp u h := by
  obtain ⟨_, l₁, h₁, _, rfl, huntaint, hs⟩ := says_bind_ok hs
  obtain ⟨_, l₂, h₂, _, rfl, hstrip, hs⟩ := says_bind_ok hs
  obtain ⟨_, l₃, h₃, _, rfl, hdebug, hs⟩ := says_bind_ok hs
  obtain ⟨_, l₄, h₄, h₅, rfl, hpods, hopen⟩ := says_bind_ok hs
  exact {
    untainted := (doneIn_of_ok huntaint).within ⟨[], h₂ ++ (h₃ ++ (h₄ ++ h₅)), by simp⟩
    stripped := fun r hr =>
      (doneIn_of_removeTolerations hstrip hr).within ⟨h₁, h₃ ++ (h₄ ++ h₅), by simp⟩
    recalled := (doneIn_of_ok hdebug).within ⟨h₁ ++ h₂, h₄ ++ h₅, by simp⟩
    emptied := (doneIn_of_ok hpods).within ⟨h₁ ++ (h₂ ++ h₃), h₅, by simp⟩
    reopened := (doneIn_of_ok hopen).within ⟨h₁ ++ (h₂ ++ (h₃ ++ h₄)), [], by simp⟩ }

/-! ## Nodes that are opened -/

/-- A node has been opened to scheduling in a dialogue, or was found to be absent. -/
def Reopens (name : String) (h : Dialogue Effects) : Prop :=
  ∃ answer : Except IsolationError Unit,
    ⟨.cluster (.call (.uncordonNode name)), some answer⟩ ∈ h ∧ absentOk answer = .ok ()

theorem reopens_append {name : String} {h₁ h₂ : Dialogue Effects} :
    Reopens name (h₁ ++ h₂) ↔ Reopens name h₁ ∨ Reopens name h₂ := by
  simp only [Reopens, List.mem_append, or_and_right, exists_or]

theorem run_enableScheduling (node : String) : (enableScheduling node).run =
    Program.ask (I := ClusterApi) (.uncordonNode node) fun answer => .done (absentOk answer) :=
  run_orAbsent (call (.uncordonNode node))

/-- The step that opens a node succeeds exactly if the node has been opened. -/
theorem reopens_iff_ok {label node : String} {r : Except ControllerError Unit}
    (hs : (stepInTurn label node (enableScheduling u.name)).Says l h r l') :
    Reopens u.name h ↔ r = .ok () := by
  obtain ⟨answer, rfl, hr⟩ := says_oneCall (run_enableScheduling u.name) hs
  rw [hr]
  constructor
  · rintro ⟨a, hmem, hok⟩
    simp only [List.mem_cons, List.not_mem_nil, or_false, Sigma.mk.injEq, reduceCtorEq, false_and,
      false_or, heq_eq_eq, true_and] at hmem
    exact ⟨a, hmem.symm, hok⟩
  · rintro ⟨a, rfl, hok⟩
    exact ⟨a, by simp, hok⟩

theorem reopens_of_givenUp (hu : GivenUp u h) : Reopens u.name h := by
  obtain ⟨before, during, after, l, l', rfl, hs⟩ := hu.reopened
  have hreopens := (reopens_iff_ok hs).2 rfl
  simp only [reopens_append]
  exact .inl (.inr hreopens)

/-- Nodes are opened only where that is part of the errand. -/
theorem reopens_of_grounded {E : Errand} {k : Heard} (hg : Grounded E.Allows k h) {name : String}
    (hopens : Reopens name h) : E.reopens name := by
  obtain ⟨answer, hmem, -⟩ := hopens
  by_contra hname
  refine not_mem_of_grounded (fun k hallows => hname ?_) hg _ hmem
  cases hallows with
  | reopen h => exact h

/-- All that gives a node up, but for opening it. -/
def withdraw (u : Target) : Pass Unit := do
  stepInTurn "untaint" u.name (untaintNode u.name)
  removeTolerations u.name u.resources
  stepInTurn "remove debug pod from" u.name (removeDebug u.debugPodName u.debug.namespaceName)
  stepInTurn "remove quarantined pods from" u.name (removeIsolatedPods u.name)

theorem undo_eq (u : Target) : undo u = withdraw u >>= fun _ =>
    stepInTurn "uncordon" u.name (enableScheduling u.name) := by
  simp only [undo, withdraw, bind_assoc]

/-- The errand of giving a node up, but for opening it. -/
def withdrawing (u : Target) : Errand := { Errand.reverting u with reopens := fun _ => False }

theorem keepsTo_withdraw (u : Target) : KeepsTo (withdrawing u) (fun _ => True) (withdraw u) :=
  keepsTo_bind (keepsTo_stepInTurn fun _ => consults_untaintNode rfl) fun _ =>
    keepsTo_bind (keepsTo_forM fun r hr => keepsTo_stepInTurn fun _ =>
      consults_removeToleration (E := withdrawing u) ⟨r, hr, rfl⟩) fun _ =>
        keepsTo_bind (keepsTo_stepInTurn fun _ => consults_removeDebug rfl) fun _ =>
          keepsTo_stepInTurn fun _ => consults_removeListed rfl

/-- A node is opened last, so no node has been opened if its steps fail. -/
theorem not_reopens_of_undo_error {e : ControllerError} (hs : (undo u).Says l h (.error e) l')
    (name : String) : ¬ Reopens name h := by
  have hsilent : ∀ {l' h r}, (withdraw u).Says l h r l' → ¬ Reopens name h := fun hs =>
    reopens_of_grounded ((keepsTo_withdraw u).grounded trivial hs ∅)
  rw [undo_eq] at hs
  rcases says_bind.1 hs with ⟨_, k, h₁, h₂, rfl, hfirst, hlast⟩ | ⟨_, -, hfirst⟩
  · rw [reopens_append, not_or]
    refine ⟨hsilent hfirst, fun hopens => ?_⟩
    have hname : name = u.name := reopens_of_grounded (E := .reverting u)
      ((keepsTo_stepInTurn (J := fun _ => True) fun _ => consults_enableScheduling rfl).grounded
        trivial hlast ∅) hopens
    subst hname
    cases (reopens_iff_ok hlast).1 hopens
  · exact hsilent hfirst

theorem course_of_reverseNode {r : Except ControllerError Unit}
    (hs : (reverseNode u).Says l h r l') :
    (r = .ok () ∧ l' = l.forgotten u ∧ GivenUp u h ∧ ∀ name, Reopens name h → u.name = name) ∨
      (∃ e, r = .error e) ∧ l' = l ∧ ∀ name, ¬ Reopens name h := by
  rw [reverseNode_eq] at hs
  rcases says_bind.1 hs with ⟨_, k, h₁, h₂, rfl, hundo, hforget⟩ | ⟨e, rfl, hundo⟩
  · obtain ⟨rfl, rfl, rfl⟩ := says_modify hforget
    cases leaves_undo u _ _ _ _ hundo
    rw [List.append_nil]
    refine .inl ⟨rfl, rfl, givenUp_of_undo hundo, fun name hopens => ?_⟩
    exact (reopens_of_grounded ((keepsTo_undo u).grounded (J := fun _ => True) trivial hundo ∅)
      hopens).symm
  · exact .inr ⟨⟨e, rfl⟩, leaves_undo u _ _ _ _ hundo, not_reopens_of_undo_error hundo⟩

/-! ## The records that are left -/

/-- What a pass leaves of a lifecycle: of the nodes that it was to give up it has given up the first
ones, and it has recorded some of the nodes of the request. -/
structure Aftermath (us : List Target) (l : Lifecycle) (h : Dialogue Effects) (l' : Lifecycle)
    (gone ns : List Target) : Prop where
  nodes : l'.nodes = l.nodes
  marked : l'.marked = l.marked
  records : l'.records = ns.foldl (fun d n => d.insert n.name n.observed)
    (gone.foldl (fun d u => d.erase u.name) l.records)
  recorded : ∀ n ∈ ns, n ∈ l.nodes
  first : gone <+: us
  givenUp : ∀ u ∈ gone, GivenUp u h
  reopened : ∀ name, Reopens name h → ∃ u ∈ gone, u.name = name

theorem not_reopens_nil {name : String} : ¬ Reopens name [] := by
  rintro ⟨_, hmem, -⟩
  cases hmem

/-- A silent pass that leaves the lifecycle, but for its phase. -/
theorem aftermath_of_leaves (hsilent : ∀ name, ¬ Reopens name h) (phase : Phase) :
    Aftermath [] l h (l.inPhase phase) [] [] where
  nodes := rfl
  marked := rfl
  records := rfl
  recorded := by simp
  first := List.nil_prefix
  givenUp := by simp
  reopened name hopens := (hsilent name hopens).elim

/-- After nodes have been given up, more are recorded. -/
theorem Aftermath.trans {us gone ns ns' : List Target} {k : Lifecycle} {h₁ h₂ : Dialogue Effects}
    (hl : Aftermath us l h₁ k gone ns) (hk : Aftermath [] k h₂ l' [] ns') :
    Aftermath us l (h₁ ++ h₂) l' gone (ns ++ ns') where
  nodes := hk.nodes.trans hl.nodes
  marked := hk.marked.trans hl.marked
  records := by
    rw [hk.records, hl.records, List.foldl_append]
    rfl
  recorded n hn := by
    rcases List.mem_append.1 hn with hn | hn
    · exact hl.recorded n hn
    · rw [← hl.nodes]
      exact hk.recorded n hn
  first := hl.first
  givenUp u hu := (hl.givenUp u hu).within ⟨[], h₂, by simp⟩
  reopened name hopens := by
    rcases reopens_append.1 hopens with hopens | hopens
    · exact hl.reopened name hopens
    · obtain ⟨u, hu, -⟩ := hk.reopened name hopens
      cases hu

/-- Nodes are given up in turn, up to the first one that fails. -/
theorem aftermath_of_reverseAll {us : List Target} {r : Except ControllerError Unit}
    (hs : (us.forM reverseNode).Says l h r l') : ∃ gone, Aftermath us l h l' gone [] := by
  induction us generalizing l h with
  | nil =>
    obtain ⟨rfl, rfl, rfl⟩ := says_pure (show (pure () : Pass Unit).Says l h r l' from hs)
    exact ⟨[], aftermath_of_leaves (fun _ => not_reopens_nil) l'.phase⟩
  | cons u rest ih =>
    change (reverseNode u >>= fun _ => rest.forM reverseNode).Says l h r l' at hs
    rcases says_bind.1 hs with ⟨_, k, h₁, h₂, rfl, hhead, hrest⟩ | ⟨e, rfl, hhead⟩
    · obtain ⟨-, rfl, hu, hopened⟩ | ⟨⟨_, he⟩, -⟩ := course_of_reverseNode hhead
      · obtain ⟨gone, hgone⟩ := ih hrest
        -- What the rest has done comes later in the dialogue, what was done here comes before it.
        refine ⟨u :: gone, hgone.nodes, hgone.marked, hgone.records, by simp,
          List.cons_prefix_cons.2 ⟨rfl, hgone.first⟩, fun v hv => ?_, fun name hopens => ?_⟩
        · rcases List.mem_cons.1 hv with rfl | hv
          · exact hu.within ⟨[], h₂, by simp⟩
          · exact (hgone.givenUp v hv).within ⟨h₁, [], by simp⟩
        · rcases reopens_append.1 hopens with hopens | hopens
          · exact ⟨u, by simp, hopened name hopens⟩
          · obtain ⟨v, hv, hname⟩ := hgone.reopened name hopens
            exact ⟨v, List.mem_cons_of_mem u hv, hname⟩
      · cases he
    · obtain ⟨hok, -⟩ | ⟨-, rfl, hsilent⟩ := course_of_reverseNode hhead
      · cases hok
      · exact ⟨[], rfl, rfl, rfl, by simp, List.nil_prefix, by simp,
          fun name hopens => (hsilent name hopens).elim⟩

/-- All nodes have been given up if none has failed. -/
theorem givenUp_of_reverseAll {us : List Target} (hs : (us.forM reverseNode).Says l h (.ok ()) l') :
    ∀ u ∈ us, GivenUp u h := by
  induction us generalizing l h with
  | nil => simp
  | cons u rest ih =>
    change (reverseNode u >>= fun _ => rest.forM reverseNode).Says l h (.ok ()) l' at hs
    obtain ⟨_, k, h₁, h₂, rfl, hhead, hrest⟩ := says_bind_ok hs
    refine List.forall_mem_cons.2 ⟨?_, fun v hv => (ih hrest v hv).within ⟨h₁, [], by simp⟩⟩
    obtain ⟨-, -, hu, -⟩ | ⟨⟨_, he⟩, -⟩ := course_of_reverseNode hhead
    · exact hu.within ⟨[], h₂, by simp⟩
    · cases he

/-! ### Nodes that are brought into shape -/

/-- All errands but those of giving a node up. -/
def upkeep : Errand := .all fun E => (∃ n, E = .shaping n) ∨ ∃ rs, E = .stripping rs

theorem shaping_upkeep (n : Target) : (Errand.shaping n).PartOf upkeep :=
  Errand.partOf_all (.inl ⟨n, rfl⟩)

theorem stripping_upkeep (rs : List ResourceRef) : (Errand.stripping rs).PartOf upkeep :=
  Errand.partOf_all (.inr ⟨rs, rfl⟩)

theorem silent_of_keepsTo {p : Pass Unit} {r : Except ControllerError Unit}
    (hp : KeepsTo upkeep (fun _ => True) p) (hs : p.Says l h r l') (name : String) :
    ¬ Reopens name h := by
  intro hopens
  obtain ⟨_, ⟨_, rfl⟩ | ⟨_, rfl⟩, hopens⟩ := reopens_of_grounded (hp.grounded trivial hs ∅) hopens
  · exact hopens
  · exact hopens

/-- A node is recorded at the end, or not at all. -/
def Records (n : Target) (p : Pass Unit) : Prop :=
  ∀ l h r l', p.Says l h r l' → l' = l ∨ l' = l.recorded n

theorem records_bind {α : Type} {n : Target} {p : Pass α} {f : α → Pass Unit} (hp : Leaves p)
    (hf : ∀ a, Records n (f a)) : Records n (p >>= f) := by
  intro l h r l' hs
  rcases says_bind.1 hs with ⟨a, k, h₁, h₂, -, hs₁, hs₂⟩ | ⟨e, -, hs₁⟩
  · cases hp _ _ _ _ hs₁
    exact hf a _ _ _ _ hs₂
  · exact .inl (hp _ _ _ _ hs₁)

theorem records_record (n : Target) : Records n (record n) :=
  fun _ _ _ _ hs => .inr (says_modify hs).2.2

theorem records_startNode (n : Target) : Records n (startNode n) := by
  refine records_bind (leaves_step _ _ _) fun _ => ?_
  split
  · exact records_bind (leaves_step _ _ _) fun _ => records_record n
  · exact records_record n

theorem records_convergeNode (n : Target) : Records n (convergeNode n) := by
  rw [convergeNode_eq]
  intro l h r l' hs
  refine records_bind ?_ (fun _ => records_bind (leaves_step _ _ _) fun isolated => ?_) l h r l'
    (says_get.1 hs)
  · cases l.records.get? n.name with
    | some o => exact leaves_removeTolerations _ _
    | none => exact leaves_pure ()
  · split
    · refine records_bind (leaves_step _ _ _) fun _ => records_bind ?_ fun _ => records_record n
      unfold unisolate
      split
      · exact leaves_bind (leaves_step _ _ _) fun _ => leaves_removeTolerations _ _
      · exact leaves_pure ()
    · exact records_bind (leaves_prepareNode n) fun _ => records_startNode n

theorem aftermath_of_records {n : Target} {p : Pass Unit} (hp : Records n p)
    (hkeeps : KeepsTo upkeep (fun _ => True) p) {r : Except ControllerError Unit}
    (hn : n ∈ l.nodes) (hs : p.Says l h r l') : ∃ ns, Aftermath [] l h l' [] ns := by
  have hsilent := silent_of_keepsTo hkeeps hs
  rcases hp _ _ _ _ hs with rfl | rfl
  · exact ⟨[], aftermath_of_leaves hsilent l'.phase⟩
  · exact ⟨[n], rfl, rfl, rfl, by simpa using hn, List.nil_prefix, by simp,
      fun name hopens => (hsilent name hopens).elim⟩

theorem keepsTo_upkeep_startNode (n : Target) :
    KeepsTo upkeep (fun _ => True) (startNode n) :=
  (keepsTo_startNode n fun _ _ => trivial).mono (shaping_upkeep n)

theorem keepsTo_upkeep_convergeNode (n : Target) :
    KeepsTo upkeep (fun _ => True) (convergeNode n) :=
  keepsTo_convergeNode (shaping_upkeep n) (fun _ _ => trivial) fun _ _ _ _ => stripping_upkeep _

theorem aftermath_of_startAll {ts : List Target} {r : Except ControllerError Unit}
    (hts : ∀ n ∈ ts, n ∈ l.nodes) (hs : (ts.forM startNode).Says l h r l') :
    ∃ ns, Aftermath [] l h l' [] ns := by
  induction ts generalizing l h with
  | nil =>
    obtain ⟨rfl, rfl, rfl⟩ := says_pure (show (pure () : Pass Unit).Says l h r l' from hs)
    exact ⟨[], aftermath_of_leaves (fun _ => not_reopens_nil) l'.phase⟩
  | cons n rest ih =>
    change (startNode n >>= fun _ => rest.forM startNode).Says l h r l' at hs
    have hhead : ∀ {h r k}, (startNode n).Says l h r k → ∃ ns, Aftermath [] l h k [] ns :=
      aftermath_of_records (records_startNode n) (keepsTo_upkeep_startNode n) (hts n (by simp))
    rcases says_bind.1 hs with ⟨_, k, h₁, h₂, rfl, hs₁, hs₂⟩ | ⟨e, rfl, hs₁⟩
    · obtain ⟨ns, hfirst⟩ := hhead hs₁
      have hrest : ∀ n ∈ rest, n ∈ k.nodes := fun n hn =>
        hfirst.nodes ▸ hts n (List.mem_cons_of_mem _ hn)
      obtain ⟨ns', hlater⟩ := ih hrest hs₂
      exact ⟨_, hfirst.trans hlater⟩
    · exact hhead hs₁

/-! ### Whole passes -/

theorem says_advance_any {next : Phase} {r : Except ControllerError Unit}
    (hs : (advance next).Says l h r l') : h = [] ∧ ∃ phase, l' = l.inPhase phase := by
  unfold Says at hs
  rw [run_advance] at hs
  split at hs
  · obtain ⟨rfl, hr⟩ := hs
    cases hr
    exact ⟨rfl, _, rfl⟩
  · obtain ⟨rfl, hr⟩ := hs
    cases hr
    exact ⟨rfl, l.phase, rfl⟩

/-- The phase is of no account for what a pass leaves. -/
theorem Aftermath.of_inPhase {us gone ns : List Target} {phase : Phase}
    (hl : Aftermath us (l.inPhase phase) h l' gone ns) : Aftermath us l h l' gone ns :=
  ⟨hl.nodes, hl.marked, hl.records, hl.recorded, hl.first, hl.givenUp, hl.reopened⟩

theorem Aftermath.nothing {us : List Target} (phase : Phase) :
    Aftermath us l [] (l.inPhase phase) [] [] :=
  ⟨rfl, rfl, rfl, by simp, List.nil_prefix, by simp, fun _ hopens => (not_reopens_nil hopens).elim⟩

/-- A pass that moves to a phase and then gives the dropped nodes up, and goes on if it can. -/
theorem aftermath_of_reversing {next : Phase} {f : Unit → Pass Unit}
    {r : Except ControllerError Unit}
    (hf : ∀ l h r l', (f ()).Says l h r l' → ∃ ns, Aftermath [] l h l' [] ns)
    (hs : (advance next >>= fun _ => reverseMarked >>= f).Says l h r l') :
    ∃ gone ns, Aftermath l.marked l h l' gone ns := by
  rcases says_bind.1 hs with ⟨_, k, h₁, h₂, rfl, hs₁, hs₂⟩ | ⟨e, rfl, hs₁⟩
  · obtain ⟨rfl, phase, rfl⟩ := says_advance_any hs₁
    rcases says_bind.1 hs₂ with ⟨_, k, h₃, h₄, rfl, hs₃, hs₄⟩ | ⟨e, rfl, hs₃⟩
    · obtain ⟨gone, hgone⟩ := aftermath_of_reverseAll (says_get.1 hs₃)
      obtain ⟨ns, hlater⟩ := hf _ _ _ _ hs₄
      exact ⟨gone, _, (hgone.trans hlater).of_inPhase⟩
    · obtain ⟨gone, hgone⟩ := aftermath_of_reverseAll (says_get.1 hs₃)
      exact ⟨gone, [], hgone.of_inPhase⟩
  · obtain ⟨rfl, phase, rfl⟩ := says_advance_any hs₁
    exact ⟨[], [], .nothing phase⟩

theorem aftermath_of_update {r : Except ControllerError Unit} (hs : update.Says l h r l') :
    ∃ gone ns, Aftermath l.marked l h l' gone ns := by
  rw [update_eq] at hs
  refine aftermath_of_reversing (fun l h r l' hs => ?_) hs
  have hconverge : ∀ {h r k}, (convergeFirst l).Says l h r k →
      ∃ ns, Aftermath [] l h k [] ns := by
    intro h r k hs
    unfold convergeFirst at hs
    split at hs
    · next t hfirst =>
      exact aftermath_of_records (records_convergeNode t) (keepsTo_upkeep_convergeNode t)
        (List.mem_of_find?_eq_some hfirst) hs
    · obtain ⟨rfl, rfl, rfl⟩ := says_pure hs
      exact ⟨[], aftermath_of_leaves (fun _ => not_reopens_nil) k.phase⟩
  rcases says_bind.1 (says_get.1 hs) with ⟨_, k, h₁, h₂, rfl, hs₁, hs₂⟩ | ⟨e, rfl, hs₁⟩
  · obtain ⟨ns, hns⟩ := hconverge hs₁
    obtain ⟨rfl, phase, rfl⟩ := says_advance_any hs₂
    exact ⟨_, hns.trans (.nothing phase)⟩
  · exact hconverge hs₁

theorem aftermath_of_prepare {r : Except ControllerError Unit} (hs : prepare.Says l h r l') :
    ∃ gone ns, Aftermath l.marked l h l' gone ns := by
  refine aftermath_of_reversing (fun l h r l' hs => ?_) hs
  have hsilent := silent_of_keepsTo
    (keepsTo_forM fun n _ => (keepsTo_prepareNode n).mono (shaping_upkeep n)) (says_get.1 hs)
  cases leaves_forM leaves_prepareNode _ _ _ _ (says_get.1 hs)
  exact ⟨[], aftermath_of_leaves hsilent l.phase⟩

theorem aftermath_of_start {r : Except ControllerError Unit} (hs : start.Says l h r l') :
    ∃ ns, Aftermath [] l h l' [] ns := by
  rcases says_bind.1 hs with ⟨_, k, h₁, h₂, rfl, hs₁, hs₂⟩ | ⟨e, rfl, hs₁⟩
  · obtain ⟨rfl, phase, rfl⟩ := says_advance_any hs₁
    obtain ⟨ns, hns⟩ := aftermath_of_startAll (fun _ hn => hn) (says_get.1 hs₂)
    exact ⟨ns, hns.of_inPhase⟩
  · obtain ⟨rfl, phase, rfl⟩ := says_advance_any hs₁
    exact ⟨[], .nothing phase⟩

/-- A pass that settles a quarantine gives dropped nodes up, and records nodes of the request. -/
theorem aftermath_of_settle {wasActive : Bool} {r : Except ControllerError Unit}
    (hs : (settle wasActive).Says l h r l') : ∃ gone ns, Aftermath l.marked l h l' gone ns := by
  cases wasActive with
  | true => exact aftermath_of_update hs
  | false =>
    rcases says_bind.1 hs with ⟨_, k, h₁, h₂, rfl, hs₁, hs₂⟩ | ⟨e, rfl, hs₁⟩
    · obtain ⟨gone, ns, hfirst⟩ := aftermath_of_prepare hs₁
      obtain ⟨ns', hlater⟩ := aftermath_of_start hs₂
      exact ⟨gone, _, hfirst.trans hlater⟩
    · exact aftermath_of_prepare hs₁

/-- A stop gives nodes up, and records none. -/
theorem aftermath_of_stop {r : Except ControllerError Unit} (hs : stop.Says l h r l') :
    ∃ gone, Aftermath (l.nodes ++ l.marked) l h l' gone [] := by
  rcases says_bind.1 hs with ⟨_, k, h₁, h₂, rfl, hs₁, hs₂⟩ | ⟨e, rfl, hs₁⟩
  · obtain ⟨rfl, phase, rfl⟩ := says_advance_any hs₁
    rcases says_bind.1 (says_get.1 hs₂) with ⟨_, k, h₃, h₄, rfl, hs₃, hs₄⟩ | ⟨e, rfl, hs₃⟩
    · obtain ⟨gone, hgone⟩ := aftermath_of_reverseAll hs₃
      have hsilent : ∀ name, ¬ Reopens name h₄ := fun name hopens =>
        reopens_of_grounded (E := .sweeping)
          ((keepsTo_stepInTurn (J := fun _ => True) fun _ => consults_removeListed rfl).grounded
            trivial hs₄ ∅) hopens
      cases leaves_step _ _ _ _ _ _ _ hs₄
      exact ⟨gone, (hgone.trans (aftermath_of_leaves hsilent l'.phase)).of_inPhase⟩
    · obtain ⟨gone, hgone⟩ := aftermath_of_reverseAll hs₃
      exact ⟨gone, hgone.of_inPhase⟩
  · obtain ⟨rfl, phase, rfl⟩ := says_advance_any hs₁
    exact ⟨[], .nothing phase⟩

/-- A stop that succeeds has given all nodes up. -/
theorem givenUp_of_stop (hs : stop.Says l h (.ok ()) l') :
    ∀ u ∈ l.nodes ++ l.marked, GivenUp u h := by
  obtain ⟨_, k, h₁, h₂, rfl, hadvance, hs⟩ := says_bind_ok hs
  obtain ⟨rfl, phase, rfl⟩ := says_advance_any hadvance
  obtain ⟨_, k, h₃, h₄, rfl, hreverse, -⟩ := says_bind_ok (says_get.1 hs)
  exact fun u hu => (givenUp_of_reverseAll hreverse u hu).within ⟨[], h₄, by simp⟩

/-! ## Records that are dropped and kept -/

namespace Aftermath

variable {us gone ns : List Target} (hl : Aftermath us l h l' gone ns) {name : String}

include hl

/-- A record is dropped only if its node has been given up. -/
theorem mem_gone (hbefore : l.records.get? name ≠ none) (hafter : l'.records.get? name = none) :
    ∃ u ∈ gone, u.name = name := by
  by_contra hnone
  have hkept : (gone.foldl (fun d u => d.erase u.name) l.records).get? name ≠ none := by
    rw [get?_foldl_erase, if_neg (by simpa using hnone)]
    exact hbefore
  have hstill := Dict.get?_foldl_insert_ne_none (l := ns.map fun n => (n.name, n.observed))
    (.inl hkept)
  rw [List.foldl_map, ← hl.records] at hstill
  exact hstill hafter

/-- Of a node that has not been recorded, the record is left unless the node has been given up. -/
theorem get?_records (hns : ∀ n ∈ ns, n.name ≠ name) :
    l'.records.get? name = if name ∈ gone.map (·.name) then none else l.records.get? name := by
  have hkey : name ∉ (ns.map fun n => (n.name, n.observed)).map (·.1) := by simpa using hns
  have hfold := Dict.get?_foldl_insert (ns.map fun n => (n.name, n.observed))
    (gone.foldl (fun d u => d.erase u.name) l.records) hkey
  rw [List.foldl_map] at hfold
  rw [hl.records, hfold, get?_foldl_erase]

theorem named (hnamed : ∀ name o, l.records.get? name = some o → o.name = name) :
    ∀ name o, l'.records.get? name = some o → o.name = name := by
  have herased : ∀ name o, (gone.foldl (fun d u => d.erase u.name) l.records).get? name = some o →
      o.name = name := by
    intro name o ho
    rw [get?_foldl_erase] at ho
    split at ho
    · cases ho
    · exact hnamed name o ho
  have hinserted : ∀ (ns : List Target) (d : Dict ObservedNode),
      (∀ name o, d.get? name = some o → o.name = name) → ∀ name o,
      (ns.foldl (fun d n => d.insert n.name n.observed) d).get? name = some o → o.name = name := by
    intro ns
    induction ns with
    | nil => exact fun _ hd => hd
    | cons n rest ih =>
      refine fun d hd => ih _ fun name o ho => ?_
      rw [Dict.get?_insert] at ho
      split at ho
      · next heq =>
        cases ho
        exact heq
      · exact hd name o ho
  rw [hl.records]
  exact hinserted ns _ herased

end Aftermath

end Lifecycle

end Cordon
