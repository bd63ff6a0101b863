import Cordon.Proofs.Lifecycle.Load
import Cordon.Proofs.Run.Dialogue

/-! # What a pass does whatever it is answered

A pass speaks with the cluster alone: it asks for steps on nodes, each of them within a limit, and
neither the store nor the clock.  It fails with a step only (`inSteps_settle`, `inSteps_stop`).

What a pass makes of the lifecycle does not depend on the answers either, as long as it succeeds.
It records the nodes that it has brought into shape and forgets the dropped ones (`Gives`); a pass
that goes through the nodes of the request leaves them and the dropped nodes as they are.
-/

namespace Cordon

def Effects.Request.onCluster : Effects.Request → Bool
  | .cluster _ => true
  | _ => false

def Effects.Request.onStore : Effects.Request → Bool
  | .store (.getQuarantine _ _) => false
  | .store _ => true
  | _ => false

/-- Whether a question is part of a step on a node. -/
def Effects.Request.inStep : Effects.Request → Bool
  | .cluster _ | .arm _ | .disarm => true
  | .store _ | .now => false

/-- Whether an error is that of a step on a node. -/
def ControllerError.inStep : ControllerError → Bool
  | .nodeStep _ _ _ | .nodeStepTimeout _ _ _ => true
  | _ => false

def Lifecycle.inPhase (l : Lifecycle) (phase : Phase) : Lifecycle := { l with phase }

namespace Pass

open Lifecycle (step stepInTurn)

variable {α β : Type} {p : Pass α} {f : α → Pass β} {l k l' : Lifecycle} {h : Dialogue Effects}

/-- A pass has this dialogue and comes to this end. -/
def Says (p : Pass α) (l : Lifecycle) (h : Dialogue Effects) (r : Except ControllerError α)
    (l' : Lifecycle) : Prop :=
  (p.run.run l).Speaks h (r, l')

theorem says_bind {r : Except ControllerError β} :
    (p >>= f).Says l h r l' ↔
      (∃ a k h₁ h₂, h = h₁ ++ h₂ ∧ p.Says l h₁ (.ok a) k ∧ (f a).Says k h₂ r l') ∨
      ∃ e, r = .error e ∧ p.Says l h (.error e) l' := by
  unfold Says
  rw [run_bind, Program.speaks_andThen]
  constructor
  · rintro ⟨⟨ra, k⟩, h₁, h₂, rfl, hp, hf⟩
    cases ra with
    | ok a => exact .inl ⟨a, k, h₁, h₂, rfl, hp, hf⟩
    | error e =>
      obtain ⟨rfl, hr⟩ := hf
      cases hr
      exact .inr ⟨e, rfl, by simpa using hp⟩
  · rintro (⟨a, k, h₁, h₂, rfl, hp, hf⟩ | ⟨e, rfl, hp⟩)
    · exact ⟨(.ok a, k), h₁, h₂, rfl, hp, hf⟩
    · exact ⟨(.error e, l'), h, [], by simp, hp, rfl, rfl⟩

theorem says_bind_ok {b : β} (hs : (p >>= f).Says l h (.ok b) l') :
    ∃ a k h₁ h₂, h = h₁ ++ h₂ ∧ p.Says l h₁ (.ok a) k ∧ (f a).Says k h₂ (.ok b) l' := by
  rcases says_bind.1 hs with hs | ⟨e, he, -⟩
  · exact hs
  · cases he

theorem says_pure {a : α} {r : Except ControllerError α} (hs : (pure a : Pass α).Says l h r l') :
    h = [] ∧ r = .ok a ∧ l' = l := by
  obtain ⟨rfl, hr⟩ := hs
  cases hr
  exact ⟨rfl, rfl, rfl⟩

theorem says_modify {g : Lifecycle → Lifecycle} {r : Except ControllerError PUnit}
    (hs : (modify g : Pass PUnit).Says l h r l') : h = [] ∧ r = .ok ⟨⟩ ∧ l' = g l := by
  obtain ⟨rfl, hr⟩ := hs
  cases hr
  exact ⟨rfl, rfl, rfl⟩

theorem says_get {f : Lifecycle → Pass β} {r : Except ControllerError β} :
    (get >>= f).Says l h r l' ↔ (f l).Says l h r l' := Iff.rfl

theorem says_advance {next : Phase} {r : Except ControllerError Unit}
    (hallows : l.phase.allows next = true) (hs : (Lifecycle.advance next).Says l h r l') :
    h = [] ∧ r = .ok () ∧ l' = l.inPhase next := by
  unfold Says at hs
  have hmove : l.phase.transition next = .ok next := by
    rw [Phase.transition, Phase.move, if_pos hallows]
  rw [Lifecycle.run_advance, hmove] at hs
  obtain ⟨rfl, hr⟩ := hs
  cases hr
  exact ⟨rfl, rfl, rfl⟩

theorem inStep_of_interruptible {q : Program Drain.Api α} {o : Option α}
    (hs : (Effects.interruptible q).Speaks h o) : ∀ e ∈ h, e.1.inStep = true := by
  induction q generalizing h with
  | done a =>
    cases hs.1
    simp
  | ask r resume ih =>
    rw [Effects.interruptible] at hs
    obtain ⟨answer, rest, rfl, hs⟩ := hs
    have hrest : ∀ e ∈ rest, e.1.inStep = true := by
      cases answer with
      | some a => exact ih a hs
      | none =>
        cases hs.1
        simp
    simpa [Effects.Request.inStep] using hrest

/-- A step speaks with the cluster within its limit, and leaves the lifecycle alone. -/
theorem says_step {label node : String} {q : ExceptT IsolationError (Program Drain.Api) α}
    {r : Except ControllerError α} (hs : (step label node q).Says l h r l') :
    (∀ e ∈ h, e.1.inStep = true) ∧ (∀ err, r = .error err → err.inStep = true) ∧ l' = l := by
  unfold Says at hs
  rw [run_step] at hs
  obtain ⟨o, h₁, h₂, rfl, hw, hr⟩ := Program.speaks_andThen.1 hs
  rw [within_eq] at hw
  obtain ⟨_, rest, rfl, hw⟩ := hw
  obtain ⟨_, h₃, h₄, rfl, hq, _, _, rfl, rfl, rfl⟩ := Program.speaks_andThen.1 hw
  have hsteps := inStep_of_interruptible hq
  have hend : h₂ = [] ∧ (∀ err, r = .error err → err.inStep = true) ∧ l' = l := by
    rcases o with _ | (e | a)
    all_goals
      obtain ⟨rfl, hr⟩ := hr
      cases hr
      simp [ControllerError.inStep]
  obtain ⟨rfl, herror, rfl⟩ := hend
  refine ⟨fun e he => ?_, herror, rfl⟩
  simp only [List.append_nil, List.mem_cons, List.mem_append, List.not_mem_nil, or_false] at he
  rcases he with rfl | he | rfl
  · rfl
  · exact hsteps e he
  · rfl

/-! ## Passes that ask for steps only -/

/-- All that a pass asks is part of some step, and it fails with a step only. -/
def InSteps (p : Pass α) (l : Lifecycle) : Prop :=
  ∀ h r l', p.Says l h r l' →
    (∀ e ∈ h, e.1.inStep = true) ∧ ∀ err, r = .error err → err.inStep = true

theorem inSteps_pure (a : α) : InSteps (pure a : Pass α) l := by
  intro h r l' hs
  obtain ⟨rfl, rfl, -⟩ := says_pure hs
  simp

theorem inSteps_modify (g : Lifecycle → Lifecycle) : InSteps (modify g : Pass PUnit) l := by
  intro h r l' hs
  obtain ⟨rfl, rfl, -⟩ := says_modify hs
  simp

theorem inSteps_advance {next : Phase} (hallows : l.phase.allows next = true) :
    InSteps (Lifecycle.advance next) l := by
  intro h r l' hs
  obtain ⟨rfl, rfl, -⟩ := says_advance hallows hs
  simp

theorem inSteps_bind_of (hp : InSteps p l)
    (hf : ∀ h a k, p.Says l h (.ok a) k → InSteps (f a) k) : InSteps (p >>= f) l := by
  intro h r l' hs
  rcases says_bind.1 hs with ⟨a, k, h₁, h₂, rfl, hs₁, hs₂⟩ | ⟨e, rfl, hs₁⟩
  · obtain ⟨hdialogue, herror⟩ := hf _ _ _ hs₁ _ _ _ hs₂
    refine ⟨fun e he => ?_, herror⟩
    rcases List.mem_append.1 he with he | he
    · exact (hp _ _ _ hs₁).1 e he
    · exact hdialogue e he
  · obtain ⟨hdialogue, herror⟩ := hp _ _ _ hs₁
    refine ⟨hdialogue, fun err herr => ?_⟩
    cases herr
    exact herror e rfl

theorem inSteps_bind (hp : InSteps p l) (hf : ∀ a k, InSteps (f a) k) : InSteps (p >>= f) l :=
  inSteps_bind_of hp fun _ a k _ => hf a k

theorem inSteps_get {f : Lifecycle → Pass β} (hf : InSteps (f l) l) : InSteps (get >>= f) l :=
  fun h r l' hs => hf h r l' (says_get.1 hs)

theorem inSteps_step (label node : String) (q : ExceptT IsolationError (Program Drain.Api) α) :
    InSteps (step label node q) l := by
  intro h r l' hs
  obtain ⟨hdialogue, herror, -⟩ := says_step hs
  exact ⟨hdialogue, herror⟩

theorem inSteps_forM {as : List α} {f : α → Pass Unit} (hf : ∀ a k, InSteps (f a) k) :
    InSteps (as.forM f) l := by
  induction as generalizing l with
  | nil => exact inSteps_pure ()
  | cons a rest ih =>
    show InSteps (f a >>= fun _ => rest.forM f) l
    exact inSteps_bind (hf a l) fun _ _ => ih

/-! ## What becomes of the lifecycle -/

/-- A pass that succeeds leaves this lifecycle. -/
def Gives (p : Pass α) (l l₂ : Lifecycle) : Prop := ∀ h a l', p.Says l h (.ok a) l' → l' = l₂

theorem gives_pure (a : α) : Gives (pure a : Pass α) l l := by
  intro h b l' hs
  exact (says_pure hs).2.2

theorem gives_modify (g : Lifecycle → Lifecycle) : Gives (modify g : Pass PUnit) l (g l) := by
  intro h b l' hs
  exact (says_modify hs).2.2

theorem gives_advance {next : Phase} (hallows : l.phase.allows next = true) :
    Gives (Lifecycle.advance next) l (l.inPhase next) := by
  intro h a l' hs
  exact (says_advance hallows hs).2.2

theorem gives_step (label node : String) (q : ExceptT IsolationError (Program Drain.Api) α) :
    Gives (step label node q) l l := fun _ _ _ hs => (says_step hs).2.2

theorem gives_bind {l₂ : Lifecycle} (hp : Gives p l k) (hf : ∀ a, Gives (f a) k l₂) :
    Gives (p >>= f) l l₂ := by
  intro h b l' hs
  obtain ⟨a, k', h₁, h₂, rfl, hs₁, hs₂⟩ := says_bind_ok hs
  cases hp _ _ _ hs₁
  exact hf a _ _ _ hs₂

theorem gives_get {f : Lifecycle → Pass β} {l₂ : Lifecycle} (hf : Gives (f l) l l₂) :
    Gives (get >>= f) l l₂ := fun h b l' hs => hf h b l' (says_get.1 hs)

theorem gives_forM {as : List α} {f : α → Pass Unit} {g : Lifecycle → α → Lifecycle}
    (hf : ∀ a l, Gives (f a) l (g l a)) : Gives (as.forM f) l (as.foldl g l) := by
  induction as generalizing l with
  | nil => exact gives_pure ()
  | cons a rest ih =>
    show Gives (f a >>= fun _ => rest.forM f) l _
    exact gives_bind (hf a l) fun _ => ih

end Pass

namespace Lifecycle

open Pass

/-! ## Parts of passes -/

section InSteps

variable {l : Lifecycle}

theorem inSteps_removeTolerations (node : String) (resources : List ResourceRef) :
    InSteps (removeTolerations node resources) l :=
  inSteps_forM fun _ _ => inSteps_step _ _ _

theorem inSteps_prepareNode (n : Target) : InSteps (prepareNode n) l := by
  rw [prepareNode_eq]
  refine inSteps_bind ?_ fun _ _ => inSteps_bind (inSteps_step _ _ _) fun isolated _ => ?_
  · unfold deployIfAsked
    split
    · exact inSteps_step _ _ _
    · exact inSteps_pure ()
  · split
    · exact inSteps_pure ()
    · exact inSteps_bind (inSteps_step _ _ _) fun _ _ => inSteps_step _ _ _

theorem inSteps_startNode (n : Target) : InSteps (startNode n) l := by
  refine inSteps_bind (inSteps_step _ _ _) fun _ _ => ?_
  split
  · exact inSteps_bind (inSteps_step _ _ _) fun _ _ => inSteps_modify _
  · exact inSteps_modify _

theorem inSteps_reverseNode (n : Target) : InSteps (reverseNode n) l :=
  inSteps_bind (inSteps_step _ _ _) fun _ _ =>
    inSteps_bind (inSteps_removeTolerations _ _) fun _ _ =>
      inSteps_bind (inSteps_step _ _ _) fun _ _ => inSteps_bind (inSteps_step _ _ _) fun _ _ =>
        inSteps_bind (inSteps_step _ _ _) fun _ _ => inSteps_modify _

theorem inSteps_reverseMarked : InSteps reverseMarked l :=
  inSteps_get (inSteps_forM fun _ _ => inSteps_reverseNode _)

theorem inSteps_convergeNode (n : Target) : InSteps (convergeNode n) l := by
  rw [convergeNode_eq]
  refine inSteps_get (inSteps_bind ?_ fun _ _ =>
    inSteps_bind (inSteps_step _ _ _) fun isolated _ => ?_)
  · cases l.records.get? n.name with
    | some o => exact inSteps_removeTolerations _ _
    | none => exact inSteps_pure ()
  · split
    · refine inSteps_bind (inSteps_step _ _ _) fun _ _ =>
        inSteps_bind ?_ fun _ _ => inSteps_modify _
      unfold unisolate
      split
      · exact inSteps_bind (inSteps_step _ _ _) fun _ _ => inSteps_removeTolerations _ _
      · exact inSteps_pure ()
    · exact inSteps_bind (inSteps_prepareNode n) fun _ _ => inSteps_startNode n

theorem inSteps_convergeFirst : InSteps (convergeFirst l) l := by
  unfold convergeFirst
  split
  · exact inSteps_convergeNode _
  · exact inSteps_pure ()

end InSteps

/-- The lifecycle with the record of a node that has been brought into shape. -/
def recorded (l : Lifecycle) (n : Target) : Lifecycle :=
  { l with records := l.records.insert n.name n.observed }

/-- The lifecycle without the record of a node on which everything is undone. -/
def forgotten (l : Lifecycle) (n : Target) : Lifecycle :=
  { l with records := l.records.erase n.name }

section Gives

variable {l : Lifecycle} {n : Target}

theorem gives_removeTolerations (node : String) (resources : List ResourceRef) :
    Gives (removeTolerations node resources) l l := by
  have h : Gives (removeTolerations node resources) l (resources.foldl (fun l _ => l) l) :=
    gives_forM fun _ _ => gives_step _ _ _
  rwa [List.foldl_fixed] at h

theorem gives_prepareNode : Gives (prepareNode n) l l := by
  rw [prepareNode_eq]
  refine gives_bind (k := l) ?_ fun _ => gives_bind (gives_step _ _ _) fun isolated => ?_
  · unfold deployIfAsked
    split
    · exact gives_step _ _ _
    · exact gives_pure ()
  · split
    · exact gives_pure ()
    · exact gives_bind (gives_step _ _ _) fun _ => gives_step _ _ _

theorem gives_startNode : Gives (startNode n) l (l.recorded n) := by
  refine gives_bind (gives_step _ _ _) fun _ => ?_
  split
  · exact gives_bind (gives_step _ _ _) fun _ => gives_modify _
  · exact gives_modify _

theorem gives_reverseNode : Gives (reverseNode n) l (l.forgotten n) :=
  gives_bind (gives_step _ _ _) fun _ => gives_bind (gives_removeTolerations _ _) fun _ =>
    gives_bind (gives_step _ _ _) fun _ => gives_bind (gives_step _ _ _) fun _ =>
      gives_bind (gives_step _ _ _) fun _ => gives_modify _

theorem gives_convergeNode : Gives (convergeNode n) l (l.recorded n) := by
  rw [convergeNode_eq]
  refine gives_get (gives_bind (k := l) ?_ fun _ =>
    gives_bind (gives_step _ _ _) fun isolated => ?_)
  · cases l.records.get? n.name with
    | some o => exact gives_removeTolerations _ _
    | none => exact gives_pure ()
  · split
    · refine gives_bind (gives_step _ _ _) fun _ => gives_bind (k := l) ?_ fun _ => gives_modify _
      unfold unisolate
      split
      · exact gives_bind (gives_step _ _ _) fun _ => gives_removeTolerations _ _
      · exact gives_pure ()
    · exact gives_bind gives_prepareNode fun _ => gives_startNode

theorem gives_prepareAll (ns : List Target) : Gives (ns.forM prepareNode) l l := by
  have h : Gives (ns.forM prepareNode) l (ns.foldl (fun l _ => l) l) :=
    gives_forM fun _ _ => gives_prepareNode
  rwa [List.foldl_fixed] at h

/-- The lifecycle once the dropped nodes have been reversed. -/
def undropped (l : Lifecycle) : Lifecycle := l.marked.foldl forgotten l

/-- The lifecycle once the first node that has changed has been brought into line. -/
def converged (l : Lifecycle) : Lifecycle := (l.firstChanged.map l.recorded).getD l

theorem gives_reverseMarked : Gives reverseMarked l l.undropped :=
  gives_get (gives_forM fun _ _ => gives_reverseNode)

theorem gives_convergeFirst : Gives (convergeFirst l) l l.converged := by
  unfold convergeFirst converged
  split
  · next hfirst =>
    rw [hfirst]
    exact gives_convergeNode
  · next hfirst =>
    rw [hfirst]
    exact gives_pure ()

end Gives

/-! ## Folds over nodes -/

theorem foldl_recorded (l : Lifecycle) (ns : List Target) :
    ns.foldl recorded l = { l with
      records := (ns.map fun n => (n.name, n.observed)).foldl (fun d e => d.insert e.1 e.2)
        l.records } := by
  induction ns generalizing l with
  | nil => rfl
  | cons n rest ih => exact ih (l.recorded n)

theorem foldl_forgotten (l : Lifecycle) (us : List Target) :
    us.foldl forgotten l = { l with
      records := us.foldl (fun d u => d.erase u.name) l.records } := by
  induction us generalizing l with
  | nil => rfl
  | cons u rest ih => exact ih (l.forgotten u)

theorem get?_foldl_erase (us : List Target) (d : Dict ObservedNode) (name : String) :
    (us.foldl (fun d u => d.erase u.name) d).get? name =
      if name ∈ us.map (·.name) then none else d.get? name := by
  induction us generalizing d with
  | nil => simp
  | cons u rest ih =>
    rw [List.foldl_cons, ih, Dict.get?_erase]
    by_cases hname : name ∈ rest.map (·.name)
    · simp [hname]
    · by_cases heq : u.name = name
      · simp [heq]
      · simp [hname, heq, Ne.symm heq]

/-- Nodes that have been recorded in turn are on record, and nothing else has changed. -/
theorem get?_foldl_recorded {l : Lifecycle} {ns : List Target} (hns : (ns.map (·.name)).Nodup) :
    (∀ n ∈ ns, (ns.foldl recorded l).records.get? n.name = some n.observed) ∧
      ∀ name, name ∉ ns.map (·.name) →
        (ns.foldl recorded l).records.get? name = l.records.get? name := by
  have hkeys : (ns.map fun n => (n.name, n.observed)).map (·.1) = ns.map (·.name) := by
    simp [Function.comp_def]
  rw [foldl_recorded]
  refine ⟨fun n hn => ?_, fun name hname => ?_⟩
  · exact Dict.get?_foldl_insert_of_mem (by rw [hkeys]; exact hns) l.records
      (List.mem_map.2 ⟨n, hn, rfl⟩)
  · exact Dict.get?_foldl_insert _ _ (by rw [hkeys]; exact hname)

theorem undropped_eq (l : Lifecycle) : l.undropped = { l with
    records := l.marked.foldl (fun d u => d.erase u.name) l.records } := foldl_forgotten l l.marked

theorem phase_converged (l : Lifecycle) : l.converged.phase = l.phase := by
  unfold converged
  cases l.firstChanged <;> rfl

/-! ## Whole passes -/

section Whole

variable {l : Lifecycle}

def updated (l : Lifecycle) : Lifecycle :=
  (l.inPhase .updating).undropped.converged.inPhase .active

/-- The lifecycle that is left once a quarantine has been brought in place. -/
def placed (l : Lifecycle) : Lifecycle :=
  l.nodes.foldl recorded ((l.inPhase .preparing).undropped.inPhase .active)

theorem inSteps_update (hphase : l.phase = .active) : InSteps update l := by
  have hbegin : l.phase.allows .updating = true := by rw [hphase]; rfl
  rw [update_eq]
  refine inSteps_bind_of (inSteps_advance hbegin) fun _ _ k hk => ?_
  cases gives_advance hbegin _ _ _ hk
  refine inSteps_bind_of inSteps_reverseMarked fun _ _ k hk => ?_
  cases gives_reverseMarked _ _ _ hk
  refine inSteps_get (inSteps_bind_of inSteps_convergeFirst fun _ _ k hk => inSteps_advance ?_)
  cases gives_convergeFirst _ _ _ hk
  rw [phase_converged, undropped_eq]
  rfl

theorem gives_update (hphase : l.phase = .active) : Gives update l l.updated := by
  have hbegin : l.phase.allows .updating = true := by rw [hphase]; rfl
  have hend : (l.inPhase .updating).undropped.converged.phase.allows .active = true := by
    rw [phase_converged, undropped_eq]
    rfl
  rw [update_eq]
  exact gives_bind (gives_advance hbegin) fun _ => gives_bind gives_reverseMarked fun _ =>
    gives_get (gives_bind gives_convergeFirst fun _ => gives_advance hend)

/-- A quarantine that is not in place is prepared, and is then as the preparation leaves it. -/
theorem inSteps_prepare (hphase : l.phase = .idle) :
    InSteps prepare l ∧ Gives prepare l (l.inPhase .preparing).undropped := by
  have hbegin : l.phase.allows .preparing = true := by rw [hphase]; rfl
  constructor
  · exact inSteps_bind (inSteps_advance hbegin) fun _ _ => inSteps_bind inSteps_reverseMarked
      fun _ _ => inSteps_get (inSteps_forM fun _ _ => inSteps_prepareNode _)
  · exact gives_bind (gives_advance hbegin) fun _ => gives_bind gives_reverseMarked fun _ =>
      gives_get (gives_prepareAll _)

theorem inSteps_start (hphase : l.phase = .preparing) :
    InSteps start l ∧ Gives start l (l.nodes.foldl recorded (l.inPhase .active)) := by
  have hbegin : l.phase.allows .active = true := by rw [hphase]; rfl
  constructor
  · exact inSteps_bind (inSteps_advance hbegin) fun _ _ =>
      inSteps_get (inSteps_forM fun _ _ => inSteps_startNode _)
  · exact gives_bind (gives_advance hbegin) fun _ =>
      gives_get (gives_forM fun _ _ => gives_startNode)

theorem phase_undropped (l : Lifecycle) :
    (l.inPhase .preparing).undropped.phase = .preparing := by
  rw [undropped_eq]
  rfl

theorem gives_settle (hphase : l.phase = .ofActive l.wasActive) :
    Gives (settle l.wasActive) l (if l.wasActive then l.updated else l.placed) := by
  cases hactive : l.wasActive with
  | true => exact gives_update (hphase.trans (by rw [hactive]; rfl))
  | false =>
    refine gives_bind (inSteps_prepare (hphase.trans (by rw [hactive]; rfl))).2 fun _ => ?_
    have hnodes : (l.inPhase .preparing).undropped.nodes = l.nodes := by
      rw [undropped_eq]
      rfl
    have hstart := (inSteps_start (phase_undropped l)).2
    rw [hnodes] at hstart
    exact hstart

theorem inSteps_settle (hphase : l.phase = .ofActive l.wasActive) :
    InSteps (settle l.wasActive) l := by
  cases hactive : l.wasActive with
  | true => exact inSteps_update (hphase.trans (by rw [hactive]; rfl))
  | false =>
    obtain ⟨hsteps, hgives⟩ := inSteps_prepare (hphase.trans (by rw [hactive]; rfl))
    refine inSteps_bind_of hsteps fun _ _ k hk => ?_
    cases hgives _ _ _ hk
    exact (inSteps_start (phase_undropped l)).1

theorem inSteps_stop (hphase : l.phase.allows .stopped = true) : InSteps stop l :=
  inSteps_bind (inSteps_advance hphase) fun _ _ => inSteps_get <|
    inSteps_bind (inSteps_forM fun _ _ => inSteps_reverseNode _) fun _ _ => inSteps_step _ _ _

end Whole

end Lifecycle

end Cordon
