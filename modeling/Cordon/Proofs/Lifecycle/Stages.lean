import Cordon.Proofs.Isolation.Region
import Cordon.Proofs.Lifecycle.Phases

/-! # A pass, node by node

A pass moves to its phase and then comes to one node after the other: first to the dropped nodes,
which it reverses, and then to nodes of the request.  What it does to a node in its turn is a
`Stage`; `Act.stages` are those of a pass in order (`says_stages`), and a pass that fails has been
through the stages before the one that it fails in (`broken_of_forM`).

`ClusterCall.Regards` says that a call is about a node: it names the node, it asks for pods on it,
it is for a pod that was found there or for the debug pod of the node, or it is about a workload
that is tracked there.  On a cluster that answers truthfully, every call of a pass regards one of
the nodes that the pass has come to (`regards_of_stages`).
-/

namespace Cordon

open Kube (Node Pod)
open OnCluster (calls tells)

/-! ## Calls and the nodes that they regard -/

/-- What has been heard is true: a look-up has returned what it was asked for, and pods that were
asked for on a node are there. -/
structure Truthful (k : Heard) : Prop where
  node : ∀ name n, ⟨.getNode name, .ok n⟩ ∈ k → n.name = name
  workload : ∀ key w, ⟨.getWorkload key, .ok w⟩ ∈ k → w.key = key
  pods : ∀ f pods, ⟨.listPods f, .ok pods⟩ ∈ k → ∀ p ∈ pods, ∀ name, f.nodeName = some name →
    p.nodeName = some name

/-- A pod that runs on a node and has been listed. -/
def FoundOn (k : Heard) (node : String) (p : Pod) : Prop :=
  p.nodeName = some node ∧ ∃ f pods, ⟨.listPods f, .ok pods⟩ ∈ k ∧ p ∈ pods

/-- A call is about a node where these workloads are tracked. -/
def ClusterCall.Regards (k : Heard) (t : Target) (tracked : List ResourceRef) : ClusterCall → Prop
  | .getNode name | .cordonNode name | .uncordonNode name => name = t.name
  | .setNodeTaints n _ | .setNodeLabel n _ _ => n.name = t.name
  | .listNodes => False
  | .listPods f => f.nodeName = some t.name
  | .patchPodLabels p _ | .evictPod p _ => FoundOn k t.name p
  | .getPod ns name => ns = t.debug.namespaceName ∧ name = t.debugPodName
  | .createPod p => p = DebugPod.make t.name t.debug
  | .deletePod ns name => ns = t.debug.namespaceName ∧ name = t.debugPodName ∨
      ∃ p, FoundOn k t.name p ∧ ns = p.metadata.anyNamespace ∧ name = p.name
  | .getWorkload key => ∃ r ∈ tracked, r.key = key
  | .setWorkloadTolerations w _ | .setWorkloadNodeSelector w _ => ∃ r ∈ tracked, r.key = w.key

/-- The node that a call names: as itself, in a query for pods, or as that of a pod. -/
def ClusterCall.node? : ClusterCall → Option String
  | .getNode name | .cordonNode name | .uncordonNode name => some name
  | .setNodeTaints n _ | .setNodeLabel n _ _ => some n.name
  | .listPods f => f.nodeName
  | .createPod p | .patchPodLabels p _ | .evictPod p _ => p.nodeName
  | .listNodes | .getPod _ _ | .deletePod _ _ | .getWorkload _ | .setWorkloadTolerations _ _
  | .setWorkloadNodeSelector _ _ => none

section Regards

variable {k : Heard} {t : Target} {tracked : List ResourceRef} {c : ClusterCall}

theorem ClusterCall.Regards.node?_eq (h : c.Regards k t tracked) {name : String}
    (hname : c.node? = some name) : name = t.name := by
  cases c with
  | getNode _ | cordonNode _ | uncordonNode _ | setNodeTaints _ _ | setNodeLabel _ _ _ =>
    exact (Option.some.inj hname).symm.trans h
  | listPods f => exact Option.some.inj (hname.symm.trans h)
  | patchPodLabels p _ | evictPod p _ => exact Option.some.inj (hname.symm.trans h.1)
  | createPod p =>
    cases (show p = DebugPod.make t.name t.debug from h)
    exact (Option.some.inj hname).symm
  | listNodes => exact h.elim
  | _ => cases hname

namespace Errand

/-- All that may be done for a node where these workloads are tracked. -/
def serving (t : Target) (tracked : List ResourceRef) : Errand where
  nodes := (· = t.name)
  closes := (· = t.name)
  reopens := (· = t.name)
  workloads key := ∃ r ∈ tracked, r.key = key
  marks f := f.nodeName = some t.name
  removes f := f.nodeName = some t.name
  deploys := (· = t)
  recalls := (· = t)

theorem shaping_serving (hsub : ∀ r ∈ t.resources, r ∈ tracked) :
    (shaping t).PartOf (serving t tracked) where
  nodes _ h := h
  closes _ h := h
  reopens _ h := h.elim
  workloads _ := fun ⟨r, hr, hkey⟩ => ⟨r, hsub r hr, hkey⟩
  marks _ h := h
  removes f h := by
    cases h
    rfl
  deploys _ h := h
  recalls _ h := h.elim

theorem reverting_serving : (reverting t).PartOf (serving t t.resources) where
  nodes _ h := h
  closes _ h := h.elim
  reopens _ h := h
  workloads _ h := h
  marks _ h := h.elim
  removes f h := by
    cases h
    rfl
  deploys _ h := h.elim
  recalls _ h := h

theorem stripping_serving {resources : List ResourceRef} (hsub : ∀ r ∈ resources, r ∈ tracked) :
    (stripping resources).PartOf (serving t tracked) where
  nodes _ h := h.elim
  closes _ h := h.elim
  reopens _ h := h.elim
  workloads _ := fun ⟨r, hr, hkey⟩ => ⟨r, hsub r hr, hkey⟩
  marks _ h := h.elim
  removes _ h := h.elim
  deploys _ h := h.elim
  recalls _ h := h.elim

/-- A call that is allowed on one of several errands is allowed on a single one of them. -/
theorem allows_of_all {P : Errand → Prop} (h : (all P).Allows k c) : ∃ E, P E ∧ E.Allows k c := by
  cases h with
  | look h => exact h.imp fun _ h => ⟨h.1, .look h.2⟩
  | taint taints h heard => exact h.imp fun _ h => ⟨h.1, .taint taints h.2 heard⟩
  | close h => exact h.imp fun _ h => ⟨h.1, .close h.2⟩
  | reopen h => exact h.imp fun _ h => ⟨h.1, .reopen h.2⟩
  | find h => exact h.imp fun _ h => ⟨h.1, .find h.2⟩
  | tolerate tolerations h heard =>
    exact h.imp fun _ h => ⟨h.1, .tolerate tolerations h.2 heard⟩
  | list h =>
    rcases h with h | h
    · exact h.imp fun _ h => ⟨h.1, .list (.inl h.2)⟩
    · exact h.imp fun _ h => ⟨h.1, .list (.inr h.2)⟩
  | mark patch h heard hp => exact h.imp fun _ h => ⟨h.1, .mark patch h.2 heard hp⟩
  | evict h heard hp => exact h.imp fun _ h => ⟨h.1, .evict h.2 heard hp⟩
  | delete h heard hp => exact h.imp fun _ h => ⟨h.1, .delete h.2 heard hp⟩
  | seek h => exact h.imp fun _ h => ⟨h.1, .seek h.2⟩
  | deploy h => exact h.imp fun _ h => ⟨h.1, .deploy h.2⟩
  | retract h => exact h.imp fun _ h => ⟨h.1, .retract h.2⟩

/-- What is done for a node regards it, if what has been heard is true. -/
theorem regards_of_allows (hk : Truthful k) (h : (serving t tracked).Allows k c) :
    c.Regards k t tracked := by
  have hfound : ∀ {f : PodFilter} {pods : List Pod} {p : Pod}, f.nodeName = some t.name →
      ⟨.listPods f, .ok pods⟩ ∈ k → p ∈ pods → FoundOn k t.name p := fun hf heard hp =>
    ⟨hk.pods _ _ heard _ hp _ hf, _, _, heard, hp⟩
  cases h with
  | look h | close h | reopen h | find h => exact h
  | taint _ h heard => exact (hk.node _ _ heard).trans h
  | tolerate _ h heard =>
    obtain ⟨r, hr, hkey⟩ := h
    exact ⟨r, hr, hkey.trans (hk.workload _ _ heard).symm⟩
  | list h => exact h.elim id id
  | mark _ h heard hp | evict h heard hp => exact hfound h heard hp
  | delete h heard hp => exact .inr ⟨_, hfound h heard hp, rfl, rfl⟩
  | seek h =>
    cases h
    exact ⟨rfl, rfl⟩
  | retract h =>
    cases h
    exact .inl ⟨rfl, rfl⟩
  | deploy h =>
    cases h
    rfl

end Errand

end Regards

section Follows

variable {others : ClusterState → ClusterState → Prop} {s t : Scene} {h : Dialogue Effects}

theorem Follows.of_mem (hf : Follows (Answers others) s h t) {e : Effects.Event} (he : e ∈ h) :
    ∃ d d', Answers others e.1 d e.2 d' := by
  obtain ⟨before, after, rfl⟩ := List.append_of_mem he
  obtain ⟨d, -, d', he, -⟩ := follows_append.1 hf
  exact ⟨d, d', he⟩

/-- A cluster tells the truth, whatever it fails and whatever others change in between. -/
theorem truthful_of_follows (hf : Follows (Answers others) s h t) : Truthful (heardIn h) := by
  have hheard : ∀ {c : ClusterCall} {answer : Except IsolationError c.Reply},
      (⟨c, answer⟩ : ClusterApi.Event) ∈ heardIn h →
        ∃ d d', Calls d c (some answer) d' := by
    rintro c answer ⟨⟨r, reply⟩, he, hmem⟩
    obtain ⟨d, d', hanswers⟩ := hf.of_mem he
    rcases r with (c' | r | n) | _ | _ | _ | _
    · rcases reply with _ | reply
      · exact hmem.elim
      · cases hmem
        obtain ⟨m, -, hcalls⟩ := hanswers
        exact ⟨m, d', hcalls⟩
    · cases reply <;> exact hmem.elim
    · cases reply <;> exact hmem.elim
    all_goals exact hmem.elim
  refine ⟨fun name n hmem => ?_, fun key w hmem => ?_, fun f pods hmem p hp name hname => ?_⟩
  · obtain ⟨d, d', hcalls⟩ := hheard hmem
    exact hcalls.honest
  · obtain ⟨d, d', hcalls⟩ := hheard hmem
    exact hcalls.honest
  · obtain ⟨d, d', hcalls⟩ := hheard hmem
    obtain ⟨hlist, -⟩ := hcalls.of_ok fun _ _ heq => by cases heq
    cases hlist
    exact nodeName_of_selects (List.mem_filter.1 hp).2 hname

end Follows

namespace Pass

variable {α : Type} {f : α → Pass Unit} {as : List α} {l l' : Lifecycle} {h : Dialogue Effects}
  {e : ControllerError}

theorem says_forM_cons {a : α} {r : Except ControllerError Unit} :
    ((a :: as).forM f).Says l h r l' ↔
      (∃ k h₁ h₂, h = h₁ ++ h₂ ∧ (f a).Says l h₁ (.ok ()) k ∧ (as.forM f).Says k h₂ r l') ∨
      ∃ e, r = .error e ∧ (f a).Says l h (.error e) l' := by
  refine (says_bind (p := f a) (f := fun _ => as.forM f)).trans (or_congr_left ?_)
  constructor
  · rintro ⟨_, k, h₁, h₂, rfl, hp, hf⟩
    exact ⟨k, h₁, h₂, rfl, hp, hf⟩
  · rintro ⟨k, h₁, h₂, rfl, hp, hf⟩
    exact ⟨(), k, h₁, h₂, rfl, hp, hf⟩

/-- A loop that fails has been through the rounds before the one that fails, and no other. -/
theorem broken_of_forM (hs : (as.forM f).Says l h (.error e) l') :
    ∃ before a after k h₁ h₂, as = before ++ a :: after ∧ h = h₁ ++ h₂ ∧
      (before.forM f).Says l h₁ (.ok ()) k ∧ (f a).Says k h₂ (.error e) l' := by
  induction as generalizing l h with
  | nil =>
    obtain ⟨-, hr, -⟩ := says_pure (show (pure () : Pass Unit).Says l h (.error e) l' from hs)
    cases hr
  | cons a rest ih =>
    rcases says_forM_cons.1 hs with ⟨k, h₁, h₂, rfl, hhead, hrest⟩ | ⟨_, he, hhead⟩
    · obtain ⟨before, b, after, k', h₃, h₄, rfl, rfl, hbefore, hb⟩ := ih hrest
      exact ⟨a :: before, b, after, k', h₁ ++ h₃, h₄, rfl, (List.append_assoc _ _ _).symm,
        says_forM_cons.2 (.inl ⟨k, h₁, h₃, rfl, hhead, hbefore⟩), hb⟩
    · cases he
      exact ⟨[], a, rest, l, [], h, rfl, rfl, ⟨rfl, rfl⟩, hhead⟩

/-- The rounds up to the one that fails are a loop that fails. -/
theorem says_forM_snoc {before : List α} {a : α} {k : Lifecycle} {h₁ h₂ : Dialogue Effects}
    (hbefore : (before.forM f).Says l h₁ (.ok ()) k) (ha : (f a).Says k h₂ (.error e) l') :
    ((before ++ [a]).forM f).Says l (h₁ ++ h₂) (.error e) l' := by
  rw [List.forM_eq_forM, List.forM_append]
  refine says_bind.2 (.inl ⟨(), k, h₁, h₂, rfl, hbefore, ?_⟩)
  simpa using ha

end Pass

namespace Lifecycle

open Pass

/-! ## Stages -/

/-- What a pass does to a node in its turn. -/
inductive Stage where
  | reverse (u : Target)
  | prepare (n : Target)
  | start (n : Target)
  | converge (n : Target)
deriving DecidableEq

namespace Stage

def node : Stage → Target
  | reverse t | prepare t | start t | converge t => t

def pass : Stage → Pass Unit
  | reverse u => reverseNode u
  | prepare n => prepareNode n
  | start n => startNode n
  | converge n => convergeNode n

/-- The workloads that may be read and written: those of the node and, if it is brought into line,
those of its record. -/
def tracked (l : Lifecycle) : Stage → List ResourceRef
  | converge n => n.resources ++ ((l.records.get? n.name).map (·.resources)).getD []
  | x => x.node.resources

/-- What a stage leaves of a lifecycle if it succeeds. -/
def leaves (l : Lifecycle) : Stage → Lifecycle
  | reverse u => l.forgotten u
  | prepare _ => l
  | start n | converge n => l.recorded n

end Stage

/-- The stages of a pass, from the lifecycle that it begins with. -/
def Act.stages (l : Lifecycle) : Act → List Stage
  | .prepare => l.marked.map .reverse ++ l.nodes.map .prepare
  | .start => l.nodes.map .start
  | .update => l.marked.map .reverse ++ l.undropped.firstChanged.toList.map .converge
  | .stop => (l.nodes ++ l.marked).map .reverse

variable {l l' k : Lifecycle} {h : Dialogue Effects} {r : Except ControllerError Unit}

theorem gives_stage (x : Stage) : Gives x.pass l (x.leaves l) := by
  cases x with
  | reverse u => exact gives_reverseNode
  | prepare n => exact gives_prepareNode
  | start n => exact gives_startNode
  | converge n => exact gives_convergeNode

theorem gives_stages (ss : List Stage) : Gives (ss.forM Stage.pass) l (ss.foldl Stage.leaves l) :=
  gives_forM fun x _ => gives_stage x

theorem keepsPhase_stage (x : Stage) : KeepsPhase x.pass := by
  cases x with
  | reverse u => exact keepsPhase_reverseNode u
  | prepare n => exact (leaves_prepareNode n).keepsPhase
  | start n => exact (records_startNode n).keepsPhase
  | converge n => exact (records_convergeNode n).keepsPhase

/-! ### The stages of whole passes -/

theorem reverseAll_eq (us : List Target) :
    us.forM reverseNode = (us.map Stage.reverse).forM Stage.pass := by
  simp only [List.forM_eq_forM, List.forM_map]
  rfl

theorem says_reverseMarked_bind {f : Unit → Pass Unit} {rest : List Stage}
    (hrest : ∀ h r l', (f ()).Says l.undropped h r l' →
      (rest.forM Stage.pass).Says l.undropped h r l')
    (hs : (reverseMarked >>= f).Says l h r l') :
    ((l.marked.map Stage.reverse ++ rest).forM Stage.pass).Says l h r l' := by
  rw [List.forM_eq_forM, List.forM_append]
  rcases says_bind.1 hs with ⟨_, k, h₁, h₂, rfl, hreverse, hf⟩ | ⟨e, rfl, hreverse⟩
  · cases gives_reverseMarked _ _ _ hreverse
    have hreverse := says_get.1 hreverse
    rw [reverseAll_eq] at hreverse
    exact says_bind.2 (.inl ⟨(), _, h₁, h₂, rfl, hreverse, hrest _ _ _ hf⟩)
  · have hreverse := says_get.1 hreverse
    rw [reverseAll_eq] at hreverse
    exact says_bind.2 (.inr ⟨e, rfl, hreverse⟩)

theorem says_advance_bind {next : Phase} {f : Unit → Pass Unit}
    (hs : (advance next >>= f).Says l h r l') :
    (h = [] ∧ r = .error (.invalidTransition l.phase next) ∧ l' = l) ∨
      (f ()).Says (l.inPhase next) h r l' := by
  cases hallows : l.phase.allows next with
  | true =>
    rcases says_bind.1 hs with ⟨_, k, h₁, h₂, rfl, hadvance, hf⟩ | ⟨e, rfl, hadvance⟩
    · obtain ⟨rfl, -, rfl⟩ := says_advance hallows hadvance
      exact .inr hf
    · cases (says_advance hallows hadvance).2.1
  | false =>
    rcases says_bind.1 hs with ⟨_, k, h₁, h₂, rfl, hadvance, hf⟩ | ⟨e, rfl, hadvance⟩
    · cases (says_advance_refused hallows hadvance).2.1
    · exact .inl (says_advance_refused hallows hadvance)

/-- The stage of the node that has changed first, if there is one. -/
theorem convergeFirst_eq (l : Lifecycle) :
    convergeFirst l = (l.firstChanged.toList.map Stage.converge).forM Stage.pass := by
  unfold convergeFirst
  cases l.firstChanged with
  | none => rfl
  | some n =>
    show convergeNode n = (convergeNode n >>= fun _ => pure ())
    rw [bind_pure_unit]

theorem firstChanged_undropped (phase : Phase) :
    (l.inPhase phase).undropped.firstChanged = l.undropped.firstChanged := by
  rw [undropped_eq, undropped_eq]
  rfl

/-- A pass that may begin goes through its stages, and then leaves its phase at most. -/
theorem says_stages {a : Act} (ha : a ≠ .stop) (hs : a.pass.Says l h r l') :
    (h = [] ∧ r = .error (.invalidTransition l.phase a.opening) ∧ l' = l) ∨
      ∃ k phase, ((a.stages l).forM Stage.pass).Says (l.inPhase a.opening) h r k ∧
        l' = k.inPhase phase := by
  cases a with
  | stop => exact absurd rfl ha
  | start =>
    rcases says_advance_bind hs with hrefused | hs
    · exact .inl hrefused
    · refine .inr ⟨l', l'.phase, ?_, rfl⟩
      rw [Act.stages, List.forM_eq_forM, List.forM_map]
      exact says_get.1 hs
  | prepare =>
    rcases says_advance_bind hs with hrefused | hs
    · exact .inl hrefused
    · refine .inr ⟨l', l'.phase, says_reverseMarked_bind (fun h r l' hs => ?_) hs, rfl⟩
      have hs := says_get.1 hs
      rw [undropped_eq] at hs ⊢
      rw [List.forM_eq_forM, List.forM_map]
      exact hs
  | update =>
    rw [show Act.update.pass = _ from update_eq] at hs
    rcases says_advance_bind hs with hrefused | hs
    · exact .inl hrefused
    -- The closing move is taken off the end: it asks nothing and changes the phase alone.
    have hmoved : (reverseMarked >>= fun _ => get >>= fun l => convergeFirst l >>= fun _ =>
        advance .active) =
        (reverseMarked >>= fun _ => get >>= fun l => convergeFirst l) >>= fun _ =>
          advance .active := by
      simp only [bind_assoc]
    rw [hmoved] at hs
    have hstages : ∀ {h r k},
        (reverseMarked >>= fun _ => get >>= fun l => convergeFirst l).Says
          (l.inPhase .updating) h r k →
        ((Act.stages l .update).forM Stage.pass).Says (l.inPhase .updating) h r k := by
      refine says_reverseMarked_bind fun h r l' hs => ?_
      have hs := says_get.1 hs
      rwa [convergeFirst_eq, firstChanged_undropped] at hs
    rcases says_bind.1 hs with ⟨_, k, h₁, h₂, rfl, hfront, hclose⟩ | ⟨e, rfl, hfront⟩
    · have hphase : k.phase = .updating :=
        keepsPhase_forM keepsPhase_stage _ _ _ _ (hstages hfront)
      obtain ⟨rfl, rfl, rfl⟩ := says_advance (by rw [hphase]; rfl) hclose
      rw [List.append_nil]
      exact .inr ⟨k, .active, hstages hfront, rfl⟩
    · exact .inr ⟨l', l'.phase, hstages hfront, rfl⟩

/-! ### What stages ask -/

/-- The errand of some stages. -/
def errand (l : Lifecycle) (ss : List Stage) : Errand :=
  .all fun E => ∃ x ∈ ss, E = .serving x.node (x.tracked l)

theorem serving_errand {ss : List Stage} {x : Stage} (hx : x ∈ ss) :
    (Errand.serving x.node (x.tracked l)).PartOf (errand l ss) :=
  Errand.partOf_all ⟨x, hx, rfl⟩

theorem shaping_errand {ss : List Stage} {x : Stage} (hx : x ∈ ss) :
    (Errand.shaping x.node).PartOf (errand l ss) := by
  refine (Errand.shaping_serving fun r hr => ?_).trans (serving_errand hx)
  cases x with
  | converge n => exact List.mem_append_left _ hr
  | _ => exact hr

/-- Of the nodes to be brought into line, the workloads on record may be written. -/
def Tracks (l : Lifecycle) (ss : List Stage) (k : Lifecycle) : Prop :=
  ∀ n, .converge n ∈ ss → ∀ o, k.records.get? n.name = some o →
    (Errand.stripping o.resources).PartOf (errand l ss)

theorem tracks_refl (phase : Phase) (ss : List Stage) : Tracks l ss (l.inPhase phase) := by
  intro n hn o ho
  refine (Errand.stripping_serving fun r hr => ?_).trans (serving_errand hn)
  have ho : l.records.get? n.name = some o := ho
  simp [Stage.tracked, ho, hr]

theorem Tracks.forgotten {ss : List Stage} (hk : Tracks l ss k) (u : Target) :
    Tracks l ss (k.forgotten u) := by
  intro n hn o ho
  change (k.records.erase u.name).get? n.name = some o at ho
  rw [Dict.get?_erase] at ho
  split at ho
  · cases ho
  · exact hk n hn o ho

theorem Tracks.recorded {ss : List Stage} (hk : Tracks l ss k) {x : Stage} (hx : x ∈ ss) :
    Tracks l ss (k.recorded x.node) := by
  intro n hn o ho
  change (k.records.insert x.node.name x.node.observed).get? n.name = some o at ho
  rw [Dict.get?_insert] at ho
  split at ho
  · cases ho
    exact (stripping_observed x.node).trans (shaping_errand hx)
  · exact hk n hn o ho

/-- Stages make the calls of their errand only. -/
theorem keepsTo_stages (l : Lifecycle) (ss : List Stage) :
    KeepsTo (errand l ss) (Tracks l ss) (ss.forM Stage.pass) := by
  refine keepsTo_forM fun x hx => ?_
  cases x with
  | reverse u =>
    show KeepsTo _ _ (reverseNode u)
    rw [reverseNode_eq]
    exact keepsTo_bind ((keepsTo_undo u).mono (Errand.reverting_serving.trans (serving_errand hx)))
      fun _ => keepsTo_modify fun _ hk => hk.forgotten u
  | prepare n => exact (keepsTo_prepareNode n).mono (shaping_errand hx)
  | start n =>
    exact (keepsTo_startNode n fun _ hk => hk.recorded hx).mono (shaping_errand hx)
  | converge n =>
    exact keepsTo_convergeNode (shaping_errand hx) (fun _ hk => hk.recorded hx)
      fun _ hk o ho => hk n hx o ho

/-- On a cluster that tells the truth, each call of a run of stages regards the node of one of
them. -/
theorem regards_of_stages {others : ClusterState → ClusterState → Prop} {s t : Scene}
    {phase : Phase} {ss : List Stage} {before after : Dialogue Effects} {e : Effects.Event}
    (hs : (ss.forM Stage.pass).Says (l.inPhase phase) (before ++ e :: after) r l')
    (hf : Follows (Answers others) s before t) {c : ClusterCall} (hc : calls e.1 c) :
    ∃ x ∈ ss, c.Regards (heardIn before) x.node (x.tracked l) := by
  have hgrounded := (keepsTo_stages l ss).grounded (tracks_refl phase ss) hs ∅
  have hallows := hgrounded before e after rfl c hc
  rw [Set.empty_union] at hallows
  obtain ⟨_, ⟨x, hx, rfl⟩, hallows⟩ := Errand.allows_of_all hallows
  exact ⟨x, hx, Errand.regards_of_allows (truthful_of_follows hf) hallows⟩

end Lifecycle

end Cordon
