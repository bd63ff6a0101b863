import Cordon.Proofs.Controller.Eligibility
import Cordon.Proofs.Isolation.Ends
import Cordon.Proofs.Run.Break

/-! # Moving the controller

The controller's pod is evicted at the very end, once everything before it has succeeded
(`evictsLast_of_speaks`); that is so whatever the cluster answers.  On a cluster that acts as
documented the labels and the deployment are in line by then, and a second run finds nothing to
write (`moves_controller`).

What the eviction does not wait for is a node that the controller may move to.  There is one exactly
if some node is not excluded (`replacement_has_place`), and nothing asks for that
(`not_replacement_has_place`).
-/

namespace Cordon

open Kube (Node Pod)

namespace Controller

open Clustered Convention

variable {ε α β : Type} {ns : String} {excluded : List String} {n : Node} {s t m : ClusterState}

/-! ## Stopping at the first failure -/

/-- The call has failed. -/
def Failed (e : ClusterApi.Event) : Prop := ∃ err, e.2 = .error err

/-- Makes calls of one kind only, and ends with an error at the first one that fails. -/
def Prompt (P : ClusterCall → Prop) (p : ExceptT ε (Program ClusterApi) α) : Prop :=
  ∀ h r, p.run.Speaks h r → ∀ before e after, h = before ++ e :: after →
    P e.1 ∧ (Failed e → after = [] ∧ ∃ err, r = .error err)

section Prompt

variable {P : ClusterCall → Prop}

theorem prompt_pure (a : α) : Prompt P (pure a : ExceptT ε (Program ClusterApi) α) := by
  rintro h r ⟨rfl, -⟩ before e after heq
  simp at heq

theorem prompt_throw (err : ε) : Prompt P (throw err : ExceptT ε (Program ClusterApi) α) := by
  rintro h r ⟨rfl, -⟩ before e after heq
  simp at heq

theorem Prompt.bind {p : ExceptT ε (Program ClusterApi) α}
    {f : α → ExceptT ε (Program ClusterApi) β} (hp : Prompt P p) (hf : ∀ a, Prompt P (f a)) :
    Prompt P (p >>= f) := by
  intro h r hs before e after heq
  rcases Program.speaks_bind hs with ⟨a, h₁, h₂, rfl, hfirst, hrest⟩ | ⟨err, rfl, hfirst⟩
  · rcases split_append heq with ⟨during, rfl⟩ | ⟨front, rfl, rfl⟩
    · -- The first part has returned, so no call of it has failed.
      obtain ⟨hcall, hstop⟩ := hp _ _ hfirst before e during rfl
      refine ⟨hcall, fun hfailed => ?_⟩
      obtain ⟨-, err, herr⟩ := hstop hfailed
      cases herr
    · exact hf a _ _ hrest front e after rfl
  · obtain ⟨hcall, hstop⟩ := hp _ _ hfirst before e after heq
    exact ⟨hcall, fun hfailed => ⟨(hstop hfailed).1, err, rfl⟩⟩

theorem prompt_forM {f : β → ExceptT ε (Program ClusterApi) Unit} (hf : ∀ b, Prompt P (f b))
    (l : List β) : Prompt P (l.forM f) := by
  induction l with
  | nil => exact prompt_pure ()
  | cons b l ih => exact (hf b).bind fun _ => ih

theorem prompt_call {c : ClusterCall} (hc : P c) : Prompt P (call c) := by
  rintro h r ⟨answer, rest, rfl, rfl, rfl⟩ before e after heq
  obtain ⟨rfl, heq⟩ | ⟨_, rfl, heq⟩ := List.cons_eq_append_iff.1 heq
  · cases heq
    exact ⟨hc, fun ⟨err, herr⟩ => ⟨rfl, err, herr⟩⟩
  · simp at heq

theorem speaks_explain {wrap : IsolationError → ControllerError} {p : Clustered α}
    {h : Dialogue ClusterApi} {r : Except ControllerError α}
    (hs : (explain wrap p).run.Speaks h r) : ∃ r', p.run.Speaks h r' ∧ r = r'.mapError wrap := by
  obtain ⟨r', h₁, h₂, rfl, hp, hrest⟩ := Program.speaks_andThen.1 hs
  cases r' with
  | ok a =>
    obtain ⟨rfl, rfl⟩ := hrest
    exact ⟨.ok a, by simpa using hp, rfl⟩
  | error e =>
    obtain ⟨rfl, rfl⟩ := hrest
    exact ⟨.error e, by simpa using hp, rfl⟩

theorem Prompt.explain {wrap : IsolationError → ControllerError} {p : Clustered α}
    (hp : Prompt P p) : Prompt P (explain wrap p) := by
  intro h r hs before e after heq
  obtain ⟨r', hs', rfl⟩ := speaks_explain hs
  obtain ⟨hcall, hstop⟩ := hp h r' hs' before e after heq
  refine ⟨hcall, fun hfailed => ?_⟩
  obtain ⟨hafter, err, rfl⟩ := hstop hfailed
  exact ⟨hafter, wrap err, rfl⟩

theorem Prompt.all {p : ExceptT ε (Program ClusterApi) α} (hp : Prompt P p)
    {h : Dialogue ClusterApi} {a : α} (hs : p.run.Speaks h (.ok a)) :
    ∀ e ∈ h, P e.1 ∧ ¬ Failed e := by
  intro e he
  obtain ⟨before, after, rfl⟩ := List.append_of_mem he
  obtain ⟨hcall, hstop⟩ := hp _ _ hs before e after rfl
  refine ⟨hcall, fun hfailed => ?_⟩
  obtain ⟨-, err, herr⟩ := hstop hfailed
  cases herr

end Prompt

/-! ## Up to the eviction -/

/-- Asks for an eviction. -/
def Evicts (c : ClusterCall) : Prop := ∃ p dryRun, c = .evictPod p dryRun

theorem prompt_locate : Prompt (¬ Evicts ·) (locate ns) := by
  refine (prompt_call (by simp [Evicts])).bind fun pods => ?_
  dsimp only
  split
  · exact prompt_throw _
  · split
    · exact prompt_pure _
    · exact prompt_throw _
  · exact prompt_throw _

theorem prompt_labelNode : Prompt (¬ Evicts ·) (labelNode excluded n) := by
  unfold labelNode
  dsimp only
  split
  · exact prompt_pure _
  · exact (prompt_call (by simp [Evicts])).explain

theorem prompt_labelNodes : Prompt (¬ Evicts ·) (labelNodes excluded) :=
  (prompt_call (by simp [Evicts])).explain.bind fun nodes =>
    prompt_forM (fun _ => prompt_labelNode) nodes

theorem prompt_bindDeployment : Prompt (¬ Evicts ·) (bindDeployment ns) := by
  refine (prompt_call (by simp [Evicts])).explain.bind fun w => ?_
  dsimp only
  split
  · exact prompt_pure _
  · exact (prompt_call (by simp [Evicts])).explain

theorem prompt_makeRoom : Prompt (¬ Evicts ·) (makeRoom ns excluded) :=
  prompt_locate.explain.bind fun _ => prompt_labelNodes.bind fun _ =>
    prompt_bindDeployment.bind fun _ => prompt_pure _

/-- The controller is looked for first, and found as the one pod, which has a node. -/
theorem listed_of_locate {h : Dialogue ClusterApi} {p : Pod} {node : String}
    (hs : (locate ns).run.Speaks h (.ok (p, node))) :
    h = [⟨.listPods (podFilter ns), .ok [p]⟩] ∧ p.nodeName = some node := by
  obtain ⟨answer, rest, rfl, hs⟩ := hs
  rcases answer with e | _ | ⟨p', _ | ⟨p'', ps⟩⟩
  · cases hs.2
  · cases hs.2
  · simp only [Program.done_andThen, ExceptT.bindCont] at hs
    cases hnode : p'.nodeName with
    | none =>
      rw [hnode] at hs
      cases hs.2
    | some node' =>
      rw [hnode] at hs
      obtain ⟨rfl, heq⟩ := hs
      cases heq
      exact ⟨rfl, hnode⟩
  · cases hs.2

theorem listed_of_makeRoom {h : Dialogue ClusterApi} {p : Pod}
    (hs : (makeRoom ns excluded).run.Speaks h (.ok p)) :
    ∃ rest, h = ⟨.listPods (podFilter ns), .ok [p]⟩ :: rest ∧ p.nodeName.isSome = true := by
  rcases Program.speaks_bind hs with ⟨⟨p', node⟩, h₁, h₂, rfl, hlocate, hrest⟩ | ⟨e, heq, -⟩
  · obtain ⟨r, hlocate, hr⟩ := speaks_explain hlocate
    cases r with
    | error e => cases hr
    | ok a =>
      cases hr
      obtain ⟨rfl, hnode⟩ := listed_of_locate hlocate
      -- What comes between only passes the pod on.
      have hp : p = p' := by
        rcases Program.speaks_bind hrest with ⟨_, _, _, -, -, hrest⟩ | ⟨e, heq, -⟩
        · rcases Program.speaks_bind hrest with ⟨_, _, _, -, -, -, heq⟩ | ⟨e, heq, -⟩
          · exact Except.ok.inj heq
          · cases heq
        · cases heq
      subst hp
      exact ⟨h₂, rfl, by rw [hnode]; rfl⟩
  · cases heq

/-! ## The eviction -/

/-- Evicts the controller's pod, which has to succeed. -/
def letGo (p : Pod) : Task Unit := do
  let evicted ← explain (.evictController p.name)
    (ExceptT.mk ((·.1) <$> Drain.evict (.new ⟨.anyPod, 1, false⟩) p))
  if evicted then pure () else throw (.controllerEvictionRefused p.name)

theorem reschedule_eq : reschedule ns excluded = makeRoom ns excluded >>= letGo := by
  simp [reschedule, makeRoom, letGo]

/-- What comes of asking for the eviction. -/
def verdict (p : Pod) : Except IsolationError Bool → Except ControllerError Unit
  | .ok true => .ok ()
  | .ok false => .error (.controllerEvictionRefused p.name)
  | .error e => .error (.evictController p.name e)

theorem speaks_letGo {h : Dialogue ClusterApi} {r : Except ControllerError Unit} {p : Pod}
    (hs : (letGo p).run.Speaks h r) :
    ∃ answer, h = [⟨.evictPod p false, answer⟩] ∧ r = verdict p answer := by
  obtain ⟨answer, rest, rfl, hs⟩ := hs
  refine ⟨answer, ?_⟩
  rcases answer with e | _ | _
  · obtain ⟨rfl, rfl⟩ := hs
    exact ⟨rfl, rfl⟩
  · obtain ⟨rfl, rfl⟩ := hs
    exact ⟨rfl, rfl⟩
  · obtain ⟨rfl, rfl⟩ := hs
    exact ⟨rfl, rfl⟩

theorem speaks_reschedule {h : Dialogue ClusterApi} {r : Except ControllerError Unit}
    (hs : (reschedule ns excluded).run.Speaks h r) :
    (∃ e, r = .error e ∧ (makeRoom ns excluded).run.Speaks h (.error e)) ∨
      ∃ p before answer, h = before ++ [⟨.evictPod p false, answer⟩] ∧
        (makeRoom ns excluded).run.Speaks before (.ok p) ∧ r = verdict p answer := by
  rw [reschedule_eq] at hs
  rcases Program.speaks_bind hs with ⟨p, h₁, h₂, rfl, hroom, hrest⟩ | hfailed
  · obtain ⟨answer, rfl, rfl⟩ := speaks_letGo hrest
    exact .inr ⟨p, h₁, answer, rfl, hroom, rfl⟩
  · exact .inl hfailed

/-- An eviction is asked for behind all else, and only once all else has succeeded. -/
theorem room_before_eviction {before after : Dialogue ClusterApi} {p : Pod} {dryRun : Bool}
    {answer : Except IsolationError Bool} {r : Except ControllerError Unit}
    (hs : (reschedule ns excluded).run.Speaks (before ++ ⟨.evictPod p dryRun, answer⟩ :: after) r) :
    dryRun = false ∧ after = [] ∧ (makeRoom ns excluded).run.Speaks before (.ok p) ∧
      r = verdict p answer := by
  rcases speaks_reschedule hs with ⟨e, rfl, hroom⟩ | ⟨p', before', answer', heq, hroom, rfl⟩
  · exact absurd ⟨p, dryRun, rfl⟩ (prompt_makeRoom _ _ hroom before _ after rfl).1
  · rcases split_append heq.symm with ⟨during, rfl⟩ | ⟨front, rfl, hlast⟩
    · exact absurd ⟨p, dryRun, rfl⟩ (prompt_makeRoom _ _ hroom before _ during rfl).1
    · obtain ⟨rfl, hlast⟩ | ⟨_, rfl, hlast⟩ := List.cons_eq_append_iff.1 hlast
      · cases hlast
        exact ⟨rfl, rfl, by rwa [List.append_nil], rfl⟩
      · simp at hlast

/-- How the controller is moved, whatever the cluster answers.  A failed call is the last one, and
makes the move fail; and if the eviction is asked for then it is the last call and the only
eviction, it is no dry run, it is of the one pod that has been found, all calls before it have
succeeded, and its answer decides on the result. -/
structure EvictsLast (ns : String) (h : Dialogue ClusterApi) (r : Except ControllerError Unit) :
    Prop where
  stops : ∀ before e after, h = before ++ e :: after → Failed e →
    after = [] ∧ ∃ err, r = .error err
  evicts : ∀ before p dryRun answer after, h = before ++ ⟨.evictPod p dryRun, answer⟩ :: after →
    dryRun = false ∧ after = [] ∧
      (∃ rest, before = ⟨.listPods (podFilter ns), .ok [p]⟩ :: rest ∧ p.nodeName.isSome = true) ∧
      (∀ e ∈ before, ¬ Evicts e.1 ∧ ¬ Failed e) ∧ r = verdict p answer

theorem evictsLast_of_speaks {h : Dialogue ClusterApi} {r : Except ControllerError Unit}
    (hs : (reschedule ns excluded).run.Speaks h r) : EvictsLast ns h r where
  stops before e after heq hfailed := by
    rcases speaks_reschedule hs with ⟨err, rfl, hroom⟩ | ⟨p, before', answer, rfl, hroom, rfl⟩
    · exact ⟨((prompt_makeRoom _ _ hroom before e after heq).2 hfailed).1, err, rfl⟩
    · rcases split_append heq with ⟨during, rfl⟩ | ⟨front, rfl, hlast⟩
      · exact absurd hfailed (prompt_makeRoom.all hroom e (by simp)).2
      · obtain ⟨rfl, hlast⟩ | ⟨_, rfl, hlast⟩ := List.cons_eq_append_iff.1 hlast
        · cases hlast
          obtain ⟨err, herr⟩ := hfailed
          change answer = .error err at herr
          rw [herr]
          exact ⟨rfl, _, rfl⟩
        · simp at hlast
  evicts before p dryRun answer after heq := by
    subst heq
    obtain ⟨hdry, hafter, hroom, hr⟩ := room_before_eviction hs
    exact ⟨hdry, hafter, listed_of_makeRoom hroom, prompt_makeRoom.all hroom, hr⟩

/-! ## Looking up -/

theorem Inspects.explain {wrap : IsolationError → ControllerError} {p : Clustered α}
    (hp : Inspects s p) : Inspects s (explain wrap p) := by
  intro h r t hs hf
  obtain ⟨r', hs', -⟩ := speaks_explain hs
  exact hp h r' t hs' hf

/-- Nothing about labels or the deployment is left to do. -/
structure InLine (ns : String) (excluded : List String) (s : ClusterState) : Prop where
  nodes : ∀ n ∈ s.nodes, n.labels.get? eligibleLabel = desiredLabel excluded n.name
  deployment : ∀ w, s.findWorkload (deploymentKey ns) = some w → boundTo w = w

theorem inspects_locate : Inspects s (locate ns) := by
  refine (inspects_call (by exact trivial)).bind fun pods _ => ?_
  dsimp only
  split
  · exact inspects_throw _
  · split
    · exact inspects_pure _
    · exact inspects_throw _
  · exact inspects_throw _

theorem InLine.inspects_labelNodes (h : InLine ns excluded s) :
    Inspects s (labelNodes excluded) := by
  refine (inspects_call (by exact trivial)).explain.bind fun nodes hnodes =>
    inspects_forM fun n hn => ?_
  have hcall := yields_call (by simp) (Task.yields_explain hnodes)
  have hlisted : s.nodes = nodes := Except.ok.inj (Prod.ext_iff.1 hcall).1
  unfold labelNode
  dsimp only
  rw [if_pos (h.nodes n (hlisted ▸ hn))]
  exact inspects_pure _

theorem InLine.inspects_bindDeployment (h : InLine ns excluded s) :
    Inspects s (bindDeployment ns) := by
  refine (inspects_call (by exact trivial)).explain.bind fun w hw => ?_
  obtain ⟨hfound, -⟩ := Isolation.findWorkload_of_perform
    (yields_call (by simp) (Task.yields_explain hw))
  have hbound : w.nodeSelector.insert eligibleLabel eligibleValue = w.nodeSelector :=
    congrArg Workload.nodeSelector (h.deployment w hfound)
  dsimp only
  rw [if_pos hbound]
  exact inspects_pure _

theorem InLine.inspects_makeRoom (h : InLine ns excluded s) :
    Inspects s (makeRoom ns excluded) :=
  inspects_locate.explain.bind fun _ _ => h.inspects_labelNodes.bind fun _ _ =>
    h.inspects_bindDeployment.bind fun _ _ => inspects_pure _

/-- Where all is in line, the controller is moved by the eviction alone. -/
theorem InLine.writes_nothing (h : InLine ns excluded s) {d : Dialogue ClusterApi}
    {r : Except ControllerError Unit} (hs : (reschedule ns excluded).run.Speaks d r)
    (hf : Follows Documented s d t) : ∀ e ∈ d, LooksUp e.1 ∨ ∃ p, e.1 = .evictPod p false := by
  intro e he
  rcases speaks_reschedule hs with ⟨err, rfl, hroom⟩ | ⟨p, before, answer, rfl, hroom, rfl⟩
  · exact .inl ((h.inspects_makeRoom _ _ t hroom hf).2 e he)
  · obtain ⟨m, hf, -⟩ := follows_append.1 hf
    rcases List.mem_append.1 he with he | he
    · exact .inl ((h.inspects_makeRoom _ _ m hroom hf).2 e he)
    · exact .inr ⟨p, by rw [List.mem_singleton.1 he]⟩

/-! ## A move that succeeds -/

theorem removePod_of_evicted {p : Pod} (h : Documented (.evictPod p false) s (.ok true) t) :
    t = s.removePod p.identity := by
  generalize hanswer : (Except.ok true : Except IsolationError Bool) = answer at h
  cases h with
  | refused => cases hanswer
  | failed => cases hanswer
  | done =>
    simp only [ClusterState.perform] at hanswer ⊢
    split at hanswer
    · next hfound => simp
    · cases hanswer

/-- What a move that has succeeded has found, done and left.  Of nodes with one name the first one
is meant. -/
structure Moved (ns : String) (excluded : List String) (p : Pod) (s : ClusterState)
    (h : Dialogue ClusterApi) (t : ClusterState) : Prop where
  controller : s.pods.filter (isController s ns) = [p]
  node : ∀ name n, s.findNode name = some n →
    ∃ n', t.findNode name = some n' ∧ Relabelled excluded n n'
  nodes : (s.nodes.map (·.name)).Nodup → List.Forall₂ (Relabelled excluded) s.nodes t.nodes
  deployment : ∃ w, s.findWorkload (deploymentKey ns) = some w ∧
    t.findWorkload (deploymentKey ns) = some (boundTo w)
  workloads : ∀ key, key ≠ deploymentKey ns → t.findWorkload key = s.findWorkload key
  pods : t.pods = (s.removePod p.identity).pods
  eviction : ∃ before, h = before ++ [⟨.evictPod p false, .ok true⟩] ∧
    ∀ e ∈ before, ¬ Evicts e.1 ∧ ¬ Failed e
  /-- Once more on these nodes and this deployment, there is nothing to write. -/
  again : (s.nodes.map (·.name)).Nodup → ∀ s' d r t', s'.nodes = t.nodes →
    s'.findWorkload (deploymentKey ns) = t.findWorkload (deploymentKey ns) →
    (reschedule ns excluded).run.Speaks d r → Follows Documented s' d t' →
      ∀ e ∈ d, LooksUp e.1 ∨ ∃ p', e.1 = .evictPod p' false

theorem inLine_of_relabelled {w : Workload}
    (hnodes : List.Forall₂ (Relabelled excluded) s.nodes t.nodes)
    (hw : t.findWorkload (deploymentKey ns) = some (boundTo w)) : InLine ns excluded t where
  nodes n' hn' := by
    have hlabels : List.Forall₂ (fun (n' _ : Node) =>
        n'.labels.get? eligibleLabel = desiredLabel excluded n'.name ∧ True) t.nodes s.nodes :=
      List.Forall₂.imp (fun n' n hlabelled => ⟨by rw [hlabelled.label, hlabelled.name_eq]; rfl,
        trivial⟩) hnodes.flip
    exact ((List.forall₂_and_left _ _).1 hlabels).1 n' hn'
  deployment w' hw' := by
    cases hw.symm.trans hw'
    exact boundTo_boundTo w

/-- A move that has succeeded ends with an eviction that has been granted. -/
theorem evicted_of_speaks {h : Dialogue ClusterApi}
    (hs : (reschedule ns excluded).run.Speaks h (.ok ())) (hf : Follows Documented s h t) :
    ∃ p before m, h = before ++ [⟨.evictPod p false, .ok true⟩] ∧
      (makeRoom ns excluded).run.Speaks before (.ok p) ∧ Follows Documented s before m ∧
      t = m.removePod p.identity := by
  rcases speaks_reschedule hs with ⟨err, herr, -⟩ | ⟨p, before, answer, rfl, hroom, hr⟩
  · cases herr
  · obtain ⟨m, hbefore, d, hlast, hd⟩ := follows_append.1 hf
    cases hd
    rcases answer with e | _ | _
    · cases hr
    · cases hr
    · exact ⟨p, before, m, rfl, hroom, hbefore, removePod_of_evicted hlast⟩

theorem moved_of_speaks {h : Dialogue ClusterApi}
    (hs : (reschedule ns excluded).run.Speaks h (.ok ())) (hf : Follows Documented s h t) :
    ∃ p, Moved ns excluded p s h t := by
  obtain ⟨p, before, m, rfl, hspeaks, hbefore, rfl⟩ := evicted_of_speaks hs hf
  -- The eviction takes the pod only, so the rest is as it was when room had been made.
  have hroom := madeRoom_of_makeRoom ⟨before, hspeaks, hbefore⟩
  have hforall := fun hdistinct => hroom.aligned.forall₂ hdistinct
  refine ⟨p, hroom.controller, fun name n hn => ?_, hforall, hroom.deployment, hroom.workloads, ?_,
    ⟨before, rfl, prompt_makeRoom.all hspeaks⟩, fun hdistinct s' d r t' hs' hw' hs hf => ?_⟩
  · refine hroom.aligned.within name ?_ n hn
    rw [← ClusterState.name_of_findNode hn]
    exact List.mem_map_of_mem (List.mem_of_find?_eq_some hn)
  · simp only [ClusterState.removePod, hroom.pods]
  · obtain ⟨w, -, hw⟩ := hroom.deployment
    have hnodes : List.Forall₂ (Relabelled excluded) s.nodes s'.nodes := hs' ▸ hforall hdistinct
    exact (inLine_of_relabelled hnodes (hw'.trans hw)).writes_nothing hs hf

/-- How the controller is moved, and what has become of the cluster if that succeeds. -/
theorem moves_controller {h : Dialogue ClusterApi} {r : Except ControllerError Unit}
    (hs : (reschedule ns excluded).run.Speaks h r) (hf : Follows Documented s h t) :
    EvictsLast ns h r ∧ (r = .ok () → ∃ p, Moved ns excluded p s h t) :=
  ⟨evictsLast_of_speaks hs, fun hr => moved_of_speaks (hr ▸ hs) hf⟩

/-! ## A place to move to -/

/-- When the eviction is asked for, the next pod of the controller needs a node with the label, and
there is one exactly if some node is not excluded. -/
theorem replacement_has_place {before after : Dialogue ClusterApi} {p : Pod} {dryRun : Bool}
    {answer : Except IsolationError Bool} {r : Except ControllerError Unit}
    (hs : (reschedule ns excluded).run.Speaks (before ++ ⟨.evictPod p dryRun, answer⟩ :: after) r)
    (hf : Follows Documented s before m) :
    (∃ w, m.findWorkload (deploymentKey ns) = some w ∧
      w.nodeSelector.get? eligibleLabel = some eligibleValue) ∧
    (m.HasPlace ↔ ∃ n ∈ s.nodes, n.name ∉ excluded) := by
  obtain ⟨-, -, hroom, -⟩ := room_before_eviction hs
  have hroom := madeRoom_of_makeRoom ⟨before, hroom, hf⟩
  obtain ⟨w, -, hw⟩ := hroom.deployment
  refine ⟨⟨boundTo w, hw, ?_⟩, hroom.aligned.hasPlace_iff⟩
  simp [boundTo, Dict.get?_insert]

/-! ## A small cluster -/

namespace Sample

def worker (name : String) (labels : Labels) : Node :=
  ⟨{ Kube.ObjectMeta.blank with name := some name, labels := some labels }, none⟩

def ownPod : Pod :=
  ⟨{ Kube.ObjectMeta.blank with
      name := some "c", namespaceName := some "ns", labels := some selector },
    some ⟨some "worker3", [], none, none, []⟩, none⟩

/-- Three nodes, one with the label, one without it, and one where it has another value; that is
where the controller runs. -/
def workers : ClusterState :=
  ⟨[worker "worker1" (.singleton eligibleLabel eligibleValue),
      worker "worker2" (.singleton "z" "1"),
      worker "worker3" (.singleton eligibleLabel "yes")], [ownPod],
    [⟨deploymentKey "ns", none, selector, [], .singleton "pool" "infra"⟩], false⟩

def moving (excluded : List String) : Dialogue ClusterApi :=
  (reschedule "ns" excluded).run.transcript (fun c s => s.perform c) workers

def moved (excluded : List String) : Except ControllerError Unit × ClusterState :=
  (reschedule "ns" excluded).run.run (fun c s => s.perform c) workers

theorem speaks_moving (excluded : List String) :
    (reschedule "ns" excluded).run.Speaks (moving excluded) (moved excluded).1 :=
  Program.speaks_transcript _ _ _

theorem follows_moving (excluded : List String) :
    Follows Documented workers (moving excluded) (moved excluded).2 :=
  follows_transcript Documented.done (reschedule "ns" excluded).run workers

end Sample

open Sample in
/-- The controller is moved off the last node. -/
theorem moves_controller_off_worker :
    (reschedule "ns" ["worker3"]).run.Speaks (moving ["worker3"]) (moved ["worker3"]).1 ∧
      Follows Documented workers (moving ["worker3"]) (moved ["worker3"]).2 ∧
      (moved ["worker3"]).1 = .ok () ∧
      (moved ["worker3"]).2.nodes.map (fun n => (n.name, n.labels.get? eligibleLabel)) =
        [("worker1", some "true"), ("worker2", some "true"), ("worker3", none)] ∧
      EvictsLast "ns" (moving ["worker3"]) (moved ["worker3"]).1 ∧
      ∃ p, Moved "ns" ["worker3"] p workers (moving ["worker3"]) (moved ["worker3"]).2 := by
  have hok : (moved ["worker3"]).1 = .ok () := by decide +kernel
  obtain ⟨hlast, hmoved⟩ := moves_controller (speaks_moving _) (follows_moving ["worker3"])
  exact ⟨speaks_moving _, follows_moving _, hok, by decide +kernel, hlast, hmoved hok⟩

open Sample in
/-- With the last node excluded there is still a place. -/
theorem replacement_has_place_off_worker :
    ∃ before p m, moving ["worker3"] = before ++ [⟨.evictPod p false, .ok true⟩] ∧
      (reschedule "ns" ["worker3"]).run.Speaks (before ++ [⟨.evictPod p false, .ok true⟩])
        (.ok ()) ∧
      Follows Documented workers before m ∧ m.HasPlace := by
  have hok : (moved ["worker3"]).1 = .ok () := by decide +kernel
  have hs := speaks_moving ["worker3"]
  rw [hok] at hs
  obtain ⟨p, before, m, heq, -, hbefore, -⟩ := evicted_of_speaks hs (follows_moving ["worker3"])
  rw [heq] at hs
  obtain ⟨-, hplace⟩ := replacement_has_place hs hbefore
  exact ⟨before, p, m, heq, hs, hbefore, hplace.2 (by decide +kernel)⟩

open Sample in
/-- With all nodes excluded the controller is evicted all the same. -/
theorem not_replacement_has_place :
    ¬ ∀ (ns : String) (excluded : List String) (s m : ClusterState)
      (before after : Dialogue ClusterApi) (p : Pod) (dryRun : Bool)
      (answer : Except IsolationError Bool) (r : Except ControllerError Unit),
      (reschedule ns excluded).run.Speaks (before ++ ⟨.evictPod p dryRun, answer⟩ :: after) r →
        Follows Documented s before m → ∃ n ∈ m.nodes, n.IsEligible := by
  intro hplace
  let all := ["worker1", "worker2", "worker3"]
  have hok : (moved all).1 = .ok () := by decide +kernel
  have hs := speaks_moving all
  rw [hok] at hs
  obtain ⟨p, before, m, heq, -, hbefore, hmoved⟩ := evicted_of_speaks hs (follows_moving all)
  rw [heq] at hs
  obtain ⟨n, hn, heligible⟩ := hplace _ _ _ m before [] p _ _ _ hs hbefore
  -- The eviction is the last thing that happens, and leaves the nodes alone.
  have hnodes : n ∈ (moved all).2.nodes := by
    rw [hmoved]
    exact hn
  have hnone : ∀ n ∈ (moved all).2.nodes,
      n.labels.get? eligibleLabel ≠ some eligibleValue := by decide +kernel
  exact hnone n hnodes heligible

end Controller

end Cordon
