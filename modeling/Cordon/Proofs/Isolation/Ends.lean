import Cordon.Proofs.Isolation.Evaluation

/-! # What a computation may do and come to

A call acts as documented if it does what it is for, or fails and does nothing (`Documented`).
Answered so, a computation may yield a result (`Clustered.Yields`), it may do nothing but look
things up (`Controller.Inspects`), or it makes certain calls only and comes to certain ends, its
failures included (`Clustered.Meets`); the rules here take these along binds, loops and handlers.
-/

namespace Cordon

open Kube (Node Pod)

/-! ## Calls -/

/-- What a call may come to.  An absent object is reported only if the object is absent. -/
inductive Documented :
    (c : ClusterCall) → ClusterState → Except IsolationError c.Reply → ClusterState → Prop
  | done (c : ClusterCall) (s : ClusterState) : Documented c s (s.perform c).1 (s.perform c).2
  /-- An eviction that the cluster does not grant. -/
  | refused (p : Pod) (dryRun : Bool) (s : ClusterState) :
      Documented (.evictPod p dryRun) s (.ok false) s
  | failed (c : ClusterCall) (e : IsolationError) (s : ClusterState)
      (habsent : e.isNotFound = true →
        ∃ e', (s.perform c).1 = .error e' ∧ e'.isNotFound = true) : Documented c s (.error e) s

namespace Clustered

variable {α β : Type} {p : Clustered α} {f : α → Clustered β} {s t : ClusterState} {a : α} {b : β}

def Yields (p : Clustered α) (s : ClusterState) (a : α) (t : ClusterState) : Prop :=
  p.run.Attains Documented s (.ok a) t

theorem yields_pure {a b : α} (h : (pure a : Clustered α).Yields s b t) : b = a ∧ t = s := by
  obtain ⟨hb, ht⟩ := Program.attains_done.1 h
  exact ⟨Except.ok.inj hb, ht⟩

theorem not_yields_throw {e : IsolationError} : ¬ (throw e : Clustered α).Yields s a t := by
  intro h
  cases (Program.attains_done.1 h).1

theorem yields_bind (h : (p >>= f).Yields s b t) :
    ∃ a m, p.Yields s a m ∧ (f a).Yields m b t := Program.attains_bind h

/-- A call that succeeds has taken effect.  Evictions may be refused instead. -/
theorem yields_call {c : ClusterCall} {a : c.Reply} (hne : ∀ p dryRun, c ≠ .evictPod p dryRun)
    (h : (call c).Yields s a t) : s.perform c = (.ok a, t) := by
  obtain ⟨r, m, hc, hr⟩ := Program.attains_ask.1 h
  obtain ⟨hb, rfl⟩ := Program.attains_done.1 hr
  cases hb
  generalize hk : (Except.ok a : Except IsolationError c.Reply) = r at hc
  cases hc with
  | done => rfl
  | refused p dryRun => exact absurd rfl (hne p dryRun)
  | failed => cases hk

end Clustered

namespace ClusterState

variable {s t : ClusterState} {c : ClusterCall}

theorem ignoresLabels_perform (s : ClusterState) (c : ClusterCall) :
    (s.perform c).2.ignoresLabels = s.ignoresLabels := by
  cases c with
  | listNodes | listPods _ | getPod _ _ => rfl
  | cordonNode _ | uncordonNode _ | setNodeTaints _ _ | setNodeLabel _ _ _ =>
    simp only [perform, onNode]
    split <;> rfl
  | setWorkloadTolerations _ _ | setWorkloadNodeSelector _ _ =>
    simp only [perform, onWorkload]
    split <;> rfl
  | getNode _ | getWorkload _ | createPod _ | deletePod _ _ | patchPodLabels _ _ =>
    simp only [perform]
    split <;> rfl
  | evictPod p dryRun =>
    simp only [perform]
    split
    · cases dryRun <;> rfl
    · rfl

/-- Pods can be told apart, and queries for pods heed their labels. -/
structure Orderly (s : ClusterState) : Prop where
  distinct : s.Distinct
  heedsLabels : s.ignoresLabels = false

theorem Orderly.documented {answer : Except IsolationError c.Reply} (hs : s.Orderly)
    (h : Documented c s answer t) : t.Orderly := by
  cases h with
  | done =>
    exact ⟨distinct_perform hs.distinct c, (ignoresLabels_perform s c).trans hs.heedsLabels⟩
  | refused | failed => exact hs

theorem Orderly.attains {α : Type} {p : Clustered α} {r : Except IsolationError α}
    (hs : s.Orderly) (h : p.run.Attains Documented s r t) : t.Orderly := by
  obtain ⟨_, -, hf⟩ := h
  exact hf.keeps (fun e _ s t he hs => Orderly.documented hs he) hs

end ClusterState

/-! ## Looking up -/

namespace Controller

open Clustered

variable {ε α β : Type} {s t : ClusterState}

/-- Changes nothing. -/
def LooksUp : ClusterCall → Prop
  | .getNode _ | .listNodes | .listPods _ | .getPod _ _ | .getWorkload _ => True
  | _ => False

theorem eq_of_looksUp {c : ClusterCall} {answer : Except IsolationError c.Reply} (hc : LooksUp c)
    (h : Documented c s answer t) : t = s := by
  cases h with
  | refused p dryRun => exact hc.elim
  | failed e habsent => rfl
  | done =>
    cases c with
    | listNodes | listPods _ | getPod _ _ => rfl
    | getNode name | getWorkload key =>
      simp only [ClusterState.perform]
      split <;> rfl
    | _ => exact hc.elim

/-- On this cluster, looks things up and changes nothing. -/
def Inspects (s : ClusterState) (p : ExceptT ε (Program ClusterApi) α) : Prop :=
  ∀ h r t, p.run.Speaks h r → Follows Documented s h t → t = s ∧ ∀ e ∈ h, LooksUp e.1

theorem inspects_pure (a : α) : Inspects s (pure a : ExceptT ε (Program ClusterApi) α) := by
  rintro h r t ⟨rfl, -⟩ hf
  exact ⟨hf, by simp⟩

theorem inspects_throw (err : ε) : Inspects s (throw err : ExceptT ε (Program ClusterApi) α) := by
  rintro h r t ⟨rfl, -⟩ hf
  exact ⟨hf, by simp⟩

theorem Inspects.bind {p : ExceptT ε (Program ClusterApi) α}
    {f : α → ExceptT ε (Program ClusterApi) β} (hp : Inspects s p)
    (hf : ∀ a, p.run.Attains Documented s (.ok a) s → Inspects s (f a)) : Inspects s (p >>= f) := by
  intro h r t hs hfollows
  rcases Program.speaks_bind hs with ⟨a, h₁, h₂, rfl, hfirst, hrest⟩ | ⟨err, rfl, hfirst⟩
  · obtain ⟨m, hf₁, hf₂⟩ := follows_append.1 hfollows
    obtain ⟨rfl, hlook⟩ := hp h₁ _ m hfirst hf₁
    obtain ⟨rfl, hlook'⟩ := hf a ⟨h₁, hfirst, hf₁⟩ h₂ _ t hrest hf₂
    exact ⟨rfl, fun e he => (List.mem_append.1 he).elim (hlook e) (hlook' e)⟩
  · exact hp h _ t hfirst hfollows

theorem inspects_forM {f : β → ExceptT ε (Program ClusterApi) Unit} {l : List β}
    (hf : ∀ b ∈ l, Inspects s (f b)) : Inspects s (l.forM f) := by
  induction l with
  | nil => exact inspects_pure ()
  | cons b l ih =>
    exact (hf b (by simp)).bind fun _ _ => ih fun b' hb' => hf b' (List.mem_cons_of_mem b hb')

theorem inspects_call {c : ClusterCall} (hc : LooksUp c) : Inspects s (call c) := by
  rintro h r t ⟨answer, rest, rfl, rfl, rfl⟩ ⟨m, hm, hf⟩
  cases hf
  exact ⟨eq_of_looksUp hc hm, by simpa using hc⟩

end Controller

/-! ## What a computation may do -/

namespace Clustered

variable {α β : Type} {p : Clustered α} {f : α → Clustered β} {s : ClusterState}
  {calls : ClusterCall → Prop} {ends : Except IsolationError α → ClusterState → Prop}

/-- On a cluster at rest every call takes effect, which is one way to be answered as documented. -/
theorem yields_eval {a : α} (h : (p.eval s).1 = .ok a) : p.Yields s a (p.eval s).2 := by
  have hrun := Program.attains_run Documented.done p.run s
  rwa [show (p.run.run (fun c s => s.perform c) s).1 = .ok a from h] at hrun

/-- Answered as documented from this cluster on, a computation makes such calls only and comes to
such an end. -/
def Meets (p : Clustered α) (s : ClusterState) (calls : ClusterCall → Prop)
    (ends : Except IsolationError α → ClusterState → Prop) : Prop :=
  ∀ h r t, p.run.Speaks h r → Follows Documented s h t → (∀ e ∈ h, calls e.1) ∧ ends r t

theorem meets_pure {a : α} (h : ends (.ok a) s) : (pure a : Clustered α).Meets s calls ends := by
  rintro _ _ _ ⟨rfl, rfl⟩ rfl
  exact ⟨by simp, h⟩

theorem meets_throw {e : IsolationError} (h : ends (.error e) s) :
    (throw e : Clustered α).Meets s calls ends := by
  rintro _ _ _ ⟨rfl, rfl⟩ rfl
  exact ⟨by simp, h⟩

/-- A call takes effect, or it fails and has none; it reports an absence only of what is absent. -/
theorem meets_call {c : ClusterCall} {ends : Except IsolationError c.Reply → ClusterState → Prop}
    (hne : ∀ p dryRun, c ≠ .evictPod p dryRun) (hc : calls c)
    (hdone : ends (s.perform c).1 (s.perform c).2)
    (hfailed : ∀ e, (e.isNotFound = true → ∃ e', (s.perform c).1 = .error e') →
      ends (.error e) s) : (call c).Meets s calls ends := by
  rintro _ r t ⟨answer, _, rfl, rfl, rfl⟩ ⟨m, hm, rfl⟩
  refine ⟨by simpa using hc, ?_⟩
  replace hm : Documented c s r t := hm
  cases hm with
  | done => exact hdone
  | refused p dryRun => exact absurd rfl (hne p dryRun)
  | failed _ e _ habsent =>
    exact hfailed e fun he => (habsent he).imp fun _ h => h.1

theorem meets_bind {ends : Except IsolationError β → ClusterState → Prop}
    (h : p.Meets s calls fun r m => match r with
      | .ok a => (f a).Meets m calls ends
      | .error e => ends (.error e) m) : (p >>= f).Meets s calls ends := by
  intro h' r t hs hf
  rcases Program.speaks_bind hs with ⟨a, h₁, h₂, rfl, hp, hrest⟩ | ⟨e, rfl, hp⟩
  · obtain ⟨m, hf₁, hf₂⟩ := follows_append.1 hf
    obtain ⟨hcalls, hmeets⟩ := h h₁ _ m hp hf₁
    obtain ⟨hcalls', hends⟩ := hmeets h₂ r t hrest hf₂
    exact ⟨List.forall_mem_append.2 ⟨hcalls, hcalls'⟩, hends⟩
  · exact h h' _ t hp hf

theorem meets_tryCatch {f : IsolationError → Clustered α}
    (h : p.Meets s calls fun r m => match r with
      | .ok a => ends (.ok a) m
      | .error e => (f e).Meets m calls ends) : (tryCatch p f).Meets s calls ends := by
  intro h' r t hs hf
  obtain ⟨r', h₁, h₂, rfl, hp, hrest⟩ := Program.speaks_andThen.1 hs
  obtain ⟨m, hf₁, hf₂⟩ := follows_append.1 hf
  obtain ⟨hcalls, hmeets⟩ := h h₁ r' m hp hf₁
  cases r' with
  | ok a =>
    obtain ⟨rfl, rfl⟩ := hrest
    cases hf₂
    exact ⟨by simpa using hcalls, hmeets⟩
  | error e =>
    obtain ⟨hcalls', hends⟩ := hmeets h₂ r t hrest hf₂
    exact ⟨List.forall_mem_append.2 ⟨hcalls, hcalls'⟩, hends⟩

theorem Meets.mono {calls' : ClusterCall → Prop}
    {ends' : Except IsolationError α → ClusterState → Prop} (h : p.Meets s calls ends)
    (hcalls : ∀ c, calls c → calls' c) (hends : ∀ r t, ends r t → ends' r t) :
    p.Meets s calls' ends' := by
  intro h' r t hs hf
  obtain ⟨hc, he⟩ := h h' r t hs hf
  exact ⟨fun e he => hcalls e.1 (hc e he), hends r t he⟩

theorem meets_forM {as : List α} {f : α → Clustered Unit} {inv : ClusterState → Prop}
    (h : ∀ a ∈ as, ∀ m, inv m → (f a).Meets m calls fun _ t => inv t) (hs : inv s) :
    (as.forM f).Meets s calls fun _ t => inv t := by
  induction as generalizing s with
  | nil => exact meets_pure hs
  | cons a rest ih =>
    show (f a >>= fun _ => rest.forM f).Meets s calls _
    refine meets_bind ((h a (by simp) s hs).mono (fun _ hc => hc) fun r m hm => ?_)
    cases r with
    | ok _ => exact ih (fun b hb => h b (by simp [hb])) hm
    | error e => exact hm

theorem Meets.of_attains (h : p.Meets s calls ends) {r : Except IsolationError α} {t : ClusterState}
    (ha : p.run.Attains Documented s r t) : ends r t := by
  obtain ⟨h', hs, hf⟩ := ha
  exact (h h' r t hs hf).2

end Clustered

namespace Isolation

open Clustered ClusterState

variable {s : ClusterState} {calls : ClusterCall → Prop} {name : String} {r : ResourceRef}

/-! ## Look-ups -/

theorem findNode_of_perform {n : Node} (h : s.perform (.getNode name) = (.ok n, t)) :
    s.findNode name = some n ∧ t = s := by
  cases hn : s.findNode name with
  | none => simp [ClusterState.perform, hn] at h
  | some n' =>
    simp only [ClusterState.perform, hn, Prod.mk.injEq, Except.ok.injEq] at h
    exact ⟨congrArg some h.1, h.2.symm⟩

theorem findWorkload_of_perform {key : ResourceKey} {w : Workload}
    (h : s.perform (.getWorkload key) = (.ok w, t)) : s.findWorkload key = some w ∧ t = s := by
  cases hw : s.findWorkload key with
  | none => simp [ClusterState.perform, hw] at h
  | some w' =>
    simp only [ClusterState.perform, hw, Prod.mk.injEq, Except.ok.injEq] at h
    exact ⟨congrArg some h.1, h.2.symm⟩

/-- What a look-up of an object by its name finds. -/
structure Finds (s : ClusterState) (c : ClusterCall) (found : Option c.Reply) : Prop where
  ne : ∀ p dryRun, c ≠ .evictPod p dryRun
  some : ∀ a, found = .some a → s.perform c = (.ok a, s)
  none : found = .none → ∃ e, e.isNotFound = true ∧ s.perform c = (.error e, s)

theorem finds_getNode (s : ClusterState) (name : String) :
    Finds s (.getNode name) (s.findNode name) where
  ne := by simp
  some n hn := by simp [perform, hn]
  none hn := ⟨.getNode name (notFound "nodes" name), rfl, by simp [perform, hn]⟩

theorem finds_getWorkload (s : ClusterState) (key : ResourceKey) :
    Finds s (.getWorkload key) (s.findWorkload key) where
  ne := by simp
  some w hw := by simp [perform, hw]
  none hw := ⟨.getWorkload key (notFound (workloadPlural key.kind) key.name), rfl,
    by simp [perform, hw]⟩

section LookUp

variable {c : ClusterCall} {found : Option c.Reply}

theorem meets_lookUp {ends : Except IsolationError c.Reply → ClusterState → Prop}
    (h : Finds s c found) (hc : calls c) (hsome : ∀ a, found = some a → ends (.ok a) s)
    (herror : ∀ e, (e.isNotFound = true → found = none) → ends (.error e) s) :
    (call c).Meets s calls ends := by
  cases hfound : found with
  | some a =>
    have hperform := h.some a hfound
    refine meets_call h.ne hc (by rw [hperform]; exact hsome a hfound) fun e he => ?_
    refine herror e fun hnot => ?_
    obtain ⟨e', he'⟩ := he hnot
    rw [hperform] at he'
    cases he'
  | none =>
    obtain ⟨e₀, -, hperform⟩ := h.none hfound
    refine meets_call h.ne hc ?_ fun e _ => herror e fun _ => hfound
    rw [hperform]
    exact herror e₀ fun _ => hfound

theorem meets_ifPresent {ends : Except IsolationError (Option c.Reply) → ClusterState → Prop}
    (h : Finds s c found) (hc : calls c) (hfound : ends (.ok found) s)
    (herror : ∀ e, ends (.error e) s) : (ifPresent (call c)).Meets s calls ends := by
  refine meets_tryCatch ?_
  rw [← bind_pure_comp]
  refine meets_bind (meets_lookUp h hc (fun a ha => meets_pure (ha ▸ hfound)) fun e he => ?_)
  show Meets (if e.isNotFound then pure none else throw e) s calls ends
  cases hnot : e.isNotFound with
  | true => exact meets_pure (he hnot ▸ hfound)
  | false => exact meets_throw (herror e)

end LookUp

end Isolation

end Cordon
