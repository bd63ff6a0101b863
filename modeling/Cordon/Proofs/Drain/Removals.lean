import Cordon.Proofs.Drain.Planning
import Cordon.Proofs.Drain.Site
import Mathlib.Data.List.Perm.Basic

/-! # What becomes of the pods of a node that is emptied

Removals run side by side, and which of those under way ends first is left open.  What a run of
removals comes to is the same in any order: a pod is gone unless its removal is refused or fails,
and there is no error exactly if all of them are gone (`cleared_of_runTasks`).  The argument is by
induction on the tasks that are left; the tasks under way and those that wait are one list, from
which each end takes one away.
-/

namespace Cordon.Drain

open Kube (Pod)

/-! ## Tasks -/

def Task.removal (t : Task) : Option Removal :=
  match t.action with
  | .evict => some (.evict t.pod)
  | .delete => some (.delete t.pod.metadata.anyNamespace t.pod.name)
  | .skip _ | .refuse _ => none

def Task.running (t : Task) : Running :=
  match t.action with
  | .refuse reason => ⟨t, some (.undrainablePod t.pod.name reason), false⟩
  | .evict => ⟨t, none, true⟩
  | .skip _ | .delete => ⟨t, none, false⟩

/-- A task as it is planned: it is not to skip its pod, and evicts only what may be evicted. -/
structure Task.Planned (t : Task) : Prop where
  acts : ∀ reason, t.action ≠ .skip reason
  evictable : t.action = .evict → isMirror t.pod = false ∧ isDaemonsetPod t.pod = false

variable {T waiting : List Task} {t : Task} {e : Evictor} {s d : Site}

theorem task_running (t : Task) : t.running.task = t := by
  unfold Task.running
  split <;> rfl

theorem identity_of_removal {r : Removal} (h : t.removal = some r) :
    r.identity = t.pod.identity := by
  unfold Task.removal at h
  split at h
  · cases h
    rfl
  · cases h
    rfl
  · cases h
  · cases h

/-- A planned task starts as soon as there is a place for it, and there always is one. -/
theorem start_of_planned (ht : t.Planned) (hdrain : e.policy.strategy = .drain)
    (hbudget : e.evicted < e.policy.budget) :
    ∃ e', t.start e = (t.removal, t.running, e') ∧ e'.policy = e.policy ∧
      e'.evicted ≤ e.evicted + 1 := by
  unfold Task.start Task.removal Task.running
  cases haction : t.action with
  | skip reason => exact absurd haction (ht.acts reason)
  | refuse reason => exact ⟨e, rfl, rfl, Nat.le_succ _⟩
  | delete => exact ⟨e, rfl, rfl, Nat.le_succ _⟩
  | evict =>
    obtain ⟨hmirror, hdaemonset⟩ := ht.evictable haction
    have hadmits : e.admits t.pod = true := by simp [Evictor.admits, hdrain, hmirror, hdaemonset]
    refine ⟨{ e with evicted := e.evicted + 1 }, ?_, rfl, Nat.le_refl _⟩
    simp [Evictor.start, hadmits, Evictor.reserve, hbudget]

/-! ## Starting tasks -/

structure Roomy (e : Evictor) (waiting : List Task) : Prop where
  drain : e.policy.strategy = .drain
  room : e.evicted + waiting.length ≤ e.policy.budget

/-- As many tasks as there are places for are started, in the order in which they wait. -/
theorem speaks_fill {places : Nat} {r : List Task × List Running × Evictor} {h : Dialogue Api}
    (hplanned : ∀ t ∈ waiting, t.Planned) (he : Roomy e waiting)
    (hs : (fill places waiting (T.map (·.running)) e).Speaks h r) :
    ∃ started waiting' e', r = (waiting', (T ++ started).map (·.running), e') ∧
      started ++ waiting' = waiting ∧ Roomy e' waiting' ∧
      h = started.map (fun t => (⟨.launch t.removal, ()⟩ : Api.Event)) ∧
      (places ≠ 0 → started = [] → waiting = []) := by
  induction places generalizing waiting T e h with
  | zero =>
    obtain ⟨rfl, rfl⟩ := hs
    exact ⟨[], waiting, e, by simp, rfl, he, rfl, fun hplaces => absurd rfl hplaces⟩
  | succ places ih =>
    cases waiting with
    | nil =>
      obtain ⟨rfl, rfl⟩ := hs
      exact ⟨[], [], e, by simp, rfl, he, rfl, fun _ _ => rfl⟩
    | cons t rest =>
      have hroom : e.evicted + (rest.length + 1) ≤ e.policy.budget := he.room
      obtain ⟨e', hstart, hpolicy, hevicted⟩ :=
        start_of_planned (hplanned t List.mem_cons_self) he.drain (by omega)
      have he' : Roomy e' rest := ⟨hpolicy ▸ he.drain, by rw [hpolicy]; omega⟩
      rw [fill, hstart] at hs
      obtain ⟨_, h', rfl, hrest⟩ := hs
      have hrunning : T.map (·.running) ++ [t.running] = (T ++ [t]).map (·.running) := by simp
      rw [hrunning] at hrest
      obtain ⟨started, waiting', e'', rfl, rfl, hroomy, rfl, -⟩ :=
        ih (fun t ht => hplanned t (List.mem_cons_of_mem _ ht)) he' hrest
      refine ⟨t :: started, waiting', e'', by simp, rfl, hroomy, rfl, ?_⟩
      intro _ hnone
      cases hnone

theorem follows_launches {started : List Task}
    (hf : Follows Site.Drains s (started.map fun t => (⟨.launch t.removal, ()⟩ : Api.Event)) d) :
    d = { s with flights := s.flights ++ started.map (·.removal) } := by
  induction started generalizing s with
  | nil =>
    cases hf
    simp
  | cons t rest ih =>
    obtain ⟨m, rfl, hf⟩ := hf
    rw [ih hf]
    simp

theorem started_of_fill {places : Nat} {r : List Task × List Running × Evictor}
    (hplanned : ∀ t ∈ waiting, t.Planned) (he : Roomy e waiting)
    (hs : s.flights = T.map (·.removal))
    (h : (fill places waiting (T.map (·.running)) e).Attains Site.Drains s r d) :
    ∃ started waiting' e', r = (waiting', (T ++ started).map (·.running), e') ∧
      started ++ waiting' = waiting ∧ Roomy e' waiting' ∧
      d = { s with flights := (T ++ started).map (·.removal) } ∧
      (places ≠ 0 → started = [] → waiting = []) := by
  obtain ⟨_, hspeaks, hf⟩ := h
  obtain ⟨started, waiting', e', hr, hwaiting, hroomy, rfl, hnone⟩ :=
    speaks_fill hplanned he hspeaks
  refine ⟨started, waiting', e', hr, hwaiting, hroomy, ?_, hnone⟩
  rw [follows_launches hf, hs, List.map_append]

/-! ## Ends of tasks -/

/-- What the end of a task comes to, with its pod still there: it is refused without a call, or
the pod is gone, or the pod is spared. -/
inductive Ended (t : Task) (answer : Except IsolationError Bool) (s d : Site) : Prop
  | refused (hrefused : t.removal = none) (herror : ∃ err, t.running.outcome answer = .error err)
      (hd : d.cluster = s.cluster ∧ d.spared = s.spared)
  | gone (hcalled : t.removal ≠ none) (hok : t.running.outcome answer = .ok ())
      (hd : d.cluster = s.cluster.removePod t.pod.identity ∧ d.spared = s.spared)
  | spared (hcalled : t.removal ≠ none) (herror : ∃ err, t.running.outcome answer = .error err)
      (hd : d.cluster = s.cluster ∧ d.spared = t.pod.identity :: s.spared)

theorem perform_removal {c : ClusterState} {r : Removal}
    (hpod : (c.findPod r.identity).isSome = true) :
    ∃ a, c.perform r.call = (.ok a, c.removePod r.identity) ∧ r.report (.ok a) = .ok true := by
  obtain ⟨q, hq⟩ := Option.isSome_iff_exists.1 hpod
  cases r with
  | evict p =>
    have hfound : c.findPod p.identity = some q := hq
    exact ⟨true, by simp [Removal.call, ClusterState.perform, hfound, Removal.identity], rfl⟩
  | delete ns name =>
    have hfound : c.findPod (ns ++ "/" ++ name) = some q := hq
    exact ⟨(), by simp [Removal.call, ClusterState.perform, hfound, Removal.identity], rfl⟩

/-- What a removal of a pod that is there may come to.  Only an eviction is ever refused. -/
theorem documented_removal {c c' : ClusterState} {r : Removal}
    {answer : Except IsolationError r.call.Reply} (hpod : (c.findPod r.identity).isSome = true)
    (h : Documented r.call c answer c') :
    (r.report answer = .ok true ∧ c' = c.removePod r.identity) ∨
      c' = c ∧ ((∃ p, r = .evict p ∧ r.report answer = .ok false) ∨
        ∃ err, r.report answer = .error err ∧ err.isNotFound = false) := by
  obtain ⟨a, hperform, hreport⟩ := perform_removal hpod
  have hnever : ∀ {e : IsolationError}, (e.isNotFound = true →
      ∃ e', (c.perform r.call).1 = .error e' ∧ e'.isNotFound = true) → e.isNotFound = false := by
    intro e habsent
    refine Bool.eq_false_iff.2 fun he => ?_
    obtain ⟨e', he', -⟩ := habsent he
    rw [hperform] at he'
    cases he'
  cases r with
  | evict p =>
    change Documented (.evictPod p false) c answer c' at h
    cases h with
    | done =>
      refine .inl ?_
      change (Removal.evict p).report (c.perform (Removal.evict p).call).1 = .ok true ∧
        (c.perform (Removal.evict p).call).2 = _
      rw [hperform]
      exact ⟨hreport, rfl⟩
    | refused => exact .inr ⟨rfl, .inl ⟨p, rfl, rfl⟩⟩
    | failed _ e _ habsent => exact .inr ⟨rfl, .inr ⟨e, rfl, hnever habsent⟩⟩
  | delete ns name =>
    change Documented (.deletePod ns name) c answer c' at h
    cases h with
    | done =>
      refine .inl ?_
      change (Removal.delete ns name).report (c.perform (Removal.delete ns name).call).1 =
        .ok true ∧ (c.perform (Removal.delete ns name).call).2 = _
      rw [hperform]
      exact ⟨hreport, rfl⟩
    | failed _ e _ habsent => exact .inr ⟨rfl, .inr ⟨e, rfl, hnever habsent⟩⟩

/-- A task without a removal ends with an error, whatever it is told. -/
theorem outcome_of_refused (ht : t.Planned) (hrefused : t.removal = none)
    (answer : Except IsolationError Bool) : ∃ err, t.running.outcome answer = .error err := by
  obtain ⟨pod, action⟩ := t
  cases action with
  | skip reason => exact absurd rfl (ht.acts reason)
  | refuse reason => exact ⟨_, rfl⟩
  | evict | delete => cases hrefused

theorem outcome_of_gone {r : Removal} (hr : t.removal = some r) :
    t.running.outcome (.ok true) = .ok () := by
  obtain ⟨pod, action⟩ := t
  cases action with
  | skip reason | refuse reason => cases hr
  | evict | delete => rfl

theorem outcome_of_error {r : Removal} (hr : t.removal = some r) {e : IsolationError}
    (he : e.isNotFound = false) : t.running.outcome (.error e) = .error e := by
  obtain ⟨pod, action⟩ := t
  cases action with
  | skip reason | refuse reason => cases hr
  | evict | delete => simp [Task.running, Running.outcome, he]

theorem outcome_of_notGranted {p : Pod} (hr : t.removal = some (.evict p)) :
    t.running.outcome (.ok false) = .error (.evictionRefused t.pod.name) := by
  obtain ⟨pod, action⟩ := t
  cases action with
  | skip reason | refuse reason | delete => cases hr
  | evict => rfl

theorem ended_of_ends {n : Nat} {i : Fin (n + 1)} {answer : Except IsolationError Bool}
    (ht : t.Planned) (hflight : s.flights[i.val]? = some t.removal)
    (hpod : (s.cluster.findPod t.pod.identity).isSome = true) (h : s.Ends n (i, answer) d) :
    Ended t answer s d ∧ d.flights = s.flights.eraseIdx i := by
  have hsame : ∀ {r}, s.flights[i.val]? = some r → t.removal = r := fun hr =>
    Option.some.inj (hflight.symm.trans hr)
  cases h with
  | vacant _ hnone =>
    have hrefused := hsame hnone
    exact ⟨.refused hrefused (outcome_of_refused ht hrefused _) ⟨rfl, rfl⟩, rfl⟩
  | granted _ r _ c hsome hcall hok =>
    have hr := hsame hsome
    have hidentity := identity_of_removal hr
    have hcalled : t.removal ≠ none := by simp [hr]
    rcases documented_removal (hidentity ▸ hpod) hcall with ⟨-, rfl⟩ | ⟨-, hnot⟩
    · exact ⟨.gone hcalled (outcome_of_gone hr) ⟨by rw [hidentity], rfl⟩, rfl⟩
    · rcases hnot with ⟨_, -, hrefused⟩ | ⟨err, herror, -⟩
      · cases hok.symm.trans hrefused
      · cases hok.symm.trans herror
  | spared _ r _ c hsome hcall hnot =>
    have hr := hsame hsome
    have hidentity := identity_of_removal hr
    have hcalled : t.removal ≠ none := by simp [hr]
    rcases documented_removal (hidentity ▸ hpod) hcall with ⟨hok, -⟩ | ⟨rfl, hkept⟩
    · exact absurd hok hnot
    · refine ⟨.spared hcalled ?_ ⟨rfl, by rw [hidentity]⟩, rfl⟩
      rcases hkept with ⟨p, rfl, hrefused⟩ | ⟨err, herror, habsent⟩
      · rw [hrefused]
        exact ⟨_, outcome_of_notGranted hr⟩
      · rw [herror]
        exact ⟨err, outcome_of_error hr habsent⟩

/-! ## All tasks -/

/-- What tasks have come to: the pods of all of them are gone, but for those that are refused and
those that are newly spared; and there is no error only if none of these remain. -/
structure Cleared (T : List Task) (errors : List IsolationError) (new : List String)
    (s d : Site) : Prop where
  frame : d.cluster.nodes = s.cluster.nodes ∧ d.cluster.workloads = s.cluster.workloads ∧
    d.cluster.ignoresLabels = s.cluster.ignoresLabels
  inOrder : d.cluster.pods.Sublist s.cluster.pods
  spared : d.spared = new ++ s.spared
  known : ∀ i ∈ new, ∃ t ∈ T, t.pod.identity = i
  pods : ∀ p ∈ s.cluster.pods, p ∈ d.cluster.pods ↔
    ∀ t ∈ T, t.pod.identity = p.identity → t.removal = none ∨ p.identity ∈ new
  silent : errors = [] → new = [] ∧ ∀ t ∈ T, t.removal ≠ none

variable {errors : List IsolationError} {new : List String} {m : Site}

theorem cleared_nothing (s : Site) (flights : List (Option Removal)) :
    Cleared [] [] [] s { s with flights } :=
  ⟨⟨rfl, rfl, rfl⟩, List.Sublist.refl _, rfl, by simp, by simp, by simp⟩

theorem Cleared.perm {T' : List Task} (h : Cleared T errors new s d) (hperm : T.Perm T') :
    Cleared T' errors new s d := by
  have hmem : ∀ t, t ∈ T ↔ t ∈ T' := fun t => hperm.mem_iff
  refine ⟨h.frame, h.inOrder, h.spared, ?_, fun p hp => ?_, ?_⟩
  · simpa only [hmem] using h.known
  · simpa only [hmem] using h.pods p hp
  · simpa only [hmem] using h.silent

/-- The error that the end of a task adds to those of the others. -/
def addError (node : String) (t : Task) (answer : Except IsolationError Bool)
    (errors : List IsolationError) : List IsolationError :=
  match t.running.outcome answer with
  | .ok _ => errors
  | .error err => .deschedulePod node t.pod.name err :: errors

theorem cleared_cons {node : String} {answer : Except IsolationError Bool}
    (hs : (s.cluster.pods.map (·.identity)).Nodup)
    (hdistinct : ((t :: T).map (·.pod.identity)).Nodup) (hend : Ended t answer s m)
    (h : Cleared T errors new m d) :
    ∃ new', Cleared (t :: T) (addError node t answer errors) new' s d := by
  rw [List.map_cons, List.nodup_cons] at hdistinct
  have hother : ∀ u ∈ T, u.pod.identity ≠ t.pod.identity := fun u hu heq =>
    hdistinct.1 (List.mem_map.2 ⟨u, hu, heq⟩)
  have hnot : t.pod.identity ∉ new := by
    intro hmem
    obtain ⟨u, hu, heq⟩ := h.known _ hmem
    exact hother u hu heq
  have hknown : ∀ i ∈ new, ∃ u ∈ t :: T, u.pod.identity = i := by
    intro i hi
    obtain ⟨u, hu, heq⟩ := h.known i hi
    exact ⟨u, List.mem_cons_of_mem _ hu, heq⟩
  cases hend with
  | refused hrefused herror hm =>
    -- Nothing is done, so that the others begin where this task began.
    obtain ⟨err, herror⟩ := herror
    refine ⟨new, hm.1 ▸ h.frame, hm.1 ▸ h.inOrder, hm.2 ▸ h.spared, hknown, fun p hp => ?_, ?_⟩
    · rw [h.pods p (hm.1 ▸ hp), List.forall_mem_cons]
      simp [hrefused]
    · simp [addError, herror]
  | gone hcalled hok hm =>
    have hpods : m.cluster.pods = s.cluster.pods.filter (·.identity ≠ t.pod.identity) := by
      rw [hm.1]
      exact ClusterState.pods_removePod hs
    refine ⟨new, ?_, ?_, hm.2 ▸ h.spared, hknown, fun p hp => ?_, fun hnone => ?_⟩
    · have hframe := h.frame
      rw [hm.1] at hframe
      exact hframe
    · refine h.inOrder.trans ?_
      rw [hpods]
      exact List.filter_sublist
    · rw [List.forall_mem_cons]
      by_cases hp' : t.pod.identity = p.identity
      · have hgone : p ∉ d.cluster.pods := by
          intro hleft
          have hmem := h.inOrder.subset hleft
          simp [hpods, hp'] at hmem
        simp [hgone, hcalled, ← hp', hnot]
      · have hleft : p ∈ m.cluster.pods := by
          rw [hpods]
          simpa using ⟨hp, Ne.symm hp'⟩
        rw [h.pods p hleft]
        simp [hp']
    · rw [addError, hok] at hnone
      obtain ⟨hnil, hall⟩ := h.silent hnone
      exact ⟨hnil, List.forall_mem_cons.2 ⟨hcalled, hall⟩⟩
  | spared hcalled herror hm =>
    obtain ⟨err, herror⟩ := herror
    refine ⟨new ++ [t.pod.identity], hm.1 ▸ h.frame, hm.1 ▸ h.inOrder, ?_, ?_, fun p hp => ?_, ?_⟩
    · rw [h.spared, hm.2]
      simp
    · intro i hi
      rcases List.mem_append.1 hi with hi | hi
      · exact hknown i hi
      · exact ⟨t, List.mem_cons_self, (List.mem_singleton.1 hi).symm⟩
    · rw [h.pods p (hm.1 ▸ hp), List.forall_mem_cons]
      by_cases hp' : t.pod.identity = p.identity
      · have hnone : ∀ u ∈ T, u.pod.identity ≠ p.identity := fun u hu => hp' ▸ hother u hu
        have hmem : p.identity ∈ new ++ [t.pod.identity] := by simp [hp']
        exact ⟨fun _ => ⟨fun _ => .inr hmem, fun u hu heq => absurd heq (hnone u hu)⟩,
          fun _ u hu heq => absurd heq (hnone u hu)⟩
      · simp [hp', Ne.symm hp']
    · simp [addError, herror]

theorem Cleared.withFlights {flights : List (Option Removal)}
    (h : Cleared T errors new { s with flights } d) : Cleared T errors new s d :=
  ⟨h.frame, h.inOrder, h.spared, h.known, h.pods, h.silent⟩

theorem pods_of_ended {answer : Except IsolationError Bool}
    (hs : (s.cluster.pods.map (·.identity)).Nodup) (h : Ended t answer s m) :
    m.cluster.pods.Sublist s.cluster.pods ∧
      ∀ p ∈ s.cluster.pods, p.identity ≠ t.pod.identity → p ∈ m.cluster.pods := by
  cases h with
  | refused _ _ hm | spared _ _ hm =>
    rw [hm.1]
    exact ⟨List.Sublist.refl _, fun p hp _ => hp⟩
  | gone _ _ hm =>
    rw [hm.1, ClusterState.pods_removePod hs]
    exact ⟨List.filter_sublist, fun p hp hne => by simpa using ⟨hp, hne⟩⟩

theorem roomy_settle {r : Running} {answer : Except IsolationError Bool} (he : Roomy e waiting) :
    Roomy (r.settle answer e) waiting := by
  have hsettled : (r.settle answer e).policy = e.policy ∧
      (r.settle answer e).evicted ≤ e.evicted := by
    unfold Running.settle Evictor.settle
    split_ifs <;> simp
  have hroom := he.room
  refine ⟨hsettled.1 ▸ he.drain, ?_⟩
  rw [hsettled.1]
  omega

/-- While tasks are under way, one of them ends, whichever it is, and the run goes on with the
others. -/
theorem speaks_turn {node : String} {n : Nat} {rest : List Task} {h : Dialogue Api}
    (hs : (Program.ask (I := Api) (.await (rest.map (·.running)).length) fun (which, answer) => do
      let ended := (t.running :: rest.map (·.running)).get ⟨which.val, which.isLt⟩
      let left := (t.running :: rest.map (·.running)).eraseIdx which.val
      let errors ← runTasks node n waiting left (ended.settle answer e)
      match ended.outcome answer with
      | .ok _ => pure errors
      | .error err => pure (.deschedulePod node ended.task.pod.name err :: errors)).Speaks h errors) :
    ∃ which answer h' errors', ∃ hwhich : which.val < (t :: rest).length,
      h = (⟨.await (rest.map (·.running)).length, (which, answer)⟩ : Api.Event) :: h' ∧
      errors = addError node (t :: rest)[which.val] answer errors' ∧
      (runTasks node n waiting (((t :: rest).eraseIdx which.val).map (·.running))
        ((t :: rest)[which.val].running.settle answer e)).Speaks h' errors' := by
  obtain ⟨⟨which, answer⟩, h', rfl, hs⟩ := hs
  obtain ⟨errors', h₁, h₂, rfl, hrun, hlast⟩ := Program.speaks_andThen.1 hs
  have hwhich : which.val < (t :: rest).length := by simpa using which.isLt
  have hended : (t.running :: rest.map (·.running)).get ⟨which.val, which.isLt⟩ =
      (t :: rest)[which.val].running := by
    rw [List.get_eq_getElem]
    exact List.getElem_map (·.running) (l := t :: rest)
  have hleft : (t.running :: rest.map (·.running)).eraseIdx which.val =
      ((t :: rest).eraseIdx which.val).map (·.running) :=
    List.eraseIdx_map _ (t :: rest) which.val
  have herrors : errors = addError node (t :: rest)[which.val] answer errors' ∧ h₂ = [] := by
    rw [hended] at hlast
    unfold addError
    rw [task_running] at hlast
    split at hlast <;> exact hlast.symm
  obtain ⟨rfl, rfl⟩ := herrors
  rw [hended, hleft] at hrun
  exact ⟨which, answer, h₁, errors', hwhich, by simp, rfl, hrun⟩

/-- Of the tasks under way one ends, whichever it is, and the run goes on with the others. -/
theorem ended_of_runTasks {node : String} {n : Nat} {rest : List Task}
    (hplanned : ∀ u ∈ t :: rest, u.Planned) (hs : (s.cluster.pods.map (·.identity)).Nodup)
    (hthere : ∀ u ∈ t :: rest, u.pod ∈ s.cluster.pods)
    (hflights : s.flights = (t :: rest).map (·.removal))
    (h : (Program.ask (I := Api) (.await (rest.map (·.running)).length) fun (which, answer) => do
      let ended := (t.running :: rest.map (·.running)).get ⟨which.val, which.isLt⟩
      let left := (t.running :: rest.map (·.running)).eraseIdx which.val
      let errors ← runTasks node n waiting left (ended.settle answer e)
      match ended.outcome answer with
      | .ok _ => pure errors
      | .error err => pure (.deschedulePod node ended.task.pod.name err :: errors)).Attains
        Site.Drains s errors d) :
    ∃ u us answer m errors', (u :: us).Perm (t :: rest) ∧ Ended u answer s m ∧
      m.flights = us.map (·.removal) ∧ errors = addError node u answer errors' ∧
      (runTasks node n waiting (us.map (·.running)) (u.running.settle answer e)).Attains
        Site.Drains m errors' d := by
  obtain ⟨_, hspeaks, hf⟩ := h
  obtain ⟨which, answer, h', errors', hwhich, rfl, rfl, hrun⟩ := speaks_turn hspeaks
  obtain ⟨m, hends, hf⟩ := hf
  have hflight : s.flights[which.val]? = some (t :: rest)[which.val].removal := by
    rw [hflights, List.getElem?_map, List.getElem?_eq_getElem hwhich]
    rfl
  have hmem : (t :: rest)[which.val] ∈ t :: rest := List.getElem_mem hwhich
  have hfind : (s.cluster.findPod (t :: rest)[which.val].pod.identity).isSome = true := by
    rw [ClusterState.findPod_of_mem hs (hthere _ hmem)]
    rfl
  obtain ⟨hend, hflights'⟩ := ended_of_ends (hplanned _ hmem) hflight hfind hends
  refine ⟨_, _, answer, m, errors', List.getElem_cons_eraseIdx_perm hwhich, hend, ?_, rfl,
    h', hrun, hf⟩
  rw [hflights', hflights, List.eraseIdx_map]

/-- Tasks that are run, some of them under way and some of them waiting, come to their end. -/
theorem cleared_of_runTasks {node : String} {n : Nat} (hn : T.length + waiting.length ≤ n)
    (hplanned : ∀ t ∈ T ++ waiting, t.Planned) (he : Roomy e waiting)
    (hs : (s.cluster.pods.map (·.identity)).Nodup)
    (hdistinct : ((T ++ waiting).map (·.pod.identity)).Nodup)
    (hthere : ∀ t ∈ T ++ waiting, t.pod ∈ s.cluster.pods)
    (hflights : s.flights = T.map (·.removal))
    (h : (runTasks node n waiting (T.map (·.running)) e).Attains Site.Drains s errors d) :
    ∃ new, Cleared (T ++ waiting) errors new s d := by
  induction n generalizing T waiting e s errors with
  | zero =>
    have hT : T = [] := List.eq_nil_of_length_eq_zero (by omega)
    have hwaiting : waiting = [] := List.eq_nil_of_length_eq_zero (by omega)
    subst hT hwaiting
    obtain ⟨rfl, rfl⟩ := Program.attains_done.1 h
    exact ⟨[], cleared_nothing d d.flights⟩
  | succ n ih =>
    obtain ⟨r, k, hfill, hrest⟩ := Program.attains_andThen.1 h
    obtain ⟨started, waiting, e', rfl, rfl, he', hk, hnone⟩ :=
      started_of_fill (fun t ht => hplanned t (List.mem_append_right _ ht)) he hflights hfill
    -- The tasks that have been started go from those that wait to those under way.
    rw [← List.append_assoc] at hplanned hdistinct hthere ⊢
    rw [List.length_append, ← Nat.add_assoc, ← List.length_append] at hn
    have hcluster : k.cluster = s.cluster := by rw [hk]
    rw [← hcluster] at hs hthere
    generalize hT : T ++ started = under at hk hn hplanned hdistinct hthere hrest ⊢
    cases under with
    | nil =>
      obtain ⟨hT, hstarted⟩ := List.append_eq_nil_iff.1 hT
      subst hT hstarted
      cases hnone (by decide) rfl
      obtain ⟨rfl, rfl⟩ := Program.attains_done.1 hrest
      exact ⟨[], hk ▸ cleared_nothing s _⟩
    | cons t rest =>
      obtain ⟨u, us, answer, m, errors', hheads, hend, hflights', rfl, hrun⟩ :=
        ended_of_runTasks (fun u hu => hplanned u (List.mem_append_left _ hu)) hs
          (fun u hu => hthere u (List.mem_append_left _ hu)) (by rw [hk]) hrest
      -- The task that has ended and all others are those there were.
      have hperm : (u :: (us ++ waiting)).Perm (t :: rest ++ waiting) :=
        hheads.append_right waiting
      have hother : ∀ v ∈ us ++ waiting, v ∈ t :: rest ++ waiting := fun v hv =>
        hperm.mem_iff.1 (List.mem_cons_of_mem _ hv)
      have hdistinct' : ((u :: (us ++ waiting)).map (·.pod.identity)).Nodup :=
        (hperm.map _).nodup_iff.2 hdistinct
      have htail := List.nodup_cons.1 hdistinct'
      have hlength := hperm.length_eq
      simp only [List.length_cons, List.length_append] at hlength hn
      obtain ⟨hsublist, hkept⟩ := pods_of_ended hs hend
      obtain ⟨new, hcleared⟩ := ih (by omega) (fun v hv => hplanned v (hother v hv))
        (roomy_settle he') (hs.sublist (hsublist.map _)) htail.2
        (fun v hv => hkept _ (hthere v (hother v hv)) fun heq =>
          htail.1 (List.mem_map.2 ⟨v, hv, heq⟩))
        hflights' hrun
      obtain ⟨new', hall⟩ := cleared_cons hs hdistinct' hend hcleared
      exact ⟨new', (hk ▸ hall.perm hperm).withFlights⟩

/-! ## Emptying a node -/

section Deschedule

variable {p : Pod} {pods : List Pod} {flags : ResolvedFlags} {kept : List Workload} {u : Target}

/-- Only pods that are neither a node's own nor a daemon set's are evicted. -/
theorem evictable_of_plan (h : plan p flags kept = .evict) :
    isMirror p = false ∧ isDaemonsetPod p = false := by
  obtain ⟨hfree, hdaemonset, -⟩ := removable_iff.1 (plan_eq_evict_iff.1 h).1
  exact ⟨eq_false_of_ne_true hfree.mirror, eq_false_of_ne_true hdaemonset⟩

theorem mem_tasks : t ∈ tasks flags kept pods ↔
    t.pod ∈ pods ∧ t.action = plan t.pod flags kept ∧ ∀ reason, t.action ≠ .skip reason := by
  obtain ⟨pod, action⟩ := t
  constructor
  · intro h
    obtain ⟨p, hp, hsome⟩ := List.mem_filterMap.1 h
    split at hsome
    · cases hsome
    · next hacts =>
      cases hsome
      exact ⟨hp, rfl, hacts⟩
  · rintro ⟨hp, haction, hacts⟩
    change action = plan pod flags kept at haction
    subst haction
    refine List.mem_filterMap.2 ⟨pod, hp, ?_⟩
    split
    · next reason hskip => exact absurd hskip (hacts reason)
    · rfl

theorem sublist_tasks (flags : ResolvedFlags) (kept : List Workload) (pods : List Pod) :
    ((tasks flags kept pods).map (·.pod)).Sublist pods := by
  induction pods with
  | nil => exact List.Sublist.refl _
  | cons p rest ih =>
    unfold tasks at ih ⊢
    rw [List.filterMap_cons]
    cases plan p flags kept with
    | skip reason => exact ih.cons p
    | refuse reason | evict | delete => exact ih.cons_cons p

/-- A pod that is to go has no removal exactly if it may not be removed. -/
theorem removal_eq_none (hacts : ∀ reason, plan p flags kept ≠ .skip reason) :
    (⟨p, plan p flags kept⟩ : Task).removal = none ↔
      ∃ reason, plan p flags kept = .refuse reason := by
  unfold Task.removal
  cases hplan : plan p flags kept with
  | skip reason => exact absurd hplan (hacts reason)
  | refuse reason => simp
  | evict | delete => simp

theorem planned_of_mem_tasks (h : t ∈ tasks flags kept pods) : t.Planned := by
  obtain ⟨-, haction, hacts⟩ := mem_tasks.1 h
  exact ⟨hacts, fun hevict => evictable_of_plan (haction.symm.trans hevict)⟩

/-- The kept workloads of a node that there are. -/
def keptOn (c : ClusterState) (u : Target) : List Workload :=
  u.kept.filterMap fun r => c.findWorkload r.key

def tasksOn (c : ClusterState) (u : Target) : List Task :=
  tasks u.flags (keptOn c u) (c.pods.filter (c.selects (.onNode u.name)))

/-- A pod stays on a node that is emptied: the plan says so, or errors are ignored and the pod may
not be removed or is spared. -/
def Stays (u : Target) (c : ClusterState) (spared : List String) (p : Pod) : Prop :=
  (∃ reason, plan p u.flags (keptOn c u) = .skip reason) ∨
    u.flags.ignoreErrors = true ∧
      ((∃ reason, plan p u.flags (keptOn c u) = .refuse reason) ∨ p.identity ∈ spared)

/-- A node has been emptied. -/
structure Emptied (u : Target) (new : List String) (s d : Site) : Prop where
  frame : d.cluster.nodes = s.cluster.nodes ∧ d.cluster.workloads = s.cluster.workloads ∧
    d.cluster.ignoresLabels = s.cluster.ignoresLabels
  inOrder : d.cluster.pods.Sublist s.cluster.pods
  spared : d.spared = new ++ s.spared
  known : ∀ i ∈ new, ∃ p ∈ s.cluster.pods, p.nodeName = some u.name ∧ p.identity = i
  pods : ∀ p ∈ s.cluster.pods, p ∈ d.cluster.pods ↔
    (p.nodeName = some u.name → Stays u s.cluster new p)

theorem selects_onNode (c : ClusterState) (node : String) (p : Pod) :
    c.selects (.onNode node) p = (p.nodeName == some node) := by
  simp [ClusterState.selects, PodFilter.onNode, PodFilter.everything, Dict.empty]

theorem emptied_of_cleared {errors : List IsolationError}
    (hs : (s.cluster.pods.map (·.identity)).Nodup)
    (herrors : errors ≠ [] → u.flags.ignoreErrors = true)
    (h : Cleared (tasksOn s.cluster u) errors new s d) : Emptied u new s d := by
  have htask : ∀ t, t ∈ tasksOn s.cluster u ↔
      (t.pod ∈ s.cluster.pods ∧ t.pod.nodeName = some u.name) ∧
        t.action = plan t.pod u.flags (keptOn s.cluster u) ∧
          ∀ reason, t.action ≠ .skip reason := by
    intro t
    rw [tasksOn, mem_tasks, List.mem_filter, selects_onNode, beq_iff_eq]
  refine ⟨h.frame, h.inOrder, h.spared, fun i hi => ?_, fun p hp => ?_⟩
  · obtain ⟨t, ht, hidentity⟩ := h.known i hi
    exact ⟨t.pod, ((htask t).1 ht).1.1, ((htask t).1 ht).1.2, hidentity⟩
  · -- A task with the identity of the pod is the task of the pod.
    have hown : ∀ t ∈ tasksOn s.cluster u, t.pod.identity = p.identity →
        t = ⟨p, plan p u.flags (keptOn s.cluster u)⟩ := by
      intro t ht heq
      obtain ⟨⟨hmem, -⟩, haction, -⟩ := (htask t).1 ht
      have hpod : t.pod = p := List.inj_on_of_nodup_map hs hmem hp heq
      obtain ⟨pod, action⟩ := t
      change pod = p at hpod
      subst hpod
      exact congrArg (Task.mk pod) haction
    rw [h.pods p hp]
    by_cases hnode : p.nodeName = some u.name
    · by_cases hskip : ∃ reason, plan p u.flags (keptOn s.cluster u) = .skip reason
      · obtain ⟨reason, hreason⟩ := hskip
        refine ⟨fun _ _ => .inl ⟨reason, hreason⟩, fun _ t ht heq => ?_⟩
        cases hown t ht heq
        exact absurd hreason (((htask _).1 ht).2.2 reason)
      · have hmem := (htask ⟨p, plan p u.flags (keptOn s.cluster u)⟩).2
          ⟨⟨hp, hnode⟩, rfl, not_exists.1 hskip⟩
        have hleft : (∀ t ∈ tasksOn s.cluster u, t.pod.identity = p.identity →
              t.removal = none ∨ p.identity ∈ new) ↔
            (∃ reason, plan p u.flags (keptOn s.cluster u) = .refuse reason) ∨
              p.identity ∈ new := by
          rw [← removal_eq_none (not_exists.1 hskip)]
          refine ⟨fun hall => hall _ hmem rfl, fun hone t ht heq => ?_⟩
          rw [hown t ht heq]
          exact hone
        -- A pod that stays against the plan has cost an error.
        have hcost : (∃ reason, plan p u.flags (keptOn s.cluster u) = .refuse reason) ∨
            p.identity ∈ new → u.flags.ignoreErrors = true := by
          intro hstays
          refine herrors fun hnone => ?_
          obtain ⟨hnil, hall⟩ := h.silent hnone
          rcases hstays with hrefuse | hnew
          · exact hall _ hmem ((removal_eq_none (not_exists.1 hskip)).2 hrefuse)
          · rw [hnil] at hnew
            cases hnew
        rw [hleft]
        exact ⟨fun hstays _ => .inr ⟨hcost hstays, hstays⟩,
          fun hstays => ((hstays hnode).resolve_left hskip).2⟩
    · refine ⟨fun _ h => absurd h hnode, fun _ t ht heq => ?_⟩
      rw [hown t ht heq] at ht
      exact absurd ((htask _).1 ht).1.2 hnode

theorem emptied_of_deschedule (hs : (s.cluster.pods.map (·.identity)).Nodup)
    (hflights : s.flights = []) (h : (deschedule u).run.Attains Site.Drains s (.ok ()) d) :
    ∃ new, Emptied u new s d := by
  obtain ⟨kept, m, hstep, h⟩ := Program.attains_bind h
  obtain ⟨c, hkept, rfl⟩ := Site.attains_sequentially hstep
  obtain ⟨rfl, rfl⟩ := Isolation.yields_keptWorkloads hkept
  obtain ⟨pods, m, hstep, h⟩ := Program.attains_bind h
  obtain ⟨c, hpods, rfl⟩ := Site.attains_sequentially hstep
  have hlist := Clustered.yields_call (by simp) hpods
  cases hlist
  obtain ⟨errors, m, hlift, h⟩ := Program.attains_bind h
  obtain ⟨errors', m', hrun, hdone⟩ := Program.attains_andThen.1 hlift
  obtain ⟨herrors, rfl⟩ := Program.attains_done.1 hdone
  cases herrors
  change (runTasks u.name (tasksOn s.cluster u).length (tasksOn s.cluster u) []
    (.new ⟨.drain, (tasksOn s.cluster u).length, false⟩)).Attains Site.Drains s errors m at hrun
  have hsublist : ((tasksOn s.cluster u).map (·.pod)).Sublist s.cluster.pods :=
    (sublist_tasks _ _ _).trans List.filter_sublist
  have hdistinct : ((tasksOn s.cluster u).map (·.pod.identity)).Nodup := by
    have hmap := hs.sublist (hsublist.map (·.identity))
    rwa [List.map_map] at hmap
  obtain ⟨new, hcleared⟩ := cleared_of_runTasks (T := []) (Nat.le_of_eq (Nat.zero_add _))
    (fun t ht => planned_of_mem_tasks ht) ⟨rfl, Nat.le_of_eq (Nat.zero_add _)⟩ hs hdistinct
    (fun t ht => hsublist.subset (List.mem_map_of_mem ht)) hflights hrun
  have hend : d = m ∧ (errors ≠ [] → u.flags.ignoreErrors = true) := by
    cases errors with
    | nil => exact ⟨(Program.attains_done.1 h).2, fun hsome => absurd rfl hsome⟩
    | cons err rest =>
      by_cases hignore : u.flags.ignoreErrors = true
      · simp only [hignore, if_true] at h
        exact ⟨(Program.attains_done.1 h).2, fun _ => hignore⟩
      · simp only [hignore] at h
        cases (Program.attains_done.1 h).1
  rw [hend.1]
  exact ⟨new, emptied_of_cleared hs hend.2 hcleared⟩

end Deschedule

end Cordon.Drain
