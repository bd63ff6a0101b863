import Cordon.Proofs.Drain.Removals

/-! # Emptying a node, whatever is answered

Removals run side by side and end in any order, each with any outcome.  A dialogue shows which
removals were launched (`launched`), and with which outcome each of them ended (`ended`, which keeps
account of those under way).  None of this depends on how a cluster answers, so it holds on every
cluster.

`speaks_runTasks` is by induction on the tasks that are left: in any order, each task starts once
and ends once.  `deschedule_exact` puts it together: exactly the planned removals are launched, and
whether a node is emptied without an error is a matter of the outcomes alone, not of their order.
-/

namespace Cordon.Drain

open Kube (Pod)

/-! ## What a dialogue shows -/

/-- The removals that were launched, in order. -/
def launched (h : Dialogue Api) : List Removal :=
  h.filterMap fun
    | ⟨.launch r, _⟩ => r
    | ⟨.call _, _⟩ | ⟨.await _, _⟩ => none

/-- The calls other than removals, with their answers. -/
def heard (h : Dialogue Api) : Dialogue ClusterApi :=
  h.filterMap fun
    | ⟨.call c, answer⟩ => some ⟨c, answer⟩
    | ⟨.launch _, _⟩ | ⟨.await _, _⟩ => none

/-- What was under way and has ended, in the order of the ends and with the outcomes, where these
were under way before. -/
def ended : List (Option Removal) → Dialogue Api →
    List (Option Removal × Except IsolationError Bool)
  | _, [] => []
  | under, ⟨.call _, _⟩ :: h => ended under h
  | under, ⟨.launch r, _⟩ :: h => ended (under ++ [r]) h
  | under, ⟨.await _, (which, answer)⟩ :: h =>
    match under[which.val]? with
    | some r => (r, answer) :: ended (under.eraseIdx which.val) h
    | none => ended under h

def said (e : ClusterApi.Event) : Api.Event := ⟨.call e.1, e.2⟩

section Said

variable {k : Dialogue ClusterApi} {h h' : Dialogue Api} {under : List (Option Removal)}

theorem launched_append : launched (h ++ h') = launched h ++ launched h' := List.filterMap_append

theorem heard_append : heard (h ++ h') = heard h ++ heard h' := List.filterMap_append

theorem launched_said : launched (k.map said) = [] := by
  simp [launched, said, List.filterMap_map]

theorem heard_said : heard (k.map said) = k := by
  simp [heard, said, List.filterMap_map, Function.comp_def]

theorem ended_said : ended under (k.map said ++ h) = ended under h := by
  induction k with
  | nil => rfl
  | cons e rest ih => exact ih

theorem speaks_sequentially {α : Type} {p : Clustered α} {r : Except IsolationError α}
    (hs : (sequentially p).run.Speaks h r) : ∃ k, p.run.Speaks k r ∧ h = k.map said := by
  change (Program.interpret (J := Api) _ p.run).Speaks h r at hs
  generalize p.run = q at hs
  induction q generalizing h with
  | done a =>
    obtain ⟨rfl, rfl⟩ := hs
    exact ⟨[], ⟨rfl, rfl⟩, rfl⟩
  | ask c resume ih =>
    obtain ⟨answer, h', rfl, hs⟩ := hs
    obtain ⟨k, hk, rfl⟩ := ih answer hs
    exact ⟨⟨c, answer⟩ :: k, ⟨answer, k, rfl, hk⟩, rfl⟩

end Said

/-! ## Running tasks -/

section Tasks

variable {T waiting : List Task} {e : Evictor} {errors : List IsolationError} {h : Dialogue Api}

def launches (started : List Task) : Dialogue Api :=
  started.map fun t => ⟨.launch t.removal, ()⟩

theorem launched_launches (started : List Task) :
    launched (launches started) = started.filterMap (·.removal) := by
  simp [launched, launches, List.filterMap_map]

theorem heard_launches (started : List Task) : heard (launches started) = [] := by
  simp [heard, launches, List.filterMap_map]

theorem ended_launches (started : List Task) :
    ended (T.map (·.removal)) (launches started ++ h) =
      ended ((T ++ started).map (·.removal)) h := by
  induction started generalizing T with
  | nil => simp [launches]
  | cons t rest ih =>
    show ended (T.map (·.removal) ++ [t.removal]) (launches rest ++ h) = _
    have happend : T.map (·.removal) ++ [t.removal] = (T ++ [t]).map (·.removal) := by simp
    rw [happend, ih, List.append_assoc, List.singleton_append]

/-- Tasks that are run, some of them under way and some of them waiting, start and end once each,
in whichever order they end. -/
theorem speaks_runTasks {node : String} {n : Nat} (hn : T.length + waiting.length ≤ n)
    (hplanned : ∀ t ∈ T ++ waiting, t.Planned) (he : Roomy e waiting)
    (hs : (runTasks node n waiting (T.map (·.running)) e).Speaks h errors) :
    heard h = [] ∧ launched h = waiting.filterMap (·.removal) ∧
      ∃ ends : List (Task × Except IsolationError Bool), (ends.map (·.1)).Perm (T ++ waiting) ∧
        ended (T.map (·.removal)) h = ends.map (fun x => (x.1.removal, x.2)) ∧
        errors = ends.foldr (fun x => addError node x.1 x.2) [] := by
  induction n generalizing T waiting e h errors with
  | zero =>
    have hT : T = [] := List.eq_nil_of_length_eq_zero (by omega)
    have hwaiting : waiting = [] := List.eq_nil_of_length_eq_zero (by omega)
    subst hT hwaiting
    obtain ⟨rfl, rfl⟩ := hs
    exact ⟨rfl, rfl, [], .nil, rfl, rfl⟩
  | succ n ih =>
    obtain ⟨r, h₁, h₂, rfl, hfill, hrest⟩ := Program.speaks_andThen.1 hs
    obtain ⟨started, waiting, e', rfl, rfl, he', hlaunches, hnone⟩ :=
      speaks_fill (fun t ht => hplanned t (List.mem_append_right _ ht)) he hfill
    cases (show h₁ = launches started from hlaunches)
    -- The tasks that have been started go from those that wait to those under way.
    rw [← List.append_assoc] at hplanned
    rw [List.length_append, ← Nat.add_assoc, ← List.length_append] at hn
    rw [heard_append, heard_launches, launched_append, launched_launches, ended_launches,
      List.filterMap_append, ← List.append_assoc]
    generalize hT : T ++ started = under at hn hplanned hrest ⊢
    cases under with
    | nil =>
      obtain ⟨hT, hstarted⟩ := List.append_eq_nil_iff.1 hT
      subst hT hstarted
      cases hnone (by decide) rfl
      obtain ⟨rfl, rfl⟩ := hrest
      exact ⟨rfl, rfl, [], .nil, rfl, rfl⟩
    | cons t rest =>
      obtain ⟨which, answer, h', errors', hwhich, rfl, rfl, hrun⟩ := speaks_turn hrest
      -- The task that has ended and all others are those there were.
      have hperm := List.getElem_cons_eraseIdx_perm hwhich
      have hall := hperm.append_right waiting
      have hlength := hall.length_eq
      simp only [List.cons_append, List.length_cons, List.length_append] at hlength hn
      obtain ⟨hheard, hlaunched, ends, hends, hended, rfl⟩ := ih (by omega)
        (fun u hu => hplanned u (hall.mem_iff.1 (List.mem_cons_of_mem _ hu))) (roomy_settle he') hrun
      have hunder : ((t :: rest).map (·.removal))[which.val]? =
          some (t :: rest)[which.val].removal := by
        rw [List.getElem?_map, List.getElem?_eq_getElem hwhich]
        rfl
      refine ⟨hheard, congrArg _ hlaunched, ((t :: rest)[which.val], answer) :: ends, ?_, ?_, rfl⟩
      · exact (hends.cons _).trans hall
      · rw [ended, hunder, List.eraseIdx_map, hended]
        rfl

end Tasks

/-! ## Looking kept workloads up -/

/-- The workloads that were found. -/
def found (k : Dialogue ClusterApi) : List Workload :=
  k.filterMap fun
    | ⟨.getWorkload _, .ok w⟩ => some w
    | _ => none

/-- A call failed that has to succeed before pods are removed. -/
def Foiled (k : Dialogue ClusterApi) (e : IsolationError) : Prop :=
  (∃ key, ⟨.getWorkload key, .error e⟩ ∈ k ∧ e.isNotFound = false) ∨
    ∃ f, ⟨.listPods f, .error e⟩ ∈ k

/-- What looking kept workloads up comes to: an error exactly if a look-up has failed. -/
structure LookedUp (refs : List ResourceRef) (k : Dialogue ClusterApi)
    (r : Except IsolationError (List Workload)) : Prop where
  lookups : ∀ e ∈ k, ∃ key, e.1 = .getWorkload key
  all : ∀ ws, r = .ok ws → ws = found k ∧ k.map (·.1) = refs.map fun r => .getWorkload r.key
  failed : ∀ e, Foiled k e ↔ r = .error e

theorem foiled_cons {e : IsolationError} {key : ResourceKey}
    {answer : Except IsolationError Workload} {k : Dialogue ClusterApi} :
    Foiled (⟨.getWorkload key, answer⟩ :: k) e ↔
      (answer = .error e ∧ e.isNotFound = false) ∨ Foiled k e := by
  unfold Foiled
  simp only [List.mem_cons]
  constructor
  · rintro (⟨key', heq | hmem, he⟩ | ⟨f, heq | hmem⟩)
    · cases heq
      exact .inl ⟨rfl, he⟩
    · exact .inr (.inl ⟨key', hmem, he⟩)
    · cases heq
    · exact .inr (.inr ⟨f, hmem⟩)
  · rintro (⟨rfl, he⟩ | ⟨key', hmem, he⟩ | ⟨f, hmem⟩)
    · exact .inl ⟨key, .inl rfl, he⟩
    · exact .inl ⟨key', .inr hmem, he⟩
    · exact .inr ⟨f, .inr hmem⟩

theorem foiled_listing {e : IsolationError} {f : PodFilter}
    {answer : Except IsolationError (List Pod)} {k : Dialogue ClusterApi} :
    Foiled (k ++ [⟨.listPods f, answer⟩]) e ↔ Foiled k e ∨ answer = .error e := by
  unfold Foiled
  simp only [List.mem_append, List.mem_singleton]
  constructor
  · rintro (⟨key, hmem | heq, he⟩ | ⟨f', hmem | heq⟩)
    · exact .inl (.inl ⟨key, hmem, he⟩)
    · cases heq
    · exact .inl (.inr ⟨f', hmem⟩)
    · cases heq
      exact .inr rfl
  · rintro ((⟨key, hmem, he⟩ | ⟨f', hmem⟩) | rfl)
    · exact .inl ⟨key, .inl hmem, he⟩
    · exact .inr ⟨f', .inl hmem⟩
    · exact .inr ⟨f, .inr rfl⟩

theorem not_foiled_nil (e : IsolationError) : ¬ Foiled [] e := by simp [Foiled]

/-- An object is looked up with one call, and may be absent. -/
theorem speaks_ifPresent {c : ClusterCall} {k : Dialogue ClusterApi}
    {r : Except IsolationError (Option c.Reply)}
    (hs : (Isolation.ifPresent (call c)).run.Speaks k r) :
    ∃ answer, k = [⟨c, answer⟩] ∧
      (∀ e, r = .error e ↔ answer = .error e ∧ e.isNotFound = false) ∧
      ∀ a, r = .ok a → a = answer.toOption := by
  obtain ⟨answer, k', rfl, hs⟩ := hs
  cases answer with
  | ok a =>
    obtain ⟨rfl, rfl⟩ := hs
    refine ⟨_, rfl, by simp, fun a' ha' => ?_⟩
    cases ha'
    rfl
  | error e =>
    change Program.Speaks (ExceptT.run (if e.isNotFound then (pure none : Clustered _)
      else throw e)) k' r at hs
    split at hs
    · next habsent =>
      obtain ⟨rfl, rfl⟩ := hs
      refine ⟨_, rfl, ?_, fun a' ha' => ?_⟩
      · rintro e'
        simp only [reduceCtorEq, Except.error.injEq, false_iff, not_and]
        rintro rfl
        simp [habsent]
      · cases ha'
        rfl
    · next hpresent =>
      obtain ⟨rfl, rfl⟩ := hs
      refine ⟨_, rfl, ?_, fun a' ha' => by cases ha'⟩
      rintro e'
      simp only [Except.error.injEq, iff_self_and]
      rintro rfl
      simpa using hpresent

theorem speaks_keptWorkloads {refs : List ResourceRef} {k : Dialogue ClusterApi}
    {r : Except IsolationError (List Workload)} (hs : (keptWorkloads refs).run.Speaks k r) :
    LookedUp refs k r := by
  induction refs generalizing k r with
  | nil =>
    obtain ⟨rfl, rfl⟩ := hs
    exact ⟨by simp, by simp [found], by simp [not_foiled_nil]⟩
  | cons ref rest ih =>
    obtain ⟨first, k₁, k₂, rfl, hfirst, hs⟩ := Program.speaks_andThen.1 hs
    obtain ⟨answer, rfl, hfailed, hfound⟩ := speaks_ifPresent hfirst
    cases first with
    | error err =>
      obtain ⟨rfl, rfl⟩ := hs
      refine ⟨by simp, by simp, fun e => ?_⟩
      refine (foiled_cons.trans (or_iff_left (not_foiled_nil e))).trans ((hfailed e).symm.trans ?_)
      simp
    | ok w =>
      have hw : found [(⟨.getWorkload ref.key, answer⟩ : ClusterApi.Event)] = w.toList := by
        rw [hfound w rfl]
        cases answer <;> rfl
      have hpassed : ∀ e, ¬ (answer = .error e ∧ e.isNotFound = false) := by
        intro e
        rw [← hfailed]
        simp
      obtain ⟨others, k', k'', rfl, hrest, hlast⟩ := Program.speaks_andThen.1 hs
      obtain ⟨hlookups, hall, hfailed'⟩ := ih hrest
      have hend : k'' = [] ∧ r = others.map (w.toList ++ ·) := by
        cases others <;> exact hlast
      obtain ⟨rfl, rfl⟩ := hend
      rw [List.append_nil]
      refine ⟨List.forall_mem_cons.2 ⟨⟨_, rfl⟩, hlookups⟩, fun ws hws => ?_, fun e => ?_⟩
      · cases others with
        | error e => cases hws
        | ok ws' =>
          cases hws
          obtain ⟨rfl, hcalls⟩ := hall ws' rfl
          exact ⟨by rw [← hw]; exact List.filterMap_append.symm, congrArg _ hcalls⟩
      · refine (foiled_cons.trans (or_iff_right (hpassed e))).trans ((hfailed' e).trans ?_)
        cases others <;> simp [Except.map]

/-! ## Emptying a node -/

/-- How a pod is removed, if it is to go and may be removed. -/
def removalOf (flags : ResolvedFlags) (kept : List Workload) (p : Pod) : Option Removal :=
  match plan p flags kept with
  | .evict => some (.evict p)
  | .delete => some (.delete p.metadata.anyNamespace p.name)
  | .skip _ | .refuse _ => none

/-- A removal has rid the node of its pod, or the pod had gone by itself. -/
def Succeeded : Removal → Except IsolationError Bool → Prop
  | .evict _, .ok granted => granted = true
  | .delete _ _, .ok _ => True
  | _, .error e => e.isNotFound = true

/-- A node has been emptied as planned, or as far as that went. -/
structure Drained (t : Target) (h : Dialogue Api) (r : Except IsolationError Unit)
    (kept : List Workload) (pods : List Pod) : Prop where
  launches : launched h = pods.filterMap (removalOf t.flags kept)
  ends : ((ended [] h).filterMap (·.1)).Perm (launched h)
  ignored : t.flags.ignoreErrors = true → r = .ok ()
  judged : t.flags.ignoreErrors = false → (r = .ok () ↔
    (∀ p ∈ pods, ∀ reason, plan p t.flags kept ≠ .refuse reason) ∧
      ∀ removal answer, (some removal, answer) ∈ ended [] h → Succeeded removal answer)
  /-- An error is that of some pod. -/
  reported : ∀ e, r = .error e → ∃ p ∈ pods, ∃ err, e = .deschedulePod t.name p.name err ∧
    ((∃ reason, plan p t.flags kept = .refuse reason ∧ err = .undrainablePod p.name reason) ∨
      ∃ removal answer, removalOf t.flags kept p = some removal ∧
        (some removal, answer) ∈ ended [] h ∧ ¬ Succeeded removal answer)

section Deschedule

variable {t : Target} {h : Dialogue Api} {r : Except IsolationError Unit} {pods : List Pod}
  {flags : ResolvedFlags} {kept : List Workload}

theorem removals_tasks (flags : ResolvedFlags) (kept : List Workload) (pods : List Pod) :
    (tasks flags kept pods).filterMap (·.removal) = pods.filterMap (removalOf flags kept) := by
  unfold tasks
  rw [List.filterMap_filterMap]
  refine List.filterMap_congr fun p _ => ?_
  unfold removalOf
  cases plan p flags kept <;> rfl

theorem removal_of_mem_tasks {u : Task} (hu : u ∈ tasks flags kept pods) :
    u.removal = removalOf flags kept u.pod := by
  obtain ⟨-, haction, -⟩ := mem_tasks.1 hu
  cases hplan : plan u.pod flags kept <;> simp only [Task.removal, removalOf, haction, hplan]

/-- The errors of a run of tasks are those of the single tasks. -/
theorem mem_foldr_addError {node : String} {ends : List (Task × Except IsolationError Bool)}
    {e : IsolationError} :
    e ∈ ends.foldr (fun x => addError node x.1 x.2) [] ↔
      ∃ x ∈ ends, ∃ err, x.1.running.outcome x.2 = .error err ∧
        e = .deschedulePod node x.1.pod.name err := by
  induction ends with
  | nil => simp
  | cons x rest ih =>
    rw [List.foldr_cons, addError]
    cases hx : x.1.running.outcome x.2 with
    | ok _ => simp [ih, hx]
    | error err => simp [ih, hx]

theorem foldr_addError_eq_nil {node : String}
    {ends : List (Task × Except IsolationError Bool)} :
    ends.foldr (fun x => addError node x.1 x.2) [] = [] ↔
      ∀ x ∈ ends, x.1.running.outcome x.2 = .ok () := by
  induction ends with
  | nil => simp
  | cons x rest ih =>
    rw [List.foldr_cons, List.forall_mem_cons, addError]
    cases hx : x.1.running.outcome x.2 with
    | ok _ => simpa using ih
    | error e => simp

/-- What a planned task may end with. -/
inductive Outcome (u : Task) (answer : Except IsolationError Bool) : Prop
  | refused (reason : String) (haction : u.action = .refuse reason)
      (herror : u.running.outcome answer = .error (.undrainablePod u.pod.name reason))
  | succeeded (removal : Removal) (hremoval : u.removal = some removal)
      (hanswer : Succeeded removal answer) (hok : u.running.outcome answer = .ok ())
  | failed (removal : Removal) (hremoval : u.removal = some removal)
      (hanswer : ¬ Succeeded removal answer) (err : IsolationError)
      (herror : u.running.outcome answer = .error err)

theorem outcome_of_planned {u : Task} (hu : u.Planned) (answer : Except IsolationError Bool) :
    Outcome u answer := by
  obtain ⟨pod, action⟩ := u
  cases action with
  | skip reason => exact absurd rfl (hu.acts reason)
  | refuse reason => exact .refused reason rfl rfl
  | evict =>
    rcases answer with e | _ | _
    · cases habsent : e.isNotFound with
      | true => exact .succeeded _ rfl habsent (by simp [Task.running, Running.outcome, habsent])
      | false =>
        exact .failed _ rfl (by simp [Succeeded, habsent]) e
          (by simp [Task.running, Running.outcome, habsent])
    · exact .failed _ rfl (by simp [Succeeded]) _ rfl
    · exact .succeeded _ rfl rfl rfl
  | delete =>
    cases answer with
    | ok granted => exact .succeeded _ rfl trivial rfl
    | error e =>
      cases habsent : e.isNotFound with
      | true => exact .succeeded _ rfl habsent (by simp [Task.running, Running.outcome, habsent])
      | false =>
        exact .failed _ rfl (by simp [Succeeded, habsent]) e
          (by simp [Task.running, Running.outcome, habsent])

section Ends

variable {ends : List (Task × Except IsolationError Bool)}

/-- Tasks that have run without an error are those that were not refused and whose removals have
succeeded. -/
theorem outcomes_ok (hplanned : ∀ x ∈ ends, x.1.Planned) :
    (∀ x ∈ ends, x.1.running.outcome x.2 = .ok ()) ↔
      (∀ x ∈ ends, ∀ reason, x.1.action ≠ .refuse reason) ∧
        ∀ x ∈ ends, ∀ removal, x.1.removal = some removal → Succeeded removal x.2 := by
  constructor
  · intro hall
    refine ⟨fun x hx reason hreason => ?_, fun x hx removal hremoval => ?_⟩
    · cases outcome_of_planned (hplanned x hx) x.2 with
      | refused _ _ herror => cases (hall x hx).symm.trans herror
      | succeeded _ hsome | failed _ hsome =>
        unfold Task.removal at hsome
        rw [hreason] at hsome
        cases hsome
    · cases outcome_of_planned (hplanned x hx) x.2 with
      | refused _ _ herror => cases (hall x hx).symm.trans herror
      | succeeded _ hsome hanswer =>
        cases hsome.symm.trans hremoval
        exact hanswer
      | failed _ _ _ _ herror => cases (hall x hx).symm.trans herror
  · rintro ⟨hrefused, hsucceeded⟩ x hx
    cases outcome_of_planned (hplanned x hx) x.2 with
    | refused reason haction => exact absurd haction (hrefused x hx reason)
    | succeeded _ _ _ hok => exact hok
    | failed removal hsome hanswer => exact absurd (hsucceeded x hx removal hsome) hanswer

/-- Tasks of a node that have come to their ends leave it drained. -/
theorem drained_of_ends {errors : List IsolationError}
    (hlaunched : launched h = (tasks t.flags kept pods).filterMap (·.removal))
    (hends : (ends.map (·.1)).Perm (tasks t.flags kept pods))
    (hended : ended [] h = ends.map (fun x => (x.1.removal, x.2)))
    (herrors : errors = ends.foldr (fun x => addError t.name x.1 x.2) [])
    (hnone : errors = [] → r = .ok ())
    (hsome : ∀ e rest, errors = e :: rest →
      r = if t.flags.ignoreErrors then .ok () else .error e) : Drained t h r kept pods := by
  have htask : ∀ u, u ∈ tasks t.flags kept pods ↔ ∃ x ∈ ends, x.1 = u := fun u => by
    rw [← hends.mem_iff, List.mem_map]
  have hplanned : ∀ x ∈ ends, x.1.Planned := fun x hx =>
    planned_of_mem_tasks ((htask x.1).2 ⟨x, hx, rfl⟩)
  have hmem : ∀ removal answer, (some removal, answer) ∈ ended [] h ↔
      ∃ x ∈ ends, x.1.removal = some removal ∧ x.2 = answer := fun removal answer => by
    rw [hended, List.mem_map]
    simp only [Prod.mk.injEq]
  refine ⟨hlaunched.trans (removals_tasks _ _ _), ?_, fun hignore => ?_, fun hstrict => ?_, ?_⟩
  · have hremovals : (ends.map fun x => (x.1.removal, x.2)).filterMap (·.1) =
        (ends.map (·.1)).filterMap (·.removal) := by
      simp only [List.filterMap_map, Function.comp_def]
    rw [hlaunched, hended, hremovals]
    exact hends.filterMap _
  · cases herr : errors with
    | nil => exact hnone herr
    | cons e rest => rw [hsome e rest herr, hignore, if_pos rfl]
  · have hnil : r = .ok () ↔ errors = [] := by
      constructor
      · intro hr
        cases herr : errors with
        | nil => rfl
        | cons e rest =>
          have hr' := hsome e rest herr
          simp [hr, hstrict] at hr'
      · exact hnone
    have hall : errors = [] ↔ ∀ x ∈ ends, x.1.running.outcome x.2 = .ok () := by
      rw [herrors]
      exact foldr_addError_eq_nil
    rw [hnil, hall, outcomes_ok hplanned]
    refine and_congr ⟨fun h p hp reason hplan => ?_, fun h x hx reason hreason => ?_⟩
      ⟨fun h removal answer hin => ?_, fun h x hx removal hremoval => ?_⟩
    · obtain ⟨x, hx, hxp⟩ := (htask ⟨p, plan p t.flags kept⟩).1
        (mem_tasks.2 ⟨hp, rfl, by simp [hplan]⟩)
      exact h x hx reason (by rw [hxp]; exact hplan)
    · obtain ⟨hp, haction, -⟩ := mem_tasks.1 ((htask x.1).2 ⟨x, hx, rfl⟩)
      exact h x.1.pod hp reason (haction.symm.trans hreason)
    · obtain ⟨x, hx, hremoval, rfl⟩ := (hmem removal answer).1 hin
      exact h x hx removal hremoval
    · exact h removal x.2 ((hmem removal x.2).2 ⟨x, hx, hremoval, rfl⟩)
  · intro e he
    cases herr : errors with
    | nil => cases (hnone herr).symm.trans he
    | cons e' rest =>
      have hr' := hsome e' rest herr
      rw [he] at hr'
      split at hr'
      · cases hr'
      · cases hr'
        have hin : e ∈ errors := by rw [herr]; exact List.mem_cons_self
        rw [herrors] at hin
        obtain ⟨x, hx, err, hfail, rfl⟩ := mem_foldr_addError.1 hin
        have hu := (htask x.1).2 ⟨x, hx, rfl⟩
        obtain ⟨hp, haction, -⟩ := mem_tasks.1 hu
        refine ⟨x.1.pod, hp, err, rfl, ?_⟩
        cases outcome_of_planned (hplanned x hx) x.2 with
        | refused reason hreason herror =>
          cases herror.symm.trans hfail
          exact .inl ⟨reason, haction.symm.trans hreason, rfl⟩
        | succeeded _ _ _ hok => cases hok.symm.trans hfail
        | failed removal hremoval hanswer =>
          exact .inr ⟨removal, x.2, (removal_of_mem_tasks hu).symm.trans hremoval,
            (hmem removal x.2).2 ⟨x, hx, hremoval, rfl⟩, hanswer⟩

end Ends

/-- The removals of a node, run to their ends. -/
theorem drained_of_speaks
    (hs : ExceptT.run (m := Program Api) (do
      let errors ← ExceptT.lift (runTasks t.name (tasks t.flags kept pods).length
        (tasks t.flags kept pods) [] (.new ⟨.drain, (tasks t.flags kept pods).length, false⟩))
      match errors with
      | [] => pure ()
      | e :: _ => if t.flags.ignoreErrors then pure () else throw e) |>.Speaks h r) :
    heard h = [] ∧ Drained t h r kept pods := by
  obtain ⟨errors, h₁, h₂, rfl, hlift, hend⟩ := Program.speaks_andThen.1 hs
  obtain ⟨errors', h₃, h₄, rfl, hrun, rfl, rfl⟩ := Program.speaks_andThen.1 hlift
  obtain ⟨hheard, hlaunched, ends, hperm, hended, herrors⟩ := speaks_runTasks (T := [])
    (Nat.le_of_eq (Nat.zero_add _)) (fun u hu => planned_of_mem_tasks hu)
    ⟨rfl, Nat.le_of_eq (Nat.zero_add _)⟩ hrun
  have hlast : h₂ = [] ∧ (errors' = [] → r = .ok ()) ∧ ∀ e rest, errors' = e :: rest →
      r = if t.flags.ignoreErrors then .ok () else .error e := by
    cases errors' with
    | nil =>
      obtain ⟨rfl, rfl⟩ := hend
      exact ⟨rfl, fun _ => rfl, by simp⟩
    | cons e rest =>
      change Program.Speaks (ExceptT.run (if t.flags.ignoreErrors then
        (pure () : ExceptT IsolationError (Program Api) Unit) else throw e)) h₂ r at hend
      split at hend
      · next hignore =>
        obtain ⟨rfl, rfl⟩ := hend
        exact ⟨rfl, fun _ => rfl, fun _ _ _ => (if_pos hignore).symm⟩
      · next hstrict =>
        obtain ⟨rfl, rfl⟩ := hend
        refine ⟨rfl, by simp, fun e' rest' heq => ?_⟩
        cases heq
        exact (if_neg hstrict).symm
  obtain ⟨rfl, hnone, hsome⟩ := hlast
  rw [List.append_nil, List.append_nil]
  exact ⟨hheard, drained_of_ends hlaunched hperm hended herrors hnone hsome⟩

theorem Drained.after_calls (hd : Drained t h r kept pods) (k : Dialogue ClusterApi) :
    Drained t (k.map said ++ h) r kept pods := by
  have hlaunched : launched (k.map said ++ h) = launched h := by
    rw [launched_append, launched_said, List.nil_append]
  obtain ⟨hlaunches, hends, hignored, hjudged, hreported⟩ := hd
  rw [← ended_said (k := k)] at hends hjudged hreported
  rw [← hlaunched] at hlaunches hends
  exact ⟨hlaunches, hends, hignored, hjudged, hreported⟩

/-- Whether a node is drained without an error does not depend on the order of the ends. -/
theorem Drained.agrees {h' : Dialogue Api} {r' : Except IsolationError Unit}
    (hd : Drained t h r kept pods) (hd' : Drained t h' r' kept pods)
    (hperm : (ended [] h).Perm (ended [] h')) : r = .ok () ↔ r' = .ok () := by
  cases hignore : t.flags.ignoreErrors with
  | true => rw [hd.ignored hignore, hd'.ignored hignore]
  | false =>
    rw [hd.judged hignore, hd'.judged hignore]
    simp only [hperm.mem_iff]

/-- A node is emptied of exactly the pods that are planned to go, unless the calls before that
fail. -/
theorem deschedule_exact (hs : (deschedule t).run.Speaks h r) :
    (∀ e, Foiled (heard h) e → launched h = [] ∧ r = .error e) ∧
    ((∀ e, ¬ Foiled (heard h) e) → ∃ pods,
      (heard h).map (·.1) =
        t.kept.map (fun r => .getWorkload r.key) ++ [.listPods (.onNode t.name)] ∧
      ⟨.listPods (.onNode t.name), .ok pods⟩ ∈ heard h ∧
      Drained t h r (found (heard h)) pods) := by
  obtain ⟨kept, h₁, h₂, rfl, hkept, hrest⟩ := Program.speaks_andThen.1 hs
  obtain ⟨k, hk, rfl⟩ := speaks_sequentially hkept
  obtain ⟨hlookups, hall, hfailed⟩ := speaks_keptWorkloads hk
  cases kept with
  | error err =>
    obtain ⟨rfl, rfl⟩ := hrest
    rw [List.append_nil, heard_said, launched_said]
    refine ⟨fun e he => ?_, fun hnone => absurd ((hfailed err).2 rfl) (hnone err)⟩
    cases (hfailed e).1 he
    exact ⟨rfl, rfl⟩
  | ok ws =>
    obtain ⟨rfl, hcalls⟩ := hall ws rfl
    have hfree : ∀ e, ¬ Foiled k e := fun e he => by cases (hfailed e).1 he
    obtain ⟨listed, h₃, h₄, rfl, hlist, hrest'⟩ := Program.speaks_andThen.1 hrest
    obtain ⟨k', hk', rfl⟩ := speaks_sequentially hlist
    obtain ⟨_, _, rfl, rfl, rfl⟩ := hk'
    rw [← List.append_assoc, ← List.map_append]
    cases listed with
    | error err =>
      obtain ⟨rfl, rfl⟩ := hrest'
      rw [List.append_nil, heard_said, launched_said]
      refine ⟨fun e he => ⟨rfl, ?_⟩, fun hnone => absurd (foiled_listing.2 (.inr rfl)) (hnone err)⟩
      cases (foiled_listing.1 he).resolve_left (hfree e)
      rfl
    | ok pods =>
      obtain ⟨hheard, hdrained⟩ := drained_of_speaks hrest'
      rw [heard_append, heard_said, hheard, List.append_nil]
      refine ⟨fun e he => ?_, fun _ => ⟨pods, ?_, ?_, ?_⟩⟩
      · rcases foiled_listing.1 he with he | he
        · exact absurd he (hfree e)
        · cases he
      · rw [List.map_append, hcalls]
        rfl
      · simp
      · have hfound : found (k ++ [⟨.listPods (.onNode t.name), .ok pods⟩]) = found k :=
          List.filterMap_append.trans (List.append_nil _)
        rw [hfound]
        exact hdrained.after_calls _

end Deschedule

namespace Sample

def pod (name : String) : Pod :=
  ⟨{ Kube.ObjectMeta.blank with name := some name }, some ⟨some "w1", [], none, none, []⟩, none⟩

def target : Target := ⟨"w1", true, [], [], ⟨false, false, false, true, false⟩, .default⟩

/-- Two pods are found.  The removal that was launched last ends first, and only the first pod is
let go. -/
def lastFirst : (r : Request) → List (Option Removal) → r.Answer × List (Option Removal)
  | .call (.listPods _), under => (.ok [pod "a", pod "b"], under)
  | .call c, under => (.error (c.error (.transport "timeout")), under)
  | .launch r, under => ((), under ++ [r])
  | .await n, under =>
    ((Fin.last n, .ok (under.getLast? == some (some (.evict (pod "a"))))), under.dropLast)

def talk : Dialogue Api := (deschedule target).run.transcript (I := Api) lastFirst []

end Sample

open Sample in
/-- A pod that is not let go does not keep the other one. -/
theorem deschedule_exact_lastFirst :
    launched talk = [.evict (pod "a"), .evict (pod "b")] ∧
      ∃ r pods, Drained target talk r (found (heard talk)) pods ∧ r ≠ .ok () := by
  have hlaunched : launched talk = [.evict (pod "a"), .evict (pod "b")] := by decide +kernel
  obtain ⟨hfoiled, hdrained⟩ := deschedule_exact (t := target)
    (Program.speaks_transcript (I := Api) lastFirst (deschedule target).run [])
  obtain ⟨pods, -, -, hd⟩ := hdrained fun e he => by
    have hnil := (hfoiled e he).1
    change launched talk = [] at hnil
    rw [hlaunched] at hnil
    cases hnil
  refine ⟨hlaunched, _, pods, hd, fun hok => ?_⟩
  have hend : (some (.evict (pod "b")), .ok false) ∈ ended [] talk := by decide +kernel
  exact absurd (((hd.judged rfl).1 hok).2 _ _ hend) (by simp [Succeeded])

end Cordon.Drain
