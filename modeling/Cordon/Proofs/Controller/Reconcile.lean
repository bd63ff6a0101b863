import Cordon.Controller.Reconcile
import Cordon.Proofs.Lifecycle.Reach

/-! # Where a reconcile may be

A reconcile loads a quarantine, puts its finalizer on or runs one pass over it, and then tells the
store what came of it.  The pass is `task`: a stop for a quarantine that is being deleted, else
`Lifecycle.settle`.

`Moment` lists the scenes that a reconcile of a loaded quarantine comes by, and `visits_reconcile`
says that these are all.  A reconcile that returns success has run its pass to a successful end and
told the store so (`executes_reconcile_ok`); the status that it keeps then holds the records of the
pass, also where the status was not written because it held them already.
-/

namespace Cordon.Controller

open Lifecycle (settle update prepare start stop)

variable {others : ClusterState → ClusterState → Prop} {α β : Type} {s t : Scene}

/-! ## Taking a reconcile apart -/

theorem run_bind (p : Reconcile α) (f : α → Reconcile β) :
    (p >>= f).run = p.run.andThen fun r =>
      match r with
      | .ok a => (f a).run
      | .error e => .done (.error e) := by
  rw [ExceptT.run_bind]
  refine congrArg _ (funext fun r => ?_)
  cases r with
  | ok a => rfl
  | error e => rfl

theorem visits_bind {p : Reconcile α} {f : α → Reconcile β}
    (h : Visits others (p >>= f).run s t) :
    Visits others p.run s t ∨
      ∃ a m, Executes others p.run s (.ok a) m ∧ Visits others (f a).run m t := by
  rw [run_bind] at h
  rcases visits_andThen.1 h with h | ⟨r, m, hp, hf⟩
  · exact .inl h
  · cases r with
    | ok a => exact .inr ⟨a, m, hp, hf⟩
    | error e =>
      cases (hf : t = m)
      exact .inl hp.visits

theorem executes_bind {p : Reconcile α} {f : α → Reconcile β} {r : Except ControllerError β}
    (h : Executes others (p >>= f).run s r t) :
    (∃ a m, Executes others p.run s (.ok a) m ∧ Executes others (f a).run m r t) ∨
      ∃ e, r = .error e ∧ Executes others p.run s (.error e) t := by
  rw [run_bind] at h
  obtain ⟨ra, m, hp, hf⟩ := executes_andThen.1 h
  cases ra with
  | ok a => exact .inl ⟨a, m, hp, hf⟩
  | error e =>
    obtain ⟨hr, rfl⟩ := hf
    cases hr
    exact .inr ⟨e, rfl, hp⟩

theorem executes_bind_ok {p : Reconcile α} {f : α → Reconcile β} {b : β}
    (h : Executes others (p >>= f).run s (.ok b) t) :
    ∃ a m, Executes others p.run s (.ok a) m ∧ Executes others (f a).run m (.ok b) t := by
  rcases executes_bind h with h | ⟨e, he, -⟩
  · exact h
  · cases he

/-! ## Calls to the store -/

section Store

variable {wrap : StoreError → ControllerError} {c : StoreCall}

/-- A call to the store takes effect or it does not. -/
theorem stores_done {answer : Except StoreError c.Reply} (h : Stores s c answer t) :
    t = s ∨ t = s.withShelf (s.shelf.perform c).2 := by
  cases h with
  | answered => exact .inr rfl
  | failed e t hdone => exact hdone

theorem stores_ok {a : c.Reply} (h : Stores s c (.ok a) t) :
    (s.shelf.perform c).1 = .ok a ∧ t = s.withShelf (s.shelf.perform c).2 := by
  generalize ho : Except.ok a = o at h
  cases h with
  | answered => exact ⟨rfl, rfl⟩
  | failed e => cases ho

theorem visits_store (h : Visits others (store wrap c).run s t) :
    t = s ∨ t = s.withShelf (s.shelf.perform c).2 := by
  rcases h with rfl | ⟨answer, m, hm, h⟩
  · exact .inl rfl
  · have ht : t = m := by
      cases answer with
      | ok a => exact h
      | error e => exact h
    rw [ht]
    exact stores_done hm

/-- A call to the store that succeeds has taken effect. -/
theorem executes_store {a : c.Reply} (h : Executes others (store wrap c).run s (.ok a) t) :
    (s.shelf.perform c).1 = .ok a ∧ t = s.withShelf (s.shelf.perform c).2 := by
  obtain ⟨answer, m, hm, h⟩ := h
  cases answer with
  | error e => cases h.1
  | ok b =>
    obtain ⟨hb, rfl⟩ := h
    cases hb
    exact stores_ok hm

end Store

/-! ## Passes -/

/-- What a reconcile does to a quarantine with the finalizer. -/
def task (q : Quarantine) : Pass Unit := if q.isDeleting then stop else settle q.isActive

theorem run_runPass (p : Pass α) (l : Lifecycle) :
    (runPass p l).run = (p.run.run l).andThen fun r => .done (.ok r) := rfl

theorem visits_runPass {p : Pass α} {l : Lifecycle} (h : Visits others (runPass p l).run s t) :
    Visits others (p.run.run l) s t := by
  rw [run_runPass] at h
  rcases visits_andThen.1 h with h | ⟨r, m, hp, ht⟩
  · exact h
  · cases (ht : t = m)
    exact hp.visits

theorem executes_runPass {p : Pass α} {l : Lifecycle} {r : Except ControllerError α × Lifecycle}
    (h : Executes others (runPass p l).run s (.ok r) t) : Pass.Runs others p l s r.1 r.2 t := by
  rw [run_runPass] at h
  obtain ⟨r', m, hp, hr, rfl⟩ := executes_andThen.1 h
  cases hr
  exact hp

/-- Bringing a quarantine in place is one pass, told apart by the step that failed. -/
theorem visits_converge {l : Lifecycle} (h : Visits others (converge l).run s t) :
    Visits others ((settle l.wasActive).run.run l) s t := by
  unfold converge at h
  cases hactive : l.wasActive with
  | true =>
    simp only [hactive, if_true] at h
    rcases visits_bind h with h | ⟨⟨r, k⟩, m, hp, h⟩
    · exact visits_runPass h
    · have ht : t = m := by
        cases r with
        | ok a => exact h
        | error e => exact h
      rw [ht]
      exact (executes_runPass hp).visits
  | false =>
    -- Preparing and starting are run as two passes; the second goes on where the first ends.
    simp only [hactive, Bool.false_eq_true, if_false] at h
    unfold settle
    rw [if_neg Bool.false_ne_true, Pass.run_bind]
    rcases visits_bind h with h | ⟨⟨r, k⟩, m, hp, h⟩
    · exact visits_andThen.2 (.inl (visits_runPass h))
    · cases r with
      | error e =>
        cases (h : t = m)
        exact visits_andThen.2 (.inl (executes_runPass hp).visits)
      | ok a =>
        refine visits_andThen.2 (.inr ⟨(.ok a, k), m, executes_runPass hp, ?_⟩)
        rcases visits_bind h with h | ⟨⟨r, k'⟩, m', hp', h⟩
        · exact visits_runPass h
        · have ht : t = m' := by
            cases r with
            | ok a => exact h
            | error e => exact h
          rw [ht]
          exact (executes_runPass hp').visits

theorem executes_converge {l l' : Lifecycle} {o : Option (String × ControllerError)}
    (h : Executes others (converge l).run s (.ok (o, l')) t) :
    ∃ r, Pass.Runs others (settle l.wasActive) l s r l' t ∧ (o = none → r = .ok ()) := by
  unfold converge at h
  cases hactive : l.wasActive with
  | true =>
    simp only [hactive, if_true] at h
    obtain ⟨⟨r, k⟩, m, hp, h⟩ := executes_bind_ok h
    refine ⟨r, ?_⟩
    cases r with
    | ok a =>
      cases h.1
      cases h.2
      exact ⟨executes_runPass hp, fun _ => rfl⟩
    | error e =>
      cases h.1
      cases h.2
      exact ⟨executes_runPass hp, fun ho => by cases ho⟩
  | false =>
    simp only [hactive, Bool.false_eq_true, if_false] at h
    obtain ⟨⟨r, k⟩, m, hp, h⟩ := executes_bind_ok h
    have hprepare := executes_runPass hp
    cases r with
    | error e =>
      cases h.1
      cases h.2
      exact ⟨.error e, Pass.runs_bind_iff.2 (.inr ⟨e, rfl, hprepare⟩), fun ho => by cases ho⟩
    | ok a =>
      obtain ⟨⟨r, k'⟩, m', hp', h⟩ := executes_bind_ok h
      have hboth : Pass.Runs others (settle false) l s r k' m' :=
        Pass.runs_bind_iff.2 (.inl ⟨a, k, m, hprepare, executes_runPass hp'⟩)
      cases r with
      | ok b =>
        cases h.1
        cases h.2
        exact ⟨.ok b, hboth, fun _ => rfl⟩
      | error e =>
        cases h.1
        cases h.2
        exact ⟨.error e, hboth, fun ho => by cases ho⟩

/-! ## Statuses -/

section Status

variable {q : Quarantine} {observed : List ObservedNode} {status : ConditionStatus}
  {reason message : String}

theorem observedNodes_eq_of_not_differs
    (h : (q.status.getD .blank).differsFrom status message observed = false) :
    q.observedNodes = observed := by
  unfold QuarantineStatus.differsFrom at h
  simp only [Bool.or_eq_false_iff, bne_eq_false_iff_eq] at h
  rw [← h.2]
  unfold Quarantine.observedNodes
  cases q.status <;> rfl

/-- Only a status with these records is written. -/
theorem visits_writeStatus
    (h : Visits others (writeStatus q observed status reason message).run s t) :
    t = s ∨ ∃ next : QuarantineStatus, next.observedNodes = observed ∧
      t = s.withShelf (s.shelf.perform (.updateStatus q next)).2 := by
  unfold writeStatus at h
  simp only at h
  split at h
  · rcases visits_bind h with hask | ⟨now, m, hnow, hwrite⟩
    · rcases hask with rfl | ⟨_, m, rfl, rfl⟩
      · exact .inl rfl
      · exact .inl rfl
    · obtain ⟨_, _, rfl, -, rfl⟩ := hnow
      rcases visits_store hwrite with rfl | rfl
      · exact .inl rfl
      · exact .inr ⟨_, rfl, rfl⟩
  · exact .inl h

/-- After a status has been kept, the store holds these records: they are written, or they were
there. -/
theorem executes_writeStatus
    (h : Executes others (writeStatus q observed status reason message).run s (.ok ()) t) :
    (t = s ∧ q.observedNodes = observed) ∨
      ∃ next : QuarantineStatus, next.observedNodes = observed ∧
        t = s.withShelf (s.shelf.perform (.updateStatus q next)).2 := by
  unfold writeStatus at h
  simp only at h
  split at h
  · obtain ⟨now, m, hnow, hwrite⟩ := executes_bind_ok h
    obtain ⟨_, _, rfl, -, rfl⟩ := hnow
    exact .inr ⟨_, rfl, (executes_store hwrite).2⟩
  · next hdiffers =>
    exact .inl ⟨h.2, observedNodes_eq_of_not_differs (Bool.eq_false_iff.2 hdiffers)⟩

/-- A failed step is kept in the status, and fails the reconcile. -/
theorem visits_fail {l : Lifecycle} {step : String} {e : ControllerError}
    (h : Visits others (fail q l step e : Reconcile α).run s t) :
    t = s ∨ ∃ next : QuarantineStatus, next.observedNodes = l.observedNodes ∧
      t = s.withShelf (s.shelf.perform (.updateStatus q next)).2 := by
  -- A status that cannot be written is passed over: the failure itself is what is returned.
  have hwrite : ∀ {t}, Visits others (tryCatch
      (writeStatus q l.observedNodes .isFalse step e.message) fun _ => pure ()).run s t →
      t = s ∨ ∃ next : QuarantineStatus, next.observedNodes = l.observedNodes ∧
        t = s.withShelf (s.shelf.perform (.updateStatus q next)).2 := by
    intro t h
    rcases visits_andThen.1 h with h | ⟨r, m, hw, h⟩
    · exact visits_writeStatus h
    · have ht : t = m := by
        cases r with
        | ok a => exact h
        | error e => exact h
      rw [ht]
      exact visits_writeStatus hw.visits
  rcases visits_bind h with h | ⟨_, m, hw, h⟩
  · exact hwrite h
  · cases (h : t = m)
    exact hwrite hw.visits

theorem not_executes_fail_ok {l : Lifecycle} {step : String} {e : ControllerError} {a : α} :
    ¬ Executes others (fail q l step e : Reconcile α).run s (.ok a) t := by
  intro h
  obtain ⟨_, m, -, h⟩ := executes_bind_ok h
  cases h.1

end Status

/-! ## Reconciles -/

/-- Where the reconcile of a loaded quarantine may be. -/
inductive Moment (others : ClusterState → ClusterState → Prop) (timeout : Nat) (q : Quarantine)
    (s : Scene) : Scene → Prop
  /-- Nothing has been done. -/
  | idle : Moment others timeout q s s
  /-- The finalizer has been put on. -/
  | held (hnew : q.isDeleting = false) (hfree : q.hasFinalizer = false) :
      Moment others timeout q s (s.withShelf (s.shelf.perform (.addFinalizer q)).2)
  /-- The pass is under way. -/
  | working (t : Scene) (hheld : q.hasFinalizer = true)
      (hpass : Visits others ((task q).run.run (.new q timeout)) s t) :
      Moment others timeout q s t
  /-- The outcome of the pass has been told. -/
  | told (r : Except ControllerError Unit) (l : Lifecycle) (d : Scene) (next : QuarantineStatus)
      (hheld : q.hasFinalizer = true)
      (hpass : Pass.Runs others (task q) (.new q timeout) s r l d)
      (hnext : next.observedNodes = l.observedNodes) :
      Moment others timeout q s (d.withShelf (d.shelf.perform (.updateStatus q next)).2)
  /-- The finalizer has been taken off. -/
  | released (l : Lifecycle) (d : Scene) (hheld : q.hasFinalizer = true)
      (hdeleting : q.isDeleting = true)
      (hpass : Pass.Runs others (task q) (.new q timeout) s (.ok ()) l d) :
      Moment others timeout q s (d.withShelf (d.shelf.perform (.removeFinalizer q)).2)

theorem moment_of_told {timeout : Nat} {q : Quarantine} {r : Except ControllerError Unit}
    {l : Lifecycle} {d : Scene} (hheld : q.hasFinalizer = true)
    (hpass : Pass.Runs others (task q) (.new q timeout) s r l d)
    (h : t = d ∨ ∃ next : QuarantineStatus, next.observedNodes = l.observedNodes ∧
      t = d.withShelf (d.shelf.perform (.updateStatus q next)).2) :
    Moment others timeout q s t := by
  rcases h with rfl | ⟨next, hnext, rfl⟩
  · exact .working t hheld hpass.visits
  · exact .told r l d next hheld hpass hnext

theorem visits_release {timeout : Nat} {q : Quarantine} (hheld : q.hasFinalizer = true)
    (hdeleting : q.isDeleting = true)
    (h : Visits others (release q (.new q timeout)).run s t) : Moment others timeout q s t := by
  -- The pass is under way, or it has failed and that is told, or the finalizer goes.
  have htask : task q = stop := by rw [task, if_pos hdeleting]
  rcases visits_bind h with h | ⟨⟨r, l⟩, d, hp, h⟩
  · exact .working t hheld (htask ▸ visits_runPass h)
  · have hpass : Pass.Runs others (task q) (.new q timeout) s r l d := htask ▸ executes_runPass hp
    cases r with
    | error e => exact moment_of_told hheld hpass (visits_fail h)
    | ok a =>
      have hdone : ∀ {t}, t = d ∨ t = d.withShelf (d.shelf.perform (.removeFinalizer q)).2 →
          Moment others timeout q s t := by
        rintro t (rfl | rfl)
        · exact .working t hheld hpass.visits
        · exact .released l d hheld hdeleting hpass
      rcases visits_bind h with h | ⟨_, m, hstore, h⟩
      · exact hdone (visits_store h)
      · cases (h : t = m)
        exact hdone (.inr (executes_store hstore).2)

theorem visits_reconcileLoaded {timing : Timing} {q : Quarantine}
    (h : Visits others (reconcileLoaded timing q).run s t) :
    Moment others timing.nodeTimeout q s t := by
  unfold reconcileLoaded at h
  cases hdeleting : q.isDeleting with
  | true =>
    cases hheld : q.hasFinalizer with
    | true =>
      simp only [hdeleting, hheld, if_true] at h
      exact visits_release hheld hdeleting h
    | false =>
      simp only [hdeleting, hheld, if_true, Bool.false_eq_true, if_false] at h
      cases (h : t = s)
      exact .idle
  | false =>
    cases hheld : q.hasFinalizer with
    | false =>
      simp only [hdeleting, hheld, Bool.false_eq_true, if_false, Bool.not_false, if_true] at h
      rcases visits_bind h with h | ⟨_, m, hstore, h⟩
      · rcases visits_store h with rfl | rfl
        · exact .idle
        · exact .held hdeleting hheld
      · cases (h : t = m)
        cases (executes_store hstore).2
        exact .held hdeleting hheld
    | true =>
      simp only [hdeleting, hheld, Bool.false_eq_true, if_false, Bool.not_true] at h
      have htask : task q = settle q.isActive := by
        rw [task, hdeleting, if_neg Bool.false_ne_true]
      rcases visits_bind h with h | ⟨⟨o, l⟩, d, hp, h⟩
      · exact .working t hheld (htask ▸ visits_converge h)
      · obtain ⟨r, hpass, -⟩ := executes_converge hp
        have hpass : Pass.Runs others (task q) (.new q timing.nodeTimeout) s r l d := htask ▸ hpass
        cases o with
        | some failure => exact moment_of_told hheld hpass (visits_fail h)
        | none =>
          rcases visits_bind h with h | ⟨_, m, hwrite, h⟩
          · exact moment_of_told hheld hpass (visits_writeStatus h)
          · cases (h : t = m)
            exact moment_of_told hheld hpass (visits_writeStatus hwrite.visits)

/-- A reconcile comes by nothing but the moments of the quarantine that it loads. -/
theorem visits_reconcile {timing : Timing} {ns name : String}
    (h : Visits others (reconcile timing (some ns) name).run s t) :
    t = s ∨ ∃ q, s.shelf.lookup (ns ++ "/" ++ name) = some q ∧
      Moment others timing.nodeTimeout q s t := by
  unfold reconcile at h
  rcases visits_bind h with h | ⟨found, m, hload, h⟩
  · rcases visits_store h with rfl | rfl
    · exact .inl rfl
    · exact .inl rfl
  · obtain ⟨hfound, rfl⟩ := executes_store hload
    cases hfound
    cases hq : s.shelf.lookup (ns ++ "/" ++ name) with
    | none =>
      simp only [hq] at h
      exact .inl h
    | some q =>
      simp only [hq] at h
      exact .inr ⟨q, rfl, visits_reconcileLoaded h⟩

/-! ## Success -/

/-- How the reconcile of a loaded quarantine ends that returns success. -/
inductive Success (others : ClusterState → ClusterState → Prop) (timeout : Nat) (q : Quarantine)
    (s : Scene) : Scene → Prop
  /-- The quarantine is being deleted and no longer ours. -/
  | left (hdeleting : q.isDeleting = true) (hfree : q.hasFinalizer = false) :
      Success others timeout q s s
  /-- The finalizer has been put on. -/
  | held (hnew : q.isDeleting = false) (hfree : q.hasFinalizer = false) :
      Success others timeout q s (s.withShelf (s.shelf.perform (.addFinalizer q)).2)
  /-- The quarantine has been stopped and let go. -/
  | released (l : Lifecycle) (d : Scene) (hheld : q.hasFinalizer = true)
      (hdeleting : q.isDeleting = true)
      (hpass : Pass.Runs others (task q) (.new q timeout) s (.ok ()) l d) :
      Success others timeout q s (d.withShelf (d.shelf.perform (.removeFinalizer q)).2)
  /-- The quarantine is in place, and the status has the records of the pass. -/
  | kept (l : Lifecycle) (d : Scene) (hheld : q.hasFinalizer = true)
      (hlive : q.isDeleting = false)
      (hpass : Pass.Runs others (task q) (.new q timeout) s (.ok ()) l d)
      (hsame : q.observedNodes = l.observedNodes) : Success others timeout q s d
  /-- The quarantine is in place, and the status has been written. -/
  | told (l : Lifecycle) (d : Scene) (next : QuarantineStatus) (hheld : q.hasFinalizer = true)
      (hlive : q.isDeleting = false)
      (hpass : Pass.Runs others (task q) (.new q timeout) s (.ok ()) l d)
      (hnext : next.observedNodes = l.observedNodes) :
      Success others timeout q s (d.withShelf (d.shelf.perform (.updateStatus q next)).2)

theorem executes_release_ok {timeout : Nat} {q : Quarantine} {next : Next}
    (hheld : q.hasFinalizer = true) (hdeleting : q.isDeleting = true)
    (h : Executes others (release q (.new q timeout)).run s (.ok next) t) :
    Success others timeout q s t := by
  have htask : task q = stop := by rw [task, if_pos hdeleting]
  obtain ⟨⟨r, l⟩, d, hp, hrest⟩ := executes_bind_ok h
  have hpass : Pass.Runs others (task q) (.new q timeout) s r l d := htask ▸ executes_runPass hp
  cases r with
  | error e => exact absurd hrest not_executes_fail_ok
  | ok a =>
    obtain ⟨_, m, hstore, hend⟩ := executes_bind_ok hrest
    obtain ⟨-, rfl⟩ := executes_store hstore
    cases hend.2
    exact .released l d hheld hdeleting hpass

theorem executes_reconcileLoaded_ok {timing : Timing} {q : Quarantine} {next : Next}
    (h : Executes others (reconcileLoaded timing q).run s (.ok next) t) :
    Success others timing.nodeTimeout q s t := by
  unfold reconcileLoaded at h
  cases hdeleting : q.isDeleting with
  | true =>
    cases hheld : q.hasFinalizer with
    | true =>
      simp only [hdeleting, hheld, if_true] at h
      exact executes_release_ok hheld hdeleting h
    | false =>
      simp only [hdeleting, hheld, if_true, Bool.false_eq_true, if_false] at h
      cases h.2
      exact .left hdeleting hheld
  | false =>
    cases hheld : q.hasFinalizer with
    | false =>
      simp only [hdeleting, hheld, Bool.false_eq_true, if_false, Bool.not_false, if_true] at h
      obtain ⟨_, m, hstore, hend⟩ := executes_bind_ok h
      obtain ⟨-, rfl⟩ := executes_store hstore
      cases hend.2
      exact .held hdeleting hheld
    | true =>
      simp only [hdeleting, hheld, Bool.false_eq_true, if_false, Bool.not_true] at h
      have htask : task q = settle q.isActive := by
        rw [task, hdeleting, if_neg Bool.false_ne_true]
      obtain ⟨⟨o, l⟩, d, hp, hrest⟩ := executes_bind_ok h
      obtain ⟨r, hpass, hok⟩ := executes_converge hp
      cases o with
      | some failure => exact absurd hrest not_executes_fail_ok
      | none =>
        obtain ⟨_, m, hwrite, hend⟩ := executes_bind_ok hrest
        cases hend.2
        have hpass : Pass.Runs others (task q) (.new q timing.nodeTimeout) s (.ok ()) l d := by
          rw [htask, ← hok rfl]
          exact hpass
        rcases executes_writeStatus hwrite with ⟨rfl, hsame⟩ | ⟨next, hnext, rfl⟩
        · exact .kept l _ hheld hdeleting hpass hsame
        · exact .told l d next hheld hdeleting hpass hnext

/-- A reconcile that returns success has found nothing to do, or has done its task. -/
theorem executes_reconcile_ok {timing : Timing} {ns name : String} {next : Next} {q : Quarantine}
    (hq : s.shelf.lookup (ns ++ "/" ++ name) = some q)
    (h : Executes others (reconcile timing (some ns) name).run s (.ok next) t) :
    Success others timing.nodeTimeout q s t := by
  unfold reconcile at h
  obtain ⟨found, m, hload, hrest⟩ := executes_bind_ok h
  obtain ⟨hfound, rfl⟩ := executes_store hload
  cases hfound
  simp only [hq] at hrest
  exact executes_reconcileLoaded_ok hrest

end Cordon.Controller
