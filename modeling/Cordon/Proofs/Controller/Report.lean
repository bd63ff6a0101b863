import Cordon.Proofs.Controller.Finalizer

/-! # What a reconcile reports

Once a reconcile has taken a quarantine up, it runs a pass and then says in the status what has come
of it (`report_of_speaks`): that the quarantine is in place, or which step has failed, and why.  It
keeps silent if the status says so already, which is a matter of the condition's status and message
and of the records, but not of the reason (`differsFrom_eq_false_iff`).
-/

namespace Cordon.Controller

open Lifecycle (new settle stop update prepare start)
open Program (speaks_bind)

variable {timing : Timing} {q : Quarantine} {l : Lifecycle} {h : Dialogue Effects}

/-! ## Outcomes -/

/-- The step of a pass that has failed, with its error. -/
inductive Fails (timing : Timing) (q : Quarantine) (l : Lifecycle) :
    Dialogue Effects → String → ControllerError → Prop
  | stop {during : Dialogue Effects} {e : ControllerError} (hdeleting : q.isDeleting = true)
      (hpass : stop.Says (new q timing.nodeTimeout) during (.error e) l) :
      Fails timing q l during "stop" e
  | update {during : Dialogue Effects} {e : ControllerError} (hlive : q.isDeleting = false)
      (hactive : q.isActive = true)
      (hpass : update.Says (new q timing.nodeTimeout) during (.error e) l) :
      Fails timing q l during "update" e
  | prepare {during : Dialogue Effects} {e : ControllerError} (hlive : q.isDeleting = false)
      (hidle : q.isActive = false)
      (hpass : prepare.Says (new q timing.nodeTimeout) during (.error e) l) :
      Fails timing q l during "prepare" e
  | start {during during' : Dialogue Effects} {e : ControllerError} {k : Lifecycle}
      (hlive : q.isDeleting = false) (hidle : q.isActive = false)
      (hprepared : prepare.Says (new q timing.nodeTimeout) during (.ok ()) k)
      (hpass : start.Says k during' (.error e) l) :
      Fails timing q l (during ++ during') "start" e

/-- What is to be said of a pass: a condition's status, reason and message. -/
inductive Verdict (timing : Timing) (q : Quarantine) (during : Dialogue Effects) (l : Lifecycle) :
    ConditionStatus → String → String → Prop
  | settled (hlive : q.isDeleting = false)
      (hpass : (settle q.isActive).Says (new q timing.nodeTimeout) during (.ok ()) l) :
      Verdict timing q during l .isTrue Convention.runningReason Convention.runningMessage
  | failed {step : String} {e : ControllerError} (hfails : Fails timing q l during step e) :
      Verdict timing q during l .isFalse step e.message

/-- The status is written, unless it says the same already. -/
def Files (q : Quarantine) (l : Lifecycle) (status : ConditionStatus) (reason message : String)
    (behind : Dialogue Effects) : Prop :=
  (q.status.getD .blank).differsFrom status message l.observedNodes = false ∧ behind = [] ∨
    (q.status.getD .blank).differsFrom status message l.observedNodes = true ∧ ∃ now answer,
      behind = writing q now (written q l.observedNodes status reason message now) answer

/-- What a status says already has not to be written. -/
theorem differsFrom_eq_false_iff {s : QuarantineStatus} {status : ConditionStatus}
    {message : String} {observed : List ObservedNode} :
    s.differsFrom status message observed = false ↔
      (∃ c, s.activeCondition = some c ∧ c.status = status ∧ c.message = message) ∧
        s.observedNodes = observed := by
  unfold QuarantineStatus.differsFrom
  cases s.activeCondition with
  | none => simp
  | some c => simp [and_assoc]

/-! ## Dialogues -/

theorem filed_of_writeStatus {status : ConditionStatus} {reason message : String}
    {r : Except ControllerError Unit}
    (hs : (writeStatus q l.observedNodes status reason message).run.Speaks h r) :
    Files q l status reason message h := by
  rcases speaks_writeStatus hs with ⟨hsame, rfl, -⟩ | ⟨hdiffers, now, answer, rfl, -⟩
  · exact .inl ⟨hsame, rfl⟩
  · exact .inr ⟨hdiffers, now, answer, rfl⟩

theorem filed_of_fail {α : Type} {step : String} {e : ControllerError}
    {r : Except ControllerError α} (hs : (fail q l step e : Reconcile α).run.Speaks h r) :
    r = .error e ∧ Files q l .isFalse step e.message h := by
  have hwrite : ∀ {h r}, (tryCatch (writeStatus q l.observedNodes .isFalse step e.message)
      fun _ => pure ()).run.Speaks h r → r = .ok () ∧ Files q l .isFalse step e.message h := by
    intro h r hs
    obtain ⟨a, h₁, h₂, rfl, hw, hf⟩ := Program.speaks_andThen.1 hs
    have hend : h₂ = [] ∧ r = .ok () := by
      cases a with
      | ok a => exact ⟨hf.1, hf.2⟩
      | error e => exact ⟨hf.1, hf.2⟩
    obtain ⟨rfl, rfl⟩ := hend
    rw [List.append_nil]
    exact ⟨rfl, filed_of_writeStatus hw⟩
  rcases speaks_bind hs with ⟨_, h₁, h₂, rfl, hw, rfl, rfl⟩ | ⟨e', -, hw⟩
  · rw [List.append_nil]
    exact ⟨rfl, (hwrite hw).2⟩
  · cases (hwrite hw).1

/-- Bringing a quarantine in place comes to an end in any case, and says which step has failed. -/
theorem verdict_of_converge {r : Except ControllerError (Option (String × ControllerError) ×
      Lifecycle)} (hlive : q.isDeleting = false)
    (hs : (converge (new q timing.nodeTimeout)).run.Speaks h r) :
    ∃ o l, r = .ok (o, l) ∧
      (o = none → (settle q.isActive).Says (new q timing.nodeTimeout) h (.ok ()) l) ∧
      ∀ step e, o = some (step, e) → Fails timing q l h step e := by
  -- Which passes there are depends on the copy that was loaded, not on what has been done since.
  have hwas : (new q timing.nodeTimeout).wasActive = q.isActive := rfl
  unfold converge at hs
  rw [hwas] at hs
  cases hactive : q.isActive with
  | true =>
    simp only [hactive, if_true] at hs
    obtain ⟨a, l, h₁, h₂, rfl, hp, hf⟩ := speaks_runPass_bind hs
    cases a with
    | ok a =>
      obtain ⟨rfl, rfl⟩ := hf
      rw [List.append_nil]
      exact ⟨none, l, rfl, fun _ => hp, by simp⟩
    | error e =>
      obtain ⟨rfl, rfl⟩ := hf
      rw [List.append_nil]
      refine ⟨_, l, rfl, by simp, fun step e heq => ?_⟩
      cases heq
      exact .update hlive hactive hp
  | false =>
    simp only [hactive, Bool.false_eq_true, if_false] at hs
    obtain ⟨a, k, h₁, h₂, rfl, hp, hf⟩ := speaks_runPass_bind hs
    cases a with
    | error e =>
      obtain ⟨rfl, rfl⟩ := hf
      rw [List.append_nil]
      refine ⟨_, k, rfl, by simp, fun step e heq => ?_⟩
      cases heq
      exact .prepare hlive hactive hp
    | ok a =>
      obtain ⟨b, l, h₃, h₄, rfl, hp', hf⟩ := speaks_runPass_bind hf
      cases b with
      | ok b =>
        obtain ⟨rfl, rfl⟩ := hf
        rw [List.append_nil]
        exact ⟨none, l, rfl, fun _ => Pass.says_bind.2 (.inl ⟨a, k, h₁, h₃, rfl, hp, hp'⟩), by simp⟩
      | error e =>
        obtain ⟨rfl, rfl⟩ := hf
        rw [List.append_nil]
        refine ⟨_, l, rfl, by simp, fun step e heq => ?_⟩
        cases heq
        exact .start hlive hactive hp hp'

/-- A quarantine that has been taken up is let go behind a stop, or the outcome of the pass is
reported. -/
theorem report_of_speaks {r : Except ControllerError Next} (hheld : q.hasFinalizer = true)
    (hs : (reconcileLoaded timing q).run.Speaks h r) :
    (q.isDeleting = true ∧ ∃ during l answer,
        stop.Says (new q timing.nodeTimeout) during (.ok ()) l ∧
        h = during ++ [⟨.store (.removeFinalizer q), answer⟩]) ∨
      ∃ during behind l status reason message, h = during ++ behind ∧
        Verdict timing q during l status reason message ∧
        Files q l status reason message behind := by
  unfold reconcileLoaded at hs
  cases hdeleting : q.isDeleting with
  | true =>
    simp only [hdeleting, hheld, if_true] at hs
    obtain ⟨a, l, during, behind, rfl, hpass, hrest⟩ := speaks_runPass_bind hs
    cases a with
    | error e =>
      obtain ⟨-, hfiled⟩ := filed_of_fail hrest
      exact .inr ⟨during, behind, l, _, _, _, rfl, .failed (.stop hdeleting hpass), hfiled⟩
    | ok a =>
      -- The finalizer is asked to be taken off in either case; the answer only decides the result.
      refine .inl ⟨rfl, during, l, ?_⟩
      rcases speaks_bind hrest with ⟨_, h₁, h₂, rfl, hstore, rfl, -⟩ | ⟨e, -, hstore⟩
      · obtain ⟨answer, rfl, -⟩ := speaks_store hstore
        exact ⟨answer, hpass, rfl⟩
      · obtain ⟨answer, rfl, -⟩ := speaks_store hstore
        exact ⟨answer, hpass, rfl⟩
  | false =>
    simp only [hdeleting, hheld, Bool.false_eq_true, if_false, Bool.not_true] at hs
    refine .inr ?_
    rcases speaks_bind hs with ⟨⟨o, l⟩, during, behind, rfl, hp, hrest⟩ | ⟨e, -, hp⟩
    · obtain ⟨o', l', heq, hnone, hsome⟩ := verdict_of_converge hdeleting hp
      cases heq
      cases o with
      | some failure =>
        obtain ⟨-, hfiled⟩ := filed_of_fail hrest
        exact ⟨during, behind, l, _, _, _, rfl, .failed (hsome _ _ rfl), hfiled⟩
      | none =>
        refine ⟨during, behind, l, _, _, _, rfl, .settled hdeleting (hnone rfl), ?_⟩
        rcases speaks_bind hrest with ⟨_, h₁, h₂, rfl, hwrite, rfl, -⟩ | ⟨e, -, hwrite⟩
        · rw [List.append_nil]
          exact filed_of_writeStatus hwrite
        · exact filed_of_writeStatus hwrite
    · obtain ⟨_, _, heq, -⟩ := verdict_of_converge hdeleting hp
      cases heq

end Cordon.Controller
