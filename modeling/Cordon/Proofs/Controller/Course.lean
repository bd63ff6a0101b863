import Cordon.Proofs.Controller.Reconcile
import Cordon.Proofs.Lifecycle.Conduct

/-! # The course of a reconcile

`Course` lists the dialogues that the reconcile of a loaded quarantine can have, when the cluster
and the store may answer anything at all, and `speaks_reconcile` says that there are no others.

Each of them is a pass, or none, and behind it at most one call that changes the store.
-/

namespace Cordon.Controller

open Lifecycle (new settle prepare start stop)
open Program (speaks_bind)

variable {α β : Type} {h : Dialogue Effects} {q : Quarantine}

/-! ## Taking a dialogue apart -/

theorem speaks_store {wrap : StoreError → ControllerError} {c : StoreCall}
    {r : Except ControllerError c.Reply} (hs : (store wrap c).run.Speaks h r) :
    ∃ answer : Except StoreError c.Reply,
      h = [⟨.store c, answer⟩] ∧ r = answer.mapError wrap := by
  obtain ⟨answer, rest, rfl, hrest⟩ := hs
  refine ⟨answer, ?_⟩
  cases answer with
  | ok a =>
    obtain ⟨rfl, rfl⟩ := hrest
    exact ⟨rfl, rfl⟩
  | error e =>
    obtain ⟨rfl, rfl⟩ := hrest
    exact ⟨rfl, rfl⟩

theorem speaks_runPass {p : Pass α} {l : Lifecycle}
    {r : Except ControllerError (Except ControllerError α × Lifecycle)}
    (hs : (runPass p l).run.Speaks h r) : ∃ a l', r = .ok (a, l') ∧ p.Says l h a l' := by
  rw [run_runPass] at hs
  obtain ⟨⟨a, l'⟩, h₁, h₂, rfl, hp, rfl, rfl⟩ := Program.speaks_andThen.1 hs
  exact ⟨a, l', rfl, by rw [List.append_nil]; exact hp⟩

/-- After a pass, a reconcile only chooses how to go on. -/
theorem speaks_runPass_bind {p : Pass α} {l : Lifecycle}
    {f : Except ControllerError α × Lifecycle → Reconcile β} {r : Except ControllerError β}
    (hs : (runPass p l >>= f).run.Speaks h r) :
    ∃ a l' h₁ h₂, h = h₁ ++ h₂ ∧ p.Says l h₁ a l' ∧ (f (a, l')).run.Speaks h₂ r := by
  rcases speaks_bind hs with ⟨b, h₁, h₂, rfl, hp, hf⟩ | ⟨e, -, hp⟩
  · obtain ⟨a, l', heq, hpass⟩ := speaks_runPass hp
    cases heq
    exact ⟨a, l', h₁, h₂, rfl, hpass, hf⟩
  · obtain ⟨a, l', heq, -⟩ := speaks_runPass hp
    cases heq

theorem speaks_converge {l : Lifecycle}
    {r : Except ControllerError (Option (String × ControllerError) × Lifecycle)}
    (hs : (converge l).run.Speaks h r) : ∃ o l' a, r = .ok (o, l') ∧
      (settle l.wasActive).Says l h a l' ∧ (o = none → a = .ok ()) ∧
      ∀ step e, o = some (step, e) → a = .error e := by
  unfold converge at hs
  cases hactive : l.wasActive with
  | true =>
    simp only [hactive, if_true] at hs
    obtain ⟨a, l', h₁, h₂, rfl, hp, hf⟩ := speaks_runPass_bind hs
    cases a with
    | ok a =>
      obtain ⟨rfl, rfl⟩ := hf
      exact ⟨none, l', .ok a, rfl, by simpa [settle] using hp, fun _ => rfl, by simp⟩
    | error e =>
      obtain ⟨rfl, rfl⟩ := hf
      exact ⟨_, l', .error e, rfl, by simpa [settle] using hp, by simp, by simp⟩
  | false =>
    simp only [hactive, Bool.false_eq_true, if_false] at hs
    obtain ⟨a, k, h₁, h₂, rfl, hp, hf⟩ := speaks_runPass_bind hs
    -- Preparing and starting are two passes here, and one after the other in `settle`.
    cases a with
    | error e =>
      obtain ⟨rfl, rfl⟩ := hf
      refine ⟨_, k, .error e, rfl, ?_, by simp, by simp⟩
      exact Pass.says_bind.2 (.inr ⟨e, rfl, by simpa using hp⟩)
    | ok a =>
      obtain ⟨b, l', h₃, h₄, rfl, hp', hf⟩ := speaks_runPass_bind hf
      have hboth : (settle false).Says l (h₁ ++ h₃) b l' :=
        Pass.says_bind.2 (.inl ⟨a, k, h₁, h₃, rfl, hp, hp'⟩)
      cases b with
      | ok b =>
        obtain ⟨rfl, rfl⟩ := hf
        exact ⟨none, l', .ok b, rfl, by simpa using hboth, fun _ => rfl, by simp⟩
      | error e =>
        obtain ⟨rfl, rfl⟩ := hf
        exact ⟨_, l', .error e, rfl, by simpa using hboth, by simp, by simp⟩

/-! ## Statuses -/

def written (q : Quarantine) (observed : List ObservedNode) (status : ConditionStatus)
    (reason message now : String) : QuarantineStatus :=
  { (q.status.getD .blank).setActive status reason message now with observedNodes := observed }

def writing (q : Quarantine) (now : String) (next : QuarantineStatus)
    (answer : Except StoreError Unit) : Dialogue Effects :=
  [⟨.now, now⟩, ⟨.store (.updateStatus q next), answer⟩]

theorem speaks_writeStatus {observed : List ObservedNode} {status : ConditionStatus}
    {reason message : String} {r : Except ControllerError Unit}
    (hs : (writeStatus q observed status reason message).run.Speaks h r) :
    ((q.status.getD .blank).differsFrom status message observed = false ∧ h = [] ∧ r = .ok ()) ∨
    (q.status.getD .blank).differsFrom status message observed = true ∧ ∃ now answer,
      h = writing q now (written q observed status reason message now) answer ∧
      r = answer.mapError .updateStatus := by
  unfold writeStatus at hs
  simp only at hs
  split at hs
  · next hdiffers =>
    refine .inr ⟨hdiffers, ?_⟩
    rcases speaks_bind hs with ⟨now, h₁, h₂, rfl, hnow, hwrite⟩ | ⟨e, -, hnow⟩
    · obtain ⟨_, _, rfl, rfl, heq⟩ := hnow
      cases heq
      obtain ⟨answer, rfl, rfl⟩ := speaks_store hwrite
      exact ⟨now, answer, rfl, rfl⟩
    · obtain ⟨_, _, -, -, heq⟩ := hnow
      cases heq
  · next hsame => exact .inl ⟨Bool.eq_false_iff.2 hsame, hs.1, hs.2⟩

/-- A failed step may be kept in the status, and its error is what the reconcile fails with. -/
theorem speaks_fail {l : Lifecycle} {step : String} {e : ControllerError}
    {r : Except ControllerError α} (hs : (fail q l step e : Reconcile α).run.Speaks h r) :
    r = .error e ∧ (h = [] ∨ ∃ now next answer, h = writing q now next answer) := by
  have hwrite : ∀ {h r}, (tryCatch (writeStatus q l.observedNodes .isFalse step e.message)
      fun _ => pure ()).run.Speaks h r →
      r = .ok () ∧ (h = [] ∨ ∃ now next answer, h = writing q now next answer) := by
    intro h r hs
    obtain ⟨a, h₁, h₂, rfl, hw, hf⟩ := Program.speaks_andThen.1 hs
    have hend : h₂ = [] ∧ r = .ok () := by
      cases a with
      | ok a => exact ⟨hf.1, hf.2⟩
      | error e => exact ⟨hf.1, hf.2⟩
    obtain ⟨rfl, rfl⟩ := hend
    rw [List.append_nil]
    rcases speaks_writeStatus hw with ⟨-, rfl, -⟩ | ⟨-, now, answer, rfl, -⟩
    · exact ⟨rfl, .inl rfl⟩
    · exact ⟨rfl, .inr ⟨now, _, answer, rfl⟩⟩
  rcases speaks_bind hs with ⟨_, h₁, h₂, rfl, hw, rfl, rfl⟩ | ⟨e', -, hw⟩
  · rw [List.append_nil]
    exact ⟨rfl, (hwrite hw).2⟩
  · cases (hwrite hw).1

/-! ## Passes over a quarantine that has been loaded -/

section Loaded

variable {timeout : Nat}

theorem inSteps_settle_new : Pass.InSteps (settle q.isActive) (new q timeout) :=
  Lifecycle.inSteps_settle (l := new q timeout) rfl

theorem gives_settle_new : Pass.Gives (settle q.isActive) (new q timeout)
    (if q.isActive then (new q timeout).updated else (new q timeout).placed) :=
  Lifecycle.gives_settle (l := new q timeout) rfl

theorem inSteps_stop_new : Pass.InSteps stop (new q timeout) := by
  refine Lifecycle.inSteps_stop ?_
  show (Phase.ofActive q.isActive).allows .stopped = true
  cases q.isActive <;> rfl

theorem inSteps_task : Pass.InSteps (task q) (new q timeout) := by
  unfold task
  split
  · exact inSteps_stop_new
  · exact inSteps_settle_new

end Loaded

/-! ## Reconciles -/

/-- The dialogues that a reconcile can have once it has loaded a quarantine, and their ends. -/
inductive Course (timing : Timing) (q : Quarantine) :
    Dialogue Effects → Except ControllerError Next → Prop
  /-- The quarantine is being deleted and no longer ours. -/
  | left (hdeleting : q.isDeleting = true) (hfree : q.hasFinalizer = false) :
      Course timing q [] (.ok .awaitChange)
  /-- The finalizer is put on. -/
  | held (hlive : q.isDeleting = false) (hfree : q.hasFinalizer = false)
      (answer : Except StoreError Unit) (r : Except ControllerError Next) :
      Course timing q [⟨.store (.addFinalizer q), answer⟩] r
  /-- The quarantine is stopped and let go. -/
  | released (hdeleting : q.isDeleting = true) (hheld : q.hasFinalizer = true)
      (during : Dialogue Effects) (l : Lifecycle) (answer : Except StoreError Unit)
      (r : Except ControllerError Next)
      (hstop : stop.Says (new q timing.nodeTimeout) during (.ok ()) l) :
      Course timing q (during ++ [⟨.store (.removeFinalizer q), answer⟩]) r
  /-- The quarantine is settled, and the status says so already. -/
  | kept (hlive : q.isDeleting = false) (hheld : q.hasFinalizer = true)
      (during : Dialogue Effects) (l : Lifecycle)
      (hpass : (settle q.isActive).Says (new q timing.nodeTimeout) during (.ok ()) l)
      (hsame : (q.status.getD .blank).differsFrom .isTrue Convention.runningMessage
        l.observedNodes = false) :
      Course timing q during (.ok (.requeue timing.resync))
  /-- The quarantine is settled, and the status is written. -/
  | told (hlive : q.isDeleting = false) (hheld : q.hasFinalizer = true)
      (during : Dialogue Effects) (l : Lifecycle) (now : String)
      (answer : Except StoreError Unit) (r : Except ControllerError Next)
      (hpass : (settle q.isActive).Says (new q timing.nodeTimeout) during (.ok ()) l)
      (hdiffers : (q.status.getD .blank).differsFrom .isTrue Convention.runningMessage
        l.observedNodes = true)
      (hok : ∀ next, r = .ok next → answer = .ok ()) :
      Course timing q (during ++ writing q now (written q l.observedNodes .isTrue
        Convention.runningReason Convention.runningMessage now) answer) r
  /-- A step has failed, which may be kept in the status. -/
  | failed (hheld : q.hasFinalizer = true) (during behind : Dialogue Effects) (l : Lifecycle)
      (e : ControllerError) (hpass : (task q).Says (new q timing.nodeTimeout) during (.error e) l)
      (hbehind : behind = [] ∨ ∃ now next answer, behind = writing q now next answer) :
      Course timing q (during ++ behind) (.error e)

theorem speaks_release {timing : Timing} {r : Except ControllerError Next}
    (hheld : q.hasFinalizer = true) (hdeleting : q.isDeleting = true)
    (hs : (release q (new q timing.nodeTimeout)).run.Speaks h r) : Course timing q h r := by
  have htask : task q = stop := by rw [task, if_pos hdeleting]
  obtain ⟨a, l, during, behind, rfl, hpass, hrest⟩ := speaks_runPass_bind hs
  cases a with
  | error e =>
    obtain ⟨rfl, hbehind⟩ := speaks_fail hrest
    exact .failed hheld during behind l e (htask ▸ hpass) hbehind
  | ok a =>
    rcases speaks_bind hrest with ⟨_, h₁, h₂, rfl, hstore, rfl, rfl⟩ | ⟨e, rfl, hstore⟩
    · obtain ⟨answer, rfl, -⟩ := speaks_store hstore
      exact .released hdeleting hheld during l answer _ hpass
    · obtain ⟨answer, rfl, -⟩ := speaks_store hstore
      exact .released hdeleting hheld during l answer _ hpass

theorem speaks_reconcileLoaded {timing : Timing} {r : Except ControllerError Next}
    (hs : (reconcileLoaded timing q).run.Speaks h r) : Course timing q h r := by
  unfold reconcileLoaded at hs
  cases hdeleting : q.isDeleting with
  | true =>
    cases hheld : q.hasFinalizer with
    | true =>
      simp only [hdeleting, hheld, if_true] at hs
      exact speaks_release hheld hdeleting hs
    | false =>
      simp only [hdeleting, hheld, if_true, Bool.false_eq_true, if_false] at hs
      obtain ⟨rfl, rfl⟩ := hs
      exact .left hdeleting hheld
  | false =>
    cases hheld : q.hasFinalizer with
    | false =>
      simp only [hdeleting, hheld, Bool.false_eq_true, if_false, Bool.not_false, if_true] at hs
      rcases speaks_bind hs with ⟨_, h₁, h₂, rfl, hstore, rfl, rfl⟩ | ⟨e, rfl, hstore⟩
      · obtain ⟨answer, rfl, -⟩ := speaks_store hstore
        exact .held hdeleting hheld answer _
      · obtain ⟨answer, rfl, -⟩ := speaks_store hstore
        exact .held hdeleting hheld answer _
    | true =>
      simp only [hdeleting, hheld, Bool.false_eq_true, if_false, Bool.not_true] at hs
      have htask : task q = settle q.isActive := by
        rw [task, hdeleting, if_neg Bool.false_ne_true]
      -- Bringing a quarantine in place always returns, with the step that failed if one did.
      rcases speaks_bind hs with ⟨⟨o, l⟩, during, behind, rfl, hp, hrest⟩ | ⟨e, -, hp⟩
      · obtain ⟨o', l', a, heq, hpass, hnone, hsome⟩ := speaks_converge hp
        cases heq
        cases o with
        | some failure =>
          cases hsome failure.1 failure.2 rfl
          obtain ⟨rfl, hbehind⟩ := speaks_fail hrest
          exact .failed hheld during behind l _ (htask ▸ hpass) hbehind
        | none =>
          cases hnone rfl
          rcases speaks_bind hrest with ⟨_, h₁, h₂, rfl, hwrite, rfl, rfl⟩ | ⟨e, rfl, hwrite⟩
          · rcases speaks_writeStatus hwrite with
              ⟨hsame, rfl, -⟩ | ⟨hdiffers, now, answer, rfl, heq⟩
            · simpa using Course.kept hdeleting hheld during l hpass hsame
            · rw [List.append_nil]
              refine .told hdeleting hheld during l now answer _ hpass hdiffers fun _ _ => ?_
              cases answer with
              | ok a => rfl
              | error e => cases heq
          · rcases speaks_writeStatus hwrite with ⟨-, -, heq⟩ | ⟨hdiffers, now, answer, rfl, -⟩
            · cases heq
            · refine .told hdeleting hheld during l now answer _ hpass hdiffers fun _ heq => ?_
              cases heq
      · obtain ⟨_, _, _, heq, -⟩ := speaks_converge hp
        cases heq

/-- A reconcile loads the quarantine of its name, and goes on if there is one. -/
theorem speaks_load {timing : Timing} {ns name : String} {r : Except ControllerError Next}
    (hs : (reconcile timing (some ns) name).run.Speaks h r) :
    ∃ answer rest, h = ⟨.store (.getQuarantine ns name), answer⟩ :: rest ∧
      ((∀ q, answer ≠ .ok (some q)) ∧ rest = [] ∨
        ∃ q, answer = .ok (some q) ∧ (reconcileLoaded timing q).run.Speaks rest r) := by
  unfold reconcile at hs
  rcases speaks_bind hs with ⟨found, h₁, h₂, rfl, hload, hrest⟩ | ⟨e, -, hload⟩
  · obtain ⟨answer, rfl, heq⟩ := speaks_store hload
    refine ⟨answer, h₂, rfl, ?_⟩
    cases answer with
    | error e => cases heq
    | ok a =>
      cases heq
      cases found with
      | none =>
        obtain ⟨rfl, -⟩ := hrest
        exact .inl ⟨by simp, rfl⟩
      | some q => exact .inr ⟨q, rfl, hrest⟩
  · obtain ⟨answer, rfl, heq⟩ := speaks_store hload
    refine ⟨answer, [], rfl, .inl ⟨?_, rfl⟩⟩
    cases answer with
    | error e => simp
    | ok a => cases heq

theorem speaks_reconcile {timing : Timing} {ns name : String} {r : Except ControllerError Next}
    (hs : (reconcile timing (some ns) name).run.Speaks h r) :
    ∃ answer rest, h = ⟨.store (.getQuarantine ns name), answer⟩ :: rest ∧
      ((∀ q, answer ≠ .ok (some q)) ∧ rest = [] ∨
        ∃ q, answer = .ok (some q) ∧ Course timing q rest r) := by
  obtain ⟨answer, rest, rfl, hnone | ⟨q, rfl, hrest⟩⟩ := speaks_load hs
  · exact ⟨answer, rest, rfl, .inl hnone⟩
  · exact ⟨_, rest, rfl, .inr ⟨q, rfl, speaks_reconcileLoaded hrest⟩⟩

/-! ## A store that is left alone -/

/-- What a question of a reconcile does to a store that nobody else uses and that fails no call. -/
def Obeys : (r : Effects.Request) → Shelf → r.Answer → Shelf → Prop
  | .store c, s, answer, t => answer = (s.perform c).1 ∧ t = (s.perform c).2
  | .cluster _, s, _, t | .arm _, s, _, t | .disarm, s, _, t | .now, s, _, t => t = s

theorem obeys_answer (r : Effects.Request) (s : Scene) :
    Obeys r s.shelf (Scene.answer r s).1 (Scene.answer r s).2.shelf := by
  cases r with
  | store c => exact ⟨rfl, rfl⟩
  | arm _ | disarm | now => rfl
  | cluster r =>
    cases r with
    | call c => exact Scene.act_shelf
    | launch r => rfl
    | await n =>
      show (s.landOldest n).2.shelf = s.shelf
      unfold Scene.landOldest
      split
      · rfl
      · rfl
      · exact Scene.act_shelf

theorem follows_obeys (p : Program Effects α) (s : Scene) :
    Follows Obeys s.shelf (p.transcript Scene.answer s) (p.run Scene.answer s).2.shelf :=
  (follows_transcript (R := fun r s a t => Obeys r s.shelf a t.shelf) obeys_answer p s).map
    fun _ _ _ _ h => h

end Cordon.Controller
