import Cordon.Proofs.Controller.Ledger
import Cordon.Proofs.Controller.Quiescence

/-! # What a status tells

If nobody else writes the status of a quarantine then it tells of the last pass: that the quarantine
is in place, or that a step has failed, and with which error (`status_tells_of_pass`).  A status is
not written that has the same message, though.  So if one step after the other fails for the same
reason, then the status keeps the name of the step that was the first to fail.
-/

namespace Cordon

/-! ## Conditions -/

namespace QuarantineStatus

/-- The conditions other than the active one. -/
def otherConditions (s : QuarantineStatus) : List Condition :=
  s.conditions.filter fun c => !isActiveCondition c

end QuarantineStatus

namespace Controller

open Lifecycle (new stop)

variable {timing : Timing} {ns name : String} {s s₀ : Shelf} {q p : Quarantine} {l : Lifecycle}
  {h during behind : Dialogue Effects} {c : Chapter} {cs : List Chapter}
  {status : ConditionStatus} {reason message : String}

/-- The active condition that is stored. -/
def activeCondition (q : Quarantine) : Option Condition := q.status.bind (·.activeCondition)

/-- The other conditions that are stored. -/
def otherConditions (q : Quarantine) : List Condition := (q.status.getD .blank).otherConditions

theorem activeCondition_getD (q : Quarantine) :
    (q.status.getD .blank).activeCondition = activeCondition q := by
  unfold activeCondition
  cases q.status with
  | none => rfl
  | some s => rfl

theorem isActive_iff : q.isActive = true ↔ ∃ d, activeCondition q = some d ∧
    d.status = .isTrue ∧ d.reason = Convention.runningReason := by
  unfold Quarantine.isActive activeCondition
  cases q.status with
  | none => simp
  | some s =>
    simp only [Option.map_some, Option.getD_some, Option.bind_some, QuarantineStatus.isActive]
    cases s.activeCondition with
    | none => simp
    | some d => simp

/-- A status that is written has the other conditions that were there. -/
theorem stored_of_written {now : String}
    (hp : p.status = some (written q l.observedNodes status reason message now)) :
    p.observedNodes = l.observedNodes ∧ otherConditions p = otherConditions q ∧
      ∃ d, activeCondition p = some d ∧ d.status = status ∧ d.reason = reason ∧
        d.message = message := by
  refine ⟨observedNodes_written hp, ?_, ?_⟩
  · unfold otherConditions
    rw [hp]
    exact QuarantineStatus.filter_putActive (by simp [QuarantineStatus.isActiveCondition]) _
  · obtain ⟨time, hd⟩ :=
      activeCondition_written (q := q) l.observedNodes status reason message now
    refine ⟨⟨Convention.activeCondition, status, reason, message, time⟩, ?_, rfl, rfl, rfl⟩
    unfold activeCondition
    rw [hp]
    exact hd

/-! ## Where a condition comes from -/

/-- One of these reconciles has reported this. -/
def Reported (ns name : String) (cs : List Chapter) (status : ConditionStatus)
    (reason message : String) : Prop :=
  ∃ c ∈ cs, ∃ q during behind l,
    Reports ns name c.timing c.dialogue q during behind l status reason message

theorem Reported.cons (h : Reported ns name cs status reason message) (c : Chapter) :
    Reported ns name (c :: cs) status reason message :=
  h.imp fun _ h => ⟨List.mem_cons_of_mem c h.1, h.2⟩

/-- What a condition says has been reported, if there was none at first. -/
theorem reported_of_chronicle (hs₀ : s₀.Distinct)
    (hfresh : ∀ p, s₀.lookup (ns ++ "/" ++ name) = some p → activeCondition p = none)
    (hrun : Chronicle ns name s₀ cs s) (hp : s.lookup (ns ++ "/" ++ name) = some p)
    {d : Condition} (hd : activeCondition p = some d) :
    Reported ns name cs d.status d.reason d.message := by
  induction hrun generalizing p with
  | start => cases (hfresh p hp).symm.trans hd
  | edited _ hedit ih =>
    obtain ⟨q, hq, hstatus⟩ := hedit.status p hp
    refine ih hq ?_
    unfold activeCondition at hd ⊢
    rw [← hstatus]
    exact hd
  | @reconciled cs c hrun htakes ih =>
    obtain ⟨q₀, hq₀, hstatus⟩ := (status_of_takes (distinct_of_chronicle hs₀ hrun) htakes).2 p hp
    rcases hstatus with
      hsame | ⟨q, during, l, status, reason, message, now, answer, -, hreports, hp⟩
    · refine (ih hq₀ ?_).cons c
      unfold activeCondition at hd ⊢
      rw [← hsame]
      exact hd
    · obtain ⟨-, -, d', hd', rfl, rfl, rfl⟩ := stored_of_written hp
      cases hd'.symm.trans hd
      exact ⟨c, by simp, q, during, _, l, hreports⟩

theorem reason_of_reported (h : Reported ns name cs .isTrue reason message) :
    reason = Convention.runningReason ∧ message = Convention.runningMessage := by
  obtain ⟨c, -, q, during, behind, l, hreports⟩ := h
  generalize hstatus : ConditionStatus.isTrue = status at hreports
  cases hreports.verdict with
  | settled => exact ⟨rfl, rfl⟩
  | failed => cases hstatus

/-! ## After a reconcile -/

/-- What is stored after a reconcile tells of its pass: the records that it has left, and in the
active condition whether it has succeeded, or else with which error it has failed, and where.  If
nothing is written then what is stored says as much, but the failed step that it names may be that
of an earlier reconcile. -/
structure Tells (ns name : String) (cs : List Chapter) (q : Quarantine) (l : Lifecycle)
    (status : ConditionStatus) (reason message : String) (behind : Dialogue Effects)
    (p : Quarantine) : Prop where
  records : p.observedNodes = l.observedNodes
  others : otherConditions p = otherConditions q
  condition : ∃ d, activeCondition p = some d ∧ d.status = status ∧ d.message = message ∧
    (d.reason = reason ∨
      behind = [] ∧ status = .isFalse ∧ Reported ns name cs .isFalse d.reason message)
  active : status = .isTrue → p.isActive = true
  silent : behind = [] ↔ (∃ d, activeCondition q = some d ∧ d.status = status ∧
    d.message = message) ∧ q.observedNodes = l.observedNodes
  unchanged : behind = [] → p.status = q.status

theorem Files.silent_iff (hf : Files q l status reason message behind) :
    behind = [] ↔ (∃ d, activeCondition q = some d ∧ d.status = status ∧ d.message = message) ∧
      q.observedNodes = l.observedNodes := by
  rw [← activeCondition_getD, ← observedNodes_getD, ← differsFrom_eq_false_iff]
  rcases hf with ⟨hsame, rfl⟩ | ⟨hdiffers, now, answer, rfl⟩
  · simp [hsame]
  · simp [hdiffers, writing]

/-- What has the same status and message already is left, and has been reported. -/
theorem tells_of_silence (hstatus : p.status = q.status)
    (hr : Reports ns name timing h q during [] l status reason message)
    (htold : ∀ d, activeCondition q = some d →
      Reported ns name cs d.status d.reason d.message) :
    Tells ns name cs q l status reason message [] p := by
  obtain ⟨⟨d, hd, hsame, hmessage⟩, hrecords⟩ := hr.files.silent_iff.1 rfl
  have hstored : activeCondition p = some d := by
    rw [activeCondition, hstatus]
    exact hd
  have htold' := htold d hd
  rw [hsame, hmessage] at htold'
  have hreason : status = .isTrue → d.reason = reason ∧ reason = Convention.runningReason := by
    intro htrue
    cases hr.verdict with
    | settled => exact ⟨(reason_of_reported htold').1, rfl⟩
    | failed => cases htrue
  refine ⟨(observedNodes_congr hstatus).trans hrecords, ?_, ⟨d, hstored, hsame, hmessage, ?_⟩,
    fun htrue => ?_, hr.files.silent_iff, fun _ => hstatus⟩
  · rw [otherConditions, hstatus]
    rfl
  · cases hr.verdict with
    | settled => exact .inl (hreason rfl).1
    | failed => exact .inr ⟨rfl, rfl, htold'⟩
  · obtain ⟨hd', hrunning⟩ := hreason htrue
    exact isActive_iff.2 ⟨d, hstored, hsame.trans htrue, hd'.trans hrunning⟩

/-- What is written tells of the pass. -/
theorem tells_of_written {now : String} (hbehind : behind ≠ [])
    (hp : p.status = some (written q l.observedNodes status reason message now))
    (hr : Reports ns name timing h q during behind l status reason message) :
    Tells ns name cs q l status reason message behind p := by
  obtain ⟨hrecords, hothers, d, hd, hstatus, hreason, hmessage⟩ := stored_of_written hp
  refine ⟨hrecords, hothers, ⟨d, hd, hstatus, hmessage, .inl hreason⟩, fun htrue => ?_,
    hr.files.silent_iff, fun hnil => absurd hnil hbehind⟩
  cases hr.verdict with
  | settled => exact isActive_iff.2 ⟨d, hd, hstatus, hreason⟩
  | failed => cases htrue

/-- A reconcile of a quarantine that has been taken up, if it comes to its end and the store takes
what it is given, lets the quarantine go or leaves a status that tells of its pass. -/
theorem status_tells_of_pass (hs₀ : s₀.Distinct)
    (hfresh : ∀ p, s₀.lookup (ns ++ "/" ++ name) = some p → activeCondition p = none)
    (hrun : Chronicle ns name s₀ cs c.before) (htakes : c.Takes ns name)
    {r : Except ControllerError Next}
    (hspeaks : (reconcile c.timing (some ns) name).run.Speaks c.dialogue r)
    (hloaded : loaded c.dialogue = some q) (hheld : q.hasFinalizer = true)
    (hwrites : ∀ q' next answer,
      ⟨.store (.updateStatus q' next), answer⟩ ∈ c.dialogue → answer = .ok ()) :
    (q.isDeleting = true ∧ ∃ during l answer,
      stop.Says (new q c.timing.nodeTimeout) during (.ok ()) l ∧
      c.dialogue = ⟨.store (.getQuarantine ns name), .ok (some q)⟩ ::
        (during ++ [⟨.store (.removeFinalizer q), answer⟩])) ∨
    ∃ during behind l status reason message,
      Reports ns name c.timing c.dialogue q during behind l status reason message ∧
      ∃ p, c.after.lookup (ns ++ "/" ++ name) = some p ∧
        Tells ns name cs q l status reason message behind p := by
  refine (reports_of_speaks hspeaks hloaded hheld).imp_right ?_
  rintro ⟨during, behind, l, status, reason, message, hr⟩
  obtain ⟨⟨q₀, hq₀, hstatus⟩, -, hholds, hafter⟩ :=
    status_of_report (distinct_of_chronicle hs₀ hrun) hr htakes.follows
  obtain ⟨p, hp, -⟩ := Shelf.holds_iff.1 hholds
  refine ⟨during, behind, l, status, reason, message, hr, p, hp, ?_⟩
  rcases hafter p hp with ⟨rfl, hsame⟩ | ⟨now, answer, rfl, -, hwritten⟩
  · -- Nothing is written since the status says so already; then an earlier report has said it.
    refine tells_of_silence hsame hr fun d hd => ?_
    refine reported_of_chronicle hs₀ hfresh hrun hq₀ ?_
    rw [activeCondition, ← hstatus]
    exact hd
  · have hwrite : ⟨.store (.updateStatus q (written q l.observedNodes status reason message now)),
        answer⟩ ∈ c.dialogue := by
      rw [hr.dialogue]
      simp [writing]
    exact tells_of_written (by simp [writing]) (hwritten (hwrites _ _ _ hwrite)) hr

/-- Whether a status has been written, or no status is what was written. -/
def takesStatus : Effects.Event → Bool
  | ⟨.store (.updateStatus _ _), .error _⟩ => false
  | _ => true

theorem eq_ok_of_takesStatus (hh : ∀ e ∈ h, takesStatus e = true) {next : QuarantineStatus}
    {answer : Except StoreError Unit} (hmem : ⟨.store (.updateStatus q next), answer⟩ ∈ h) :
    answer = .ok () := by
  cases answer with
  | ok _ => rfl
  | error e => cases hh _ hmem

namespace Sample

/-- Nodes cannot be read. -/
def nodeFails : ClusterCall → Bool
  | .getNode _ => true
  | _ => false

/-- The node has been dropped, and the pass that was to give it up has failed. -/
def stuck : Scene := passed nodeFails emptied

end Sample

open Sample in
/-- The step is named that has failed to give a dropped node up. -/
theorem status_tells_of_pass_of_emptied : ∃ q l status reason message behind p,
    (chapter nodeFails emptied).after.lookup "ns/m" = some p ∧
      (activeCondition p).map (·.reason) = some "update" ∧
      Tells "ns" "m" (story calm emptied).tail q l status reason message behind p := by
  have hrun : Chronicle "ns" "m" begun.shelf (story calm emptied).tail
      (chapter nodeFails emptied).before :=
    .edited (.reconciled (.reconciled .start (takes_failing _ _ _ _ _)) (takes_failing _ _ _ _ _))
      (Shelf.spares_respecify _ _)
  obtain ⟨q, hloaded, hheld⟩ := (Option.any_eq_true Quarantine.hasFinalizer _).1
    (by decide +kernel : (loaded (chapter nodeFails emptied).dialogue).any _ = true)
  have hwritten : ∀ e ∈ (chapter nodeFails emptied).dialogue, takesStatus e = true := by
    decide +kernel
  rcases status_tells_of_pass (created (by decide)).distinct (by decide +kernel) hrun
    (takes_failing _ _ _ _ _) (Program.speaks_transcript _ _ _) hloaded hheld
    (fun _ _ _ hmem => eq_ok_of_takesStatus hwritten hmem) with
    ⟨hdeleting, -⟩ | ⟨during, behind, l, status, reason, message, -, p, hp, htells⟩
  · have hlive : ∀ q ∈ loaded (chapter nodeFails emptied).dialogue, q.isDeleting = false := by
      decide +kernel
    cases hdeleting.symm.trans (hlive q hloaded)
  · have hreason : ∀ p ∈ (chapter nodeFails emptied).after.lookup "ns/m",
        (activeCondition p).map (·.reason) = some "update" := by decide +kernel
    exact ⟨q, l, status, reason, message, behind, p, hp, hreason p hp, htells⟩

namespace Sample

/-- The quarantine is deleted after the pass has failed. -/
def stuckDeleted : Scene := deleted "ns" "m" stuck "now"

theorem chronicle_stuckDeleted : Chronicle "ns" "m" begun.shelf (story nodeFails emptied)
    (chapter nodeFails stuckDeleted).before :=
  .edited (chronicle_story nodeFails (Shelf.spares_respecify _ _))
    (Shelf.spares_delete (show List.Nodup _ by decide +kernel) _ _)

end Sample

open Sample in
/-- It is not so that the step is named that has failed last: a stop that fails as an update has
failed before leaves the name of the update. -/
theorem not_status_tells_of_pass : ¬ ∀ s₀ cs (c : Chapter) q r, s₀.Distinct →
    (∀ p, s₀.lookup "ns/m" = some p → activeCondition p = none) →
    Chronicle "ns" "m" s₀ cs c.before → c.Takes "ns" "m" →
    (reconcile c.timing (some "ns") "m").run.Speaks c.dialogue r → loaded c.dialogue = some q →
    q.hasFinalizer = true →
    (∀ q' next answer, ⟨.store (.updateStatus q' next), answer⟩ ∈ c.dialogue → answer = .ok ()) →
    ∀ during behind l status reason message p,
      Reports "ns" "m" c.timing c.dialogue q during behind l status reason message →
      c.after.lookup "ns/m" = some p → (activeCondition p).map (·.reason) = some reason := by
  intro hall
  obtain ⟨q, hloaded, hkept⟩ := (Option.any_eq_true
      (fun q => q.hasFinalizer && q.isDeleting) _).1
    (by decide +kernel : (loaded (chapter nodeFails stuckDeleted).dialogue).any _ = true)
  obtain ⟨hheld, hdeleting⟩ := Bool.and_eq_true_iff.1 hkept
  -- No question but the first one is for the store, so nothing is let go or written.
  have hsilent : ∀ e ∈ (chapter nodeFails stuckDeleted).dialogue.tail, e.1.onStore = false := by
    decide +kernel
  have hspeaks := Program.speaks_transcript (Scene.failing nodeFails)
    (reconcile Sample.timing (some "ns") "m").run stuckDeleted
  rcases reports_of_speaks hspeaks hloaded hheld with
    ⟨-, during, l, answer, -, heq⟩ | ⟨during, behind, l, status, reason, message, hr⟩
  · have hgone := hsilent ⟨.store (.removeFinalizer q), answer⟩ (by
      rw [show (chapter nodeFails stuckDeleted).dialogue = _ from heq]
      simp)
    cases hgone
  · have hreason : reason = "stop" := by
      cases hr.verdict with
      | settled hlive => cases hdeleting.symm.trans hlive
      | failed hfails =>
        cases hfails with
        | stop => rfl
        | update hlive | prepare hlive | start hlive => cases hdeleting.symm.trans hlive
    have hwritten : ∀ e ∈ (chapter nodeFails stuckDeleted).dialogue, takesStatus e = true := by
      decide +kernel
    obtain ⟨p, hp, hupdate⟩ := (Option.any_eq_true
        (fun p => (activeCondition p).map (·.reason) == some "update") _).1
      (by decide +kernel : ((chapter nodeFails stuckDeleted).after.lookup "ns/m").any _ = true)
    have hsays := hall _ _ (chapter nodeFails stuckDeleted) q _ (created (by decide)).distinct
      (by decide +kernel) chronicle_stuckDeleted (takes_failing _ _ _ _ _) hspeaks hloaded hheld
      (fun _ _ _ hmem => eq_ok_of_takesStatus hwritten hmem) _ _ _ _ _ _ p hr hp
    rw [eq_of_beq hupdate, hreason] at hsays
    exact absurd hsays (by decide)

end Controller

end Cordon
