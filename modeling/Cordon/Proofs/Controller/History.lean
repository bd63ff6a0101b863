import Cordon.Proofs.Controller.Report

/-! # The history of a status

A `Chronicle` is a history of the store: reconciles of one quarantine in turn, each of them perhaps
broken off, while others change the store at any time.  They may ask for anything else in the
quarantine, but they leave its status and its finalizer to the controller (`Shelf.Spares`).  Calls
may fail, and a call that fails may have taken effect.  What the cluster answers is left open.

`status_of_takes` says where a status comes from: after a reconcile, there is the status that was
there before, or the one that the reconcile reports on its pass.
-/

namespace Cordon

namespace Shelf

variable {s d t : Shelf} {name target : String} {q p : Quarantine} {c : StoreCall}

/-! ## Others -/

/-- What is stored under a name has the status that was stored before. -/
def SameStatus (name : String) (s t : Shelf) : Prop :=
  ∀ p, t.lookup name = some p → ∃ q, s.lookup name = some q ∧ p.status = q.status

theorem SameStatus.refl (s : Shelf) : SameStatus name s s := fun p hp => ⟨p, hp, rfl⟩

theorem SameStatus.trans (h : SameStatus name s d) (h' : SameStatus name d t) :
    SameStatus name s t := by
  intro p hp
  obtain ⟨q, hq, hpq⟩ := h' p hp
  obtain ⟨q', hq', hqq'⟩ := h q hq
  exact ⟨q', hq', hpq.trans hqq'⟩

/-- What the others make of the store: they leave the status and the finalizer of a quarantine. -/
structure Spares (name : String) (s t : Shelf) : Prop where
  distinct : s.Distinct → t.Distinct
  status : SameStatus name s t
  holds : s.holds name = true → t.holds name = true

theorem Spares.refl (s : Shelf) : Spares name s s := ⟨id, .refl s, id⟩

theorem Spares.trans (h : Spares name s d) (h' : Spares name d t) : Spares name s t :=
  ⟨h'.distinct ∘ h.distinct, h.status.trans h'.status, h'.holds ∘ h.holds⟩

theorem spares_respecify (target : String) (spec : QuarantineSpec) :
    Spares name s (s.respecify target spec) where
  distinct hs := distinct_edited target hs fun _ => rfl
  status p hp := by
    unfold respecify at hp
    rw [lookup_map (fun q => by split <;> rfl)] at hp
    obtain ⟨q, hq, rfl⟩ := Option.map_eq_some_iff.1 hp
    refine ⟨q, hq, ?_⟩
    split <;> rfl
  holds h := holds_map (fun q => by split <;> rfl) (fun q hheld => by split <;> exact hheld) h

theorem spares_delete (hs : s.Distinct) (target time : String) :
    Spares name s (s.delete target time) where
  distinct _ := distinct_staying
    (distinct_edited (f := Controller.withDeletion time) target hs fun _ => rfl)
  status p hp := by
    have hdistinct := distinct_edited (f := Controller.withDeletion time) target hs fun _ => rfl
    change (staying (s.map fun q => if q.requestName == target then
      Controller.withDeletion time q else q)).lookup name = some p at hp
    rw [lookup_staying hdistinct, lookup_map (fun q => by split <;> rfl)] at hp
    obtain ⟨q, hq, rfl⟩ := Option.map_eq_some_iff.1 (Option.filter_eq_some_iff.1 hp).1
    refine ⟨q, hq, ?_⟩
    split <;> rfl
  holds := holds_delete target time

/-! ## Calls -/

/-- What is stored after a change was there before, or is what has been changed. -/
theorem lookup_of_changeStored (hs : s.Distinct) {f : Quarantine → Quarantine}
    (hname : ∀ q, (f q).requestName = q.requestName)
    (hp : (s.changeStored c target f).2.lookup name = some p) :
    ∃ q, s.lookup name = some q ∧ (target ≠ name ∧ p = q ∨ target = name ∧ p = f q) := by
  unfold changeStored at hp
  split at hp
  · have hdistinct : Distinct (ClusterState.changeFirst (·.requestName == target) f s) := by
      unfold Distinct
      rw [map_changeFirst hname]
      exact hs
    rw [lookup_staying hdistinct, lookup] at hp
    have hfind := (Option.filter_eq_some_iff.1 hp).1
    rw [ClusterState.find?_changeFirst hname (fun q => beq_iff_eq (a := q.requestName))
      (fun q => beq_iff_eq (a := q.requestName))] at hfind
    split at hfind
    · next heq =>
      obtain ⟨q, hq, rfl⟩ := Option.map_eq_some_iff.1 hfind
      exact ⟨q, hq, .inr ⟨heq, rfl⟩⟩
    · next hne => exact ⟨p, hfind, .inl ⟨hne, rfl⟩⟩
  · next hnone =>
    refine ⟨p, hp, .inl ⟨fun heq => ?_, rfl⟩⟩
    rw [heq] at hnone
    cases hnone.symm.trans hp

/-- A call that does not write a status leaves every status. -/
theorem sameStatus_perform (hs : s.Distinct) (hc : ∀ q status, c ≠ .updateStatus q status) :
    SameStatus name s (s.perform c).2 := by
  have hchange : ∀ {c : StoreCall} {target : String} {f : Quarantine → Quarantine},
      (∀ q, (f q).requestName = q.requestName) → (∀ q, (f q).status = q.status) →
      SameStatus name s (s.changeStored c target f).2 := by
    intro c target f hname hstatus p hp
    obtain ⟨q, hq, ⟨-, rfl⟩ | ⟨-, rfl⟩⟩ := lookup_of_changeStored hs hname hp
    · exact ⟨p, hq, rfl⟩
    · exact ⟨q, hq, hstatus q⟩
  cases c with
  | getQuarantine ns name => exact .refl s
  | addFinalizer q | removeFinalizer q => exact hchange (fun _ => rfl) fun _ => rfl
  | updateStatus q status => exact absurd rfl (hc q status)

theorem status_of_updateStatus (hs : s.Distinct) {status : QuarantineStatus}
    (hp : (s.perform (.updateStatus q status)).2.lookup q.requestName = some p) :
    (∃ q', s.lookup q.requestName = some q') ∧ p.status = some status := by
  obtain ⟨q', hq', ⟨hne, -⟩ | ⟨-, rfl⟩⟩ := lookup_of_changeStored
    (f := fun q => { q with status := some status }) hs (fun _ => rfl) hp
  · exact absurd rfl hne
  · exact ⟨⟨q', hq'⟩, rfl⟩

end Shelf

namespace Controller

open Lifecycle (new settle stop)

variable {timing : Timing} {ns name : String} {s t : Shelf} {q p : Quarantine}
  {h : Dialogue Effects}

/-- What a question of a reconcile does to the store.  Before each question the others may have
changed it; a call that fails may have taken effect. -/
def Shelf.Replies (key : String) : (r : Effects.Request) → Shelf → r.Answer → Shelf → Prop
  | .store c, s, answer, t => ∃ d, Shelf.Spares key s d ∧
      (answer = (d.perform c).1 ∧ t = (d.perform c).2 ∨
        (∃ e, answer = .error e) ∧ (t = d ∨ t = (d.perform c).2))
  | .cluster _, s, _, t | .arm _, s, _, t | .disarm, s, _, t | .now, s, _, t =>
    Shelf.Spares key s t

/-- A reconcile, as far as it has come, and the store before and after it. -/
structure Chapter where
  timing : Timing
  before : Shelf
  dialogue : Dialogue Effects
  after : Shelf

/-- The reconcile of a chapter takes place. -/
structure Chapter.Takes (ns name : String) (c : Chapter) : Prop where
  opens : (reconcile c.timing (some ns) name).run.Opens c.dialogue
  follows : Follows (Shelf.Replies (ns ++ "/" ++ name)) c.before c.dialogue c.after

/-- A history of the store, its last chapter first. -/
inductive Chronicle (ns name : String) (s₀ : Shelf) : List Chapter → Shelf → Prop
  | start : Chronicle ns name s₀ [] s₀
  | edited {cs : List Chapter} {s t : Shelf} (hrun : Chronicle ns name s₀ cs s)
      (hedit : Shelf.Spares (ns ++ "/" ++ name) s t) : Chronicle ns name s₀ cs t
  | reconciled {cs : List Chapter} {c : Chapter} (hrun : Chronicle ns name s₀ cs c.before)
      (htakes : c.Takes ns name) : Chronicle ns name s₀ (c :: cs) c.after

/-! ## Questions -/

def writesStatus : Effects.Request → Bool
  | .store (.updateStatus _ _) => true
  | _ => false

section Replies

variable {key : String} {r : Effects.Request} {answer : r.Answer}

theorem distinct_of_replies (h : Shelf.Replies key r s answer t) (hs : s.Distinct) :
    t.Distinct := by
  cases r with
  | store c =>
    obtain ⟨d, hd, ⟨-, rfl⟩ | ⟨-, rfl | rfl⟩⟩ := h
    · exact Shelf.distinct_perform (hd.distinct hs) c
    · exact hd.distinct hs
    · exact Shelf.distinct_perform (hd.distinct hs) c
  | cluster _ | arm _ | disarm | now => exact h.distinct hs

theorem sameStatus_of_replies (h : Shelf.Replies key r s answer t) (hs : s.Distinct)
    (hr : writesStatus r = false) : Shelf.SameStatus key s t := by
  cases r with
  | store c =>
    obtain ⟨d, hd, hstored⟩ := h
    have hperform : Shelf.SameStatus key d (d.perform c).2 := by
      refine Shelf.sameStatus_perform (hd.distinct hs) fun q status heq => ?_
      rw [heq] at hr
      cases hr
    rcases hstored with ⟨-, rfl⟩ | ⟨-, rfl | rfl⟩
    · exact hd.status.trans hperform
    · exact hd.status
    · exact hd.status.trans hperform
  | cluster _ | arm _ | disarm | now => exact h.status

theorem holds_of_replies (h : Shelf.Replies key r s answer t)
    (hr : ∀ q, r ≠ .store (.removeFinalizer q)) (hs : s.holds key = true) :
    t.holds key = true := by
  cases r with
  | store c =>
    obtain ⟨d, hd, hstored⟩ := h
    have hperform := Shelf.holds_perform (fun q hq => hr q (congrArg _ hq)) (hd.holds hs)
    rcases hstored with ⟨-, rfl⟩ | ⟨-, rfl | rfl⟩
    · exact hperform
    · exact hd.holds hs
    · exact hperform
  | cluster _ | arm _ | disarm | now => exact h.holds hs

end Replies

/-- Questions that write no status leave every status. -/
theorem sameStatus_of_follows {key : String} (hf : Follows (Shelf.Replies key) s h t)
    (hs : s.Distinct) (hh : ∀ e ∈ h, writesStatus e.1 = false) :
    t.Distinct ∧ Shelf.SameStatus key s t := by
  refine hf.keeps (P := fun t => t.Distinct ∧ Shelf.SameStatus key s t)
    (fun e he m m' hm hkept => ?_) ⟨hs, .refl s⟩
  exact ⟨distinct_of_replies hm hkept.1, hkept.2.trans (sameStatus_of_replies hm hkept.1 (hh e he))⟩

/-- A status that is written is the one to be written, or the one that was there; if the write
succeeds, it is the former. -/
theorem status_of_write {key : String} {next : QuarantineStatus} {answer : Except StoreError Unit}
    (hs : s.Distinct) (hq : q.requestName = key)
    (h : Shelf.Replies key (.store (.updateStatus q next)) s answer t)
    (hp : t.lookup key = some p) : ∃ q', s.lookup key = some q' ∧
      (p.status = some next ∨ p.status = q'.status) ∧ (answer = .ok () → p.status = some next) := by
  obtain ⟨d, hd, hstored⟩ := h
  have hwritten : (d.perform (.updateStatus q next)).2.lookup key = some p →
      ∃ q', s.lookup key = some q' ∧ p.status = some next := by
    intro hlookup
    rw [← hq] at hlookup
    obtain ⟨⟨q', hq'⟩, hstatus⟩ := Shelf.status_of_updateStatus (hd.distinct hs) hlookup
    rw [hq] at hq'
    obtain ⟨q₀, hq₀, -⟩ := hd.status q' hq'
    exact ⟨q₀, hq₀, hstatus⟩
  rcases hstored with ⟨hanswer, rfl⟩ | ⟨⟨e, rfl⟩, rfl | rfl⟩
  · obtain ⟨q', hq', hstatus⟩ := hwritten hp
    exact ⟨q', hq', .inl hstatus, fun _ => hstatus⟩
  · obtain ⟨q', hq', hstatus⟩ := hd.status p hp
    exact ⟨q', hq', .inr hstatus, fun hok => by cases hok⟩
  · obtain ⟨q', hq', hstatus⟩ := hwritten hp
    exact ⟨q', hq', .inl hstatus, fun hok => by cases hok⟩

/-! ## Chapters -/

/-- The reconcile of a dialogue has taken a quarantine up, and what comes behind the loading is a
pass and its report. -/
structure Reports (ns name : String) (timing : Timing) (h : Dialogue Effects) (q : Quarantine)
    (during behind : Dialogue Effects) (l : Lifecycle) (status : ConditionStatus)
    (reason message : String) : Prop where
  dialogue : h = ⟨.store (.getQuarantine ns name), .ok (some q)⟩ :: (during ++ behind)
  held : q.hasFinalizer = true
  verdict : Verdict timing q during l status reason message
  files : Files q l status reason message behind

theorem Fails.task {during : Dialogue Effects} {l : Lifecycle} {step : String}
    {e : ControllerError} (h : Fails timing q l during step e) :
    (task q).Says (new q timing.nodeTimeout) during (.error e) l := by
  unfold Controller.task
  cases h with
  | stop hdeleting hpass =>
    rw [if_pos hdeleting]
    exact hpass
  | update hlive hactive hpass =>
    rw [hlive, if_neg Bool.false_ne_true, hactive]
    exact hpass
  | prepare hlive hidle hpass =>
    rw [hlive, if_neg Bool.false_ne_true, hidle]
    exact Pass.says_bind.2 (.inr ⟨_, rfl, hpass⟩)
  | start hlive hidle hprepared hpass =>
    rw [hlive, if_neg Bool.false_ne_true, hidle]
    exact Pass.says_bind.2 (.inl ⟨_, _, _, _, rfl, hprepared, hpass⟩)

/-- What is reported is what has come of the pass over the quarantine. -/
theorem Verdict.task {during : Dialogue Effects} {l : Lifecycle} {status : ConditionStatus}
    {reason message : String} (hv : Verdict timing q during l status reason message) :
    ∃ r, (task q).Says (new q timing.nodeTimeout) during r l := by
  cases hv with
  | settled hlive hpass =>
    refine ⟨.ok (), ?_⟩
    rw [Controller.task, hlive, if_neg Bool.false_ne_true]
    exact hpass
  | failed hfails => exact ⟨_, hfails.task⟩

/-- A pass asks nothing but what its steps ask. -/
theorem Verdict.inSteps {during : Dialogue Effects} {l : Lifecycle} {status : ConditionStatus}
    {reason message : String} (hv : Verdict timing q during l status reason message) :
    ∀ e ∈ during, e.1.inStep = true := by
  obtain ⟨r, htask⟩ := hv.task
  exact (inSteps_task _ _ _ htask).1

/-- Within its steps a pass does not call the store. -/
theorem writesStatus_of_inStep {r : Effects.Request} (hr : r.inStep = true) :
    writesStatus r = false := by
  cases r with
  | store c => cases hr
  | cluster _ | arm _ | disarm | now => rfl

/-- A quarantine that has been taken up is let go behind a stop, or the pass is reported. -/
theorem reports_of_speaks {r : Except ControllerError Next}
    (hs : (reconcile timing (some ns) name).run.Speaks h r) (hloaded : loaded h = some q)
    (hheld : q.hasFinalizer = true) :
    (q.isDeleting = true ∧ ∃ during l answer,
        stop.Says (new q timing.nodeTimeout) during (.ok ()) l ∧
        h = ⟨.store (.getQuarantine ns name), .ok (some q)⟩ ::
          (during ++ [⟨.store (.removeFinalizer q), answer⟩])) ∨
      ∃ during behind l status reason message,
        Reports ns name timing h q during behind l status reason message := by
  obtain ⟨answer, rest, rfl, ⟨hnone, rfl⟩ | ⟨q', rfl, hrest⟩⟩ := speaks_load hs
  · cases answer with
    | error e => cases hloaded
    | ok found =>
      cases (show found = some q from hloaded)
      exact absurd rfl (hnone q)
  · cases hloaded
    rcases report_of_speaks hheld hrest with
      ⟨hdeleting, during, l, answer, hstop, rfl⟩ |
      ⟨during, behind, l, status, reason, message, rfl, hverdict, hfiles⟩
    · exact .inl ⟨hdeleting, during, l, answer, hstop, rfl⟩
    · exact .inr ⟨during, behind, l, status, reason, message, rfl, hheld, hverdict, hfiles⟩

/-- A reconcile writes a status in its last question, if at all, and then to report on its pass. -/
theorem outline_of_speaks {r : Except ControllerError Next}
    (hs : (reconcile timing (some ns) name).run.Speaks h r) :
    (∀ e ∈ h, writesStatus e.1 = false) ∨
      ∃ q during l status reason message now answer,
        Reports ns name timing h q during
          (writing q now (written q l.observedNodes status reason message now) answer) l status
          reason message := by
  obtain ⟨answer, rest, rfl, ⟨-, rfl⟩ | ⟨q, rfl, hrest⟩⟩ := speaks_load hs
  · exact .inl (by simp [writesStatus])
  cases hheld : q.hasFinalizer with
  | false =>
    have hc := speaks_reconcileLoaded hrest
    refine .inl (List.forall_mem_cons.2 ⟨rfl, ?_⟩)
    cases hdeleting : q.isDeleting with
    | true => simp [eq_nil_of_left hc hdeleting hheld]
    | false =>
      obtain ⟨answer, rfl⟩ := eq_addFinalizer_of_taken hc hdeleting hheld
      simp [writesStatus]
  | true =>
    rcases reports_of_speaks hs rfl hheld with
      ⟨-, during, l, answer, hstop, heq⟩ |
      ⟨during, behind, l, status, reason, message, hreports⟩
    · rw [heq]
      refine .inl (List.forall_mem_cons.2 ⟨rfl, List.forall_mem_append.2 ⟨?_, ?_⟩⟩)
      · exact fun e he => writesStatus_of_inStep ((inSteps_stop_new _ _ _ hstop).1 e he)
      · simp [writesStatus]
    · rcases id hreports.files with ⟨-, rfl⟩ | ⟨-, now, answer, rfl⟩
      · rw [hreports.dialogue, List.append_nil]
        exact .inl (List.forall_mem_cons.2 ⟨rfl, fun e he =>
          writesStatus_of_inStep (hreports.verdict.inSteps e he)⟩)
      · exact .inr ⟨q, during, l, status, reason, message, now, answer, hreports⟩

/-- What is loaded has the status that is stored, and the store holds on to it then. -/
theorem status_of_load {answer : Option Quarantine} (ha : answer = some q)
    (h : Shelf.Replies (ns ++ "/" ++ name) (.store (.getQuarantine ns name)) s (.ok answer) t) :
    q.requestName = ns ++ "/" ++ name ∧
      (∃ q₀, s.lookup (ns ++ "/" ++ name) = some q₀ ∧ q.status = q₀.status) ∧
      (q.hasFinalizer = true → t.holds (ns ++ "/" ++ name) = true) := by
  obtain ⟨d, hd, ⟨hfound, ht⟩ | ⟨⟨e, he⟩, -⟩⟩ := h
  · cases (show t = d from ht)
    have hlookup : t.lookup (ns ++ "/" ++ name) = some q :=
      (Except.ok.inj hfound).symm.trans ha
    exact ⟨Shelf.requestName_of_lookup hlookup, hd.status q hlookup,
      fun hheld => Shelf.holds_iff.2 ⟨q, hlookup, hheld⟩⟩
  · cases he

/-- A pass and its report leave the quarantine in the store, with the status that was loaded or the
one that is written. -/
theorem status_of_report {during behind : Dialogue Effects} {l : Lifecycle}
    {status : ConditionStatus} {reason message : String} (hs : s.Distinct)
    (hr : Reports ns name timing h q during behind l status reason message)
    (hf : Follows (Shelf.Replies (ns ++ "/" ++ name)) s h t) :
    (∃ q₀, s.lookup (ns ++ "/" ++ name) = some q₀ ∧ q.status = q₀.status) ∧
      t.Distinct ∧ t.holds (ns ++ "/" ++ name) = true ∧
      ∀ p, t.lookup (ns ++ "/" ++ name) = some p →
        behind = [] ∧ p.status = q.status ∨ ∃ now answer,
          behind = writing q now (written q l.observedNodes status reason message now) answer ∧
          (p.status = some (written q l.observedNodes status reason message now) ∨
            p.status = q.status) ∧
          (answer = .ok () →
            p.status = some (written q l.observedNodes status reason message now)) := by
  have hquiet := fun e he => writesStatus_of_inStep (hr.verdict.inSteps e he)
  have hfront : ∀ e ∈ (⟨.store (.getQuarantine ns name), .ok (some q)⟩ :: during :
      Dialogue Effects), writesStatus e.1 = false := List.forall_mem_cons.2 ⟨rfl, hquiet⟩
  rw [hr.dialogue, ← List.cons_append] at hf
  obtain ⟨m, hbefore, hbehind⟩ := follows_append.1 hf
  obtain ⟨hdistinct, hsame⟩ := sameStatus_of_follows hbefore hs hfront
  obtain ⟨d, hload, hpass⟩ := hbefore
  obtain ⟨hname, ⟨q₀, hq₀, hstatus⟩, hholds⟩ := status_of_load rfl hload
  -- A pass never takes the finalizer off, so the quarantine is still there to be reported on.
  have hheld : m.holds (ns ++ "/" ++ name) = true := by
    refine hpass.keeps (fun e he s t hreply hs => holds_of_replies hreply (fun q heq => ?_) hs)
      (hholds hr.held)
    have hstep := hr.verdict.inSteps e he
    rw [heq] at hstep
    cases hstep
  have hkept : ∀ p, m.lookup (ns ++ "/" ++ name) = some p → p.status = q.status := by
    intro p hp
    obtain ⟨q', hq', hp⟩ := hsame p hp
    cases hq₀.symm.trans hq'
    exact hp.trans hstatus.symm
  refine ⟨⟨q₀, hq₀, hstatus⟩, ?_⟩
  rcases hr.files with ⟨-, rfl⟩ | ⟨-, now, answer, rfl⟩
  · cases hbehind
    exact ⟨hdistinct, hheld, fun p hp => .inl ⟨rfl, hkept p hp⟩⟩
  · obtain ⟨m', hnow, m'', hwrite, rfl⟩ := hbehind
    have hdistinct' := distinct_of_replies hnow hdistinct
    refine ⟨distinct_of_replies hwrite hdistinct', ?_, fun p hp => .inr ⟨now, answer, rfl, ?_⟩⟩
    · exact holds_of_replies hwrite (fun _ heq => nomatch heq)
        (holds_of_replies hnow (fun _ heq => nomatch heq) hheld)
    · obtain ⟨q', hq', hp, hok⟩ := status_of_write hdistinct' hname hwrite hp
      obtain ⟨q'', hq'', hq'⟩ := hnow.status q' hq'
      exact ⟨hp.imp_right fun hp => (hp.trans hq').trans (hkept q'' hq''), hok⟩

/-- After a reconcile, or a part of it, there is the status that was there before, or the one that
the reconcile reports on its pass. -/
theorem status_of_takes {c : Chapter} (hs : c.before.Distinct) (h : c.Takes ns name) :
    c.after.Distinct ∧ ∀ p, c.after.lookup (ns ++ "/" ++ name) = some p →
      ∃ q₀, c.before.lookup (ns ++ "/" ++ name) = some q₀ ∧
        (p.status = q₀.status ∨ ∃ q during l status reason message now answer,
          q.status = q₀.status ∧
          Reports ns name c.timing c.dialogue q during
            (writing q now (written q l.observedNodes status reason message now) answer) l status
            reason message ∧
          p.status = some (written q l.observedNodes status reason message now)) := by
  obtain ⟨⟨rest, r, hspeaks⟩, hf⟩ := h
  have hquiet : (∀ e ∈ c.dialogue, writesStatus e.1 = false) → c.after.Distinct ∧
      ∀ p, c.after.lookup (ns ++ "/" ++ name) = some p →
        ∃ q₀, c.before.lookup (ns ++ "/" ++ name) = some q₀ ∧ p.status = q₀.status :=
    sameStatus_of_follows hf hs
  rcases outline_of_speaks hspeaks with hsilent |
    ⟨q, during, l, status, reason, message, now, answer, hreports⟩
  · obtain ⟨hdistinct, hsame⟩ := hquiet fun e he => hsilent e (List.mem_append_left _ he)
    exact ⟨hdistinct, fun p hp => (hsame p hp).imp fun _ h => ⟨h.1, .inl h.2⟩⟩
  -- The status is written last, so a reconcile that is broken off has not come to that.
  have heq : c.dialogue ++ rest =
      (⟨.store (.getQuarantine ns name), .ok (some q)⟩ :: (during ++ [⟨.now, now⟩])) ++
        [⟨.store (.updateStatus q (written q l.observedNodes status reason message now)),
          answer⟩] := by
    rw [hreports.dialogue]
    simp [writing]
  rcases List.prefix_concat_iff.1 ⟨rest, heq⟩ with hwhole | hpart
  · have hnone : rest = [] := by
      rw [hwhole] at heq
      simpa using heq
    rw [hnone, List.append_nil] at hreports
    obtain ⟨⟨q₀, hq₀, hstatus⟩, hdistinct, -, hafter⟩ := status_of_report hs hreports hf
    refine ⟨hdistinct, fun p hp => ⟨q₀, hq₀, ?_⟩⟩
    rcases hafter p hp with ⟨hnil, -⟩ | ⟨now', answer', hbehind, hp | hp, -⟩
    · cases hnil
    · exact .inr ⟨q, during, l, status, reason, message, now', answer', hstatus,
        hbehind ▸ hreports, hp⟩
    · exact .inl (hp.trans hstatus)
  · obtain ⟨hdistinct, hsame⟩ := hquiet fun e he => by
      have hmem := hpart.subset he
      simp only [List.mem_cons, List.mem_append, List.not_mem_nil, or_false] at hmem
      rcases hmem with rfl | hmem | rfl
      · rfl
      · exact writesStatus_of_inStep (hreports.verdict.inSteps e hmem)
      · rfl
    exact ⟨hdistinct, fun p hp => (hsame p hp).imp fun _ h => ⟨h.1, .inl h.2⟩⟩

theorem distinct_of_chronicle {s₀ : Shelf} {cs : List Chapter} (hs₀ : s₀.Distinct)
    (hrun : Chronicle ns name s₀ cs s) : s.Distinct := by
  induction hrun with
  | start => exact hs₀
  | edited _ hedit ih => exact hedit.distinct ih
  | reconciled _ htakes ih => exact (status_of_takes ih htakes).1

/-! ## Histories on a cluster that fails calls -/

theorem replies_of_obeys {key : String} {r : Effects.Request} {answer : r.Answer}
    (h : Obeys r s answer t) : Shelf.Replies key r s answer t := by
  cases r with
  | store c => exact ⟨s, .refl s, .inl h⟩
  | cluster _ | arm _ | disarm | now =>
    cases (show t = s from h)
    exact .refl s

theorem obeys_failing (fails : ClusterCall → Bool) (r : Effects.Request) (s : Scene) :
    Obeys r s.shelf (s.failing fails r).1 (s.failing fails r).2.shelf := by
  cases r with
  | cluster r =>
    cases r with
    | call c =>
      by_cases hc : fails c = true
      · simp only [Scene.failing, if_pos hc]
        rfl
      · simp only [Scene.failing, if_neg hc]
        exact obeys_answer _ s
    | launch _ | await _ => exact obeys_answer _ s
  | store _ | arm _ | disarm | now => exact obeys_answer _ s

/-- The chapter of a reconcile that nobody interferes with, on a cluster that fails some calls. -/
def Chapter.failing (fails : ClusterCall → Bool) (timing : Timing) (ns name : String) (s : Scene) :
    Chapter :=
  ⟨timing, s.shelf, (reconcile timing (some ns) name).run.transcript (Scene.failing fails) s,
    ((reconcile timing (some ns) name).run.run (Scene.failing fails) s).2.shelf⟩

theorem takes_failing (fails : ClusterCall → Bool) (timing : Timing) (ns name : String)
    (s : Scene) : (Chapter.failing fails timing ns name s).Takes ns name where
  opens := (Program.speaks_transcript _ _ s).opens
  follows := by
    have hf := follows_transcript (R := fun r s answer t => Obeys r s.shelf answer t.shelf)
      (obeys_failing fails) (reconcile timing (some ns) name).run s
    exact hf.map (f := Scene.shelf) fun _ _ _ _ h => replies_of_obeys h

end Controller

end Cordon
