import Cordon.Quarantine.Status
import Mathlib.Data.List.Basic

/-! # The history of the active condition

The active condition is found by its place: it is the first of its type.  Others may insert, remove
and reorder conditions of other types around it (`EditsOthers`), at any time.  They do not change
which conditions of its type there are, nor the order of these, and this is all that the active
condition depends on (`activeCondition_congr`).

A `History` is what a status has been told in turn, with edits of others in between.  The active
condition says what it has been told last (`says_of_history`), since the notice that began the
current run of notices with this status (`dated_of_history`).  `conditions_of_history` puts this
together.
-/

namespace Cordon.QuarantineStatus

variable {s t : QuarantineStatus} {c d : Condition} {l : List Condition}

/-! ## Putting the active condition -/

/-- A condition takes the place of the first active one, or it is put behind all others. -/
theorem putActive_cases (c : Condition) (l : List Condition) :
    (∃ before d behind, l = before ++ d :: behind ∧ before.find? isActiveCondition = none ∧
      isActiveCondition d = true ∧ putActive c l = before ++ c :: behind) ∨
    l.find? isActiveCondition = none ∧ putActive c l = l ++ [c] := by
  induction l with
  | nil => exact .inr ⟨rfl, rfl⟩
  | cons d rest ih =>
    unfold putActive
    by_cases hd : isActiveCondition d = true
    · exact .inl ⟨[], d, rest, rfl, rfl, hd, if_pos hd⟩
    · -- The first active condition of the rest is that of the whole list.
      rw [if_neg hd]
      obtain ⟨before, e, behind, rfl, hbefore, he, hput⟩ | ⟨hnone, hput⟩ := ih
      · exact .inl ⟨d :: before, e, behind, rfl, by simp [hd, hbefore], he, by simp [hput]⟩
      · exact .inr ⟨by simp [hd, hnone], by simp [hput]⟩

theorem find?_putActive (hc : isActiveCondition c = true) (l : List Condition) :
    (putActive c l).find? isActiveCondition = some c := by
  obtain ⟨before, d, behind, rfl, hbefore, hd, hput⟩ | ⟨hnone, hput⟩ := putActive_cases c l
  · rw [hput, List.find?_append, hbefore]
    simp [hc]
  · rw [hput, List.find?_append, hnone]
    simp [hc]

/-- The conditions other than the first active one are left as they are. -/
theorem eraseP_putActive (hc : isActiveCondition c = true) (l : List Condition) :
    (putActive c l).eraseP isActiveCondition = l.eraseP isActiveCondition := by
  obtain ⟨before, d, behind, rfl, hbefore, hd, hput⟩ | ⟨hnone, hput⟩ := putActive_cases c l
  · have hskip := List.find?_eq_none.1 hbefore
    rw [hput, List.eraseP_append_right _ hskip, List.eraseP_append_right _ hskip]
    simp [hc, hd]
  · have hskip := List.find?_eq_none.1 hnone
    rw [hput, List.eraseP_append_right _ hskip, List.eraseP_of_forall_not hskip]
    simp [hc]

theorem filter_putActive (hc : isActiveCondition c = true) (l : List Condition) :
    ((putActive c l).filter fun c => !isActiveCondition c) =
      l.filter fun c => !isActiveCondition c := by
  obtain ⟨before, d, behind, rfl, -, hd, hput⟩ | ⟨-, hput⟩ := putActive_cases c l
  · simp [hput, hc, hd]
  · simp [hput, hc]

theorem length_putActive (c : Condition) (l : List Condition) : (putActive c l).length =
    l.length + if (l.find? isActiveCondition).isSome then 0 else 1 := by
  obtain ⟨before, d, behind, rfl, -, hd, hput⟩ | ⟨hnone, hput⟩ := putActive_cases c l
  · simp [hput, hd]
  · simp [hput, hnone]

/-! ## Edits of other conditions -/

/-- Others insert, remove or reorder conditions of other types. -/
inductive EditsOthers : List Condition → List Condition → Prop
  | insert {c : Condition} (before behind : List Condition) (hc : isActiveCondition c = false) :
      EditsOthers (before ++ behind) (before ++ c :: behind)
  | remove {c : Condition} (before behind : List Condition) (hc : isActiveCondition c = false) :
      EditsOthers (before ++ c :: behind) (before ++ behind)
  | reorder {l l' : List Condition} (hperm : l.Perm l')
      (hkept : l'.filter isActiveCondition = l.filter isActiveCondition) : EditsOthers l l'

theorem EditsOthers.filter {l l' : List Condition} (h : EditsOthers l l') :
    l'.filter isActiveCondition = l.filter isActiveCondition := by
  cases h with
  | insert before behind hc => simp [hc]
  | remove before behind hc => simp [hc]
  | reorder hperm hkept => exact hkept

/-- The active condition depends on the conditions of its type. -/
theorem activeCondition_congr
    (h : t.conditions.filter isActiveCondition = s.conditions.filter isActiveCondition) :
    t.activeCondition = s.activeCondition := by
  rw [activeCondition, activeCondition, ← List.head?_filter, h, List.head?_filter]

theorem isActive_congr (h : t.activeCondition = s.activeCondition) : t.isActive = s.isActive := by
  rw [isActive, isActive, h]

theorem differsFrom_congr (h : t.activeCondition = s.activeCondition)
    (hobserved : t.observedNodes = s.observedNodes) {status : ConditionStatus} {message : String}
    {observed : List ObservedNode} :
    t.differsFrom status message observed = s.differsFrom status message observed := by
  rw [differsFrom, differsFrom, h, hobserved]

/-! ## Notices -/

/-- What a status is told: what its active condition is to say, and when it is told so. -/
structure Notice where
  status : ConditionStatus
  reason : String
  message : String
  now : String
deriving DecidableEq

/-- A status that has been told something. -/
def noted (s : QuarantineStatus) (n : Notice) : QuarantineStatus :=
  s.setActive n.status n.reason n.message n.now

variable {n m first : Notice} {notices : List Notice}

/-- A notice begins the current run: all behind it have its status, and the one before it, if there
is one, has another. -/
def BeginsRun (notices : List Notice) (first : Notice) : Prop :=
  ∃ before behind, notices = before ++ first :: behind ∧
    (∀ n ∈ behind, n.status = first.status) ∧
    ∀ n, before.getLast? = some n → n.status ≠ first.status

theorem BeginsRun.continued (h : BeginsRun notices first) (hstatus : n.status = first.status) :
    BeginsRun (notices ++ [n]) first := by
  obtain ⟨before, behind, rfl, hrun, hbreak⟩ := h
  refine ⟨before, behind ++ [n], by simp, fun m hm => ?_, hbreak⟩
  rcases List.mem_append.1 hm with hm | hm
  · exact hrun m hm
  · rwa [List.mem_singleton.1 hm]

theorem beginsRun_of_break (h : ∀ m, notices.getLast? = some m → m.status ≠ n.status) :
    BeginsRun (notices ++ [n]) n :=
  ⟨notices, [], rfl, by simp, h⟩

/-- A condition says what the last notice did. -/
structure Says (d : Condition) (n : Notice) : Prop where
  status : d.status = n.status
  reason : d.reason = n.reason
  message : d.message = n.message

/-- A notice gives the active condition, with a time of its own unless there was one with the same
status. -/
theorem activeCondition_noted (s : QuarantineStatus) (n : Notice) :
    ∃ d, (s.noted n).activeCondition = some d ∧ Says d n ∧
      ((∃ c, s.activeCondition = some c ∧ c.status = n.status ∧
          d.lastTransitionTime = c.lastTransitionTime) ∨
        (∀ c, s.activeCondition = some c → c.status ≠ n.status) ∧
          d.lastTransitionTime = some n.now) := by
  refine ⟨_, find?_putActive (by simp [isActiveCondition]) _, ⟨rfl, rfl, rfl⟩, ?_⟩
  cases hactive : s.activeCondition with
  | none => exact .inr ⟨by simp, by simp⟩
  | some c =>
    by_cases hstatus : c.status = n.status
    · exact .inl ⟨c, rfl, hstatus, by simp [hstatus]⟩
    · exact .inr ⟨by simpa using hstatus, by simp [hstatus]⟩

/-! ## Histories -/

/-- What a status becomes while it is told one notice after the other, and others edit the
conditions of other types and record nodes. -/
inductive History (s : QuarantineStatus) : List Notice → QuarantineStatus → Prop
  | start : History s [] s
  | noted {notices : List Notice} {t : QuarantineStatus} (h : History s notices t) (n : Notice) :
      History s (notices ++ [n]) (t.noted n)
  | edited {notices : List Notice} {t : QuarantineStatus} {l : List Condition}
      (h : History s notices t) (hedit : EditsOthers t.conditions l) :
      History s notices { t with conditions := l }
  | recorded {notices : List Notice} {t : QuarantineStatus} (h : History s notices t)
      (observed : List ObservedNode) : History s notices { t with observedNodes := observed }

theorem says_of_history (h : History s notices t) (hlast : notices.getLast? = some n) :
    ∃ d, t.activeCondition = some d ∧ Says d n := by
  induction h generalizing n with
  | start => cases hlast
  | @noted notices t h m ih =>
    obtain ⟨d, hd, hsays, -⟩ := activeCondition_noted t m
    rw [List.getLast?_concat] at hlast
    cases hlast
    exact ⟨d, hd, hsays⟩
  | @edited notices t l h hedit ih =>
    rw [activeCondition_congr (s := t) hedit.filter]
    exact ih hlast
  | recorded h observed ih => exact ih hlast

/-- A condition has the status and the time of the notice that began the current run. -/
def Dated (notices : List Notice) (d : Condition) : Prop :=
  ∃ first, BeginsRun notices first ∧ d.status = first.status ∧
    d.lastTransitionTime = some first.now

/-- Where there was no active condition at first, there is none that is not dated. -/
theorem dated_of_history (hs : s.activeCondition = none) (h : History s notices t)
    (hd : t.activeCondition = some d) : Dated notices d := by
  induction h generalizing d with
  | start => cases hs.symm.trans hd
  | @noted notices t h n ih =>
    obtain ⟨d', hd', hsays, hkept | hmoved⟩ := activeCondition_noted t n
    · -- The run goes on, and the time has been handed on since it began.
      obtain ⟨c, hc, hstatus, htime⟩ := hkept
      obtain ⟨first, hbegins, hfirst, hdate⟩ := ih hc
      cases hd'.symm.trans hd
      have hsame : n.status = first.status := hstatus.symm.trans hfirst
      exact ⟨first, hbegins.continued hsame, hsays.status.trans hsame, htime.trans hdate⟩
    · -- The condition says what the notice before did, so this one begins a run.
      obtain ⟨hbreak, htime⟩ := hmoved
      cases hd'.symm.trans hd
      refine ⟨n, beginsRun_of_break fun m hm => ?_, hsays.status, htime⟩
      obtain ⟨c, hc, hbefore⟩ := says_of_history h hm
      rw [← hbefore.status]
      exact hbreak c hc
  | @edited notices t l h hedit ih =>
    rw [activeCondition_congr (s := t) hedit.filter] at hd
    exact ih hd
  | recorded h observed ih => exact ih hd

/-- A notice puts one condition, in place of the active one or behind all others, and leaves the
rest in their order.  From then on, whatever others do to conditions of other types, the active
condition says what the last notice did, since the time at which the current run of notices with
this status began.  What others do changes neither whether the status is active nor whether it
differs from anything. -/
theorem conditions_of_history (h : History s notices t) :
    (∀ n, (t.noted n).conditions.eraseP isActiveCondition =
        t.conditions.eraseP isActiveCondition ∧
      (t.noted n).conditions.length =
        t.conditions.length + if t.activeCondition.isSome then 0 else 1) ∧
    (∀ last, notices.getLast? = some last → ∃ d, t.activeCondition = some d ∧
      d.status = last.status ∧ d.reason = last.reason ∧ d.message = last.message ∧
      (s.activeCondition = none →
        ∃ first, BeginsRun notices first ∧ d.lastTransitionTime = some first.now)) ∧
    ∀ l, EditsOthers t.conditions l →
      ({ t with conditions := l } : QuarantineStatus).isActive = t.isActive ∧
      ∀ status message observed,
        ({ t with conditions := l } : QuarantineStatus).differsFrom status message observed =
          t.differsFrom status message observed := by
  refine ⟨fun n => ⟨?_, length_putActive _ _⟩, fun last hlast => ?_, fun l hedit => ?_⟩
  · exact eraseP_putActive (by simp [isActiveCondition]) _
  · obtain ⟨d, hd, hstatus, hreason, hmessage⟩ := says_of_history h hlast
    refine ⟨d, hd, hstatus, hreason, hmessage, fun hs => ?_⟩
    obtain ⟨first, hbegins, -, htime⟩ := dated_of_history hs h hd
    exact ⟨first, hbegins, htime⟩
  · have hsame := activeCondition_congr (s := t) (t := { t with conditions := l }) hedit.filter
    exact ⟨isActive_congr hsame, fun _ _ _ => differsFrom_congr hsame rfl⟩

/-- Two steps fail in turn, a readiness condition comes and goes, and the second failure is told
twice. -/
theorem conditions_of_history_twice :
    let ready : Condition := ⟨"ready", .isTrue, "ok", "", none⟩
    let running : Notice := ⟨.isTrue, Convention.runningReason, Convention.runningMessage, "t1"⟩
    let failed : Notice := ⟨.isFalse, "start", "no node", "t2"⟩
    let again : Notice := ⟨.isFalse, "update", "no pod", "t3"⟩
    let active : Condition := ⟨Convention.activeCondition, .isFalse, "update", "no pod", some "t2"⟩
    History ⟨[ready], []⟩ [running, failed, again] ⟨[active], []⟩ ∧
      QuarantineStatus.activeCondition ⟨[ready], []⟩ = none ∧
      (∃ first, BeginsRun [running, failed, again] first ∧ some "t2" = some first.now) ∧
      EditsOthers [active] [active, ready] ∧
      QuarantineStatus.isActive ⟨[active, ready], []⟩ = false := by
  intro ready running failed again active
  have htold : History ⟨[ready], []⟩ [running, failed, again] ⟨[ready, active], []⟩ :=
    ((History.start.noted running).noted failed).noted again
  have hhistory : History ⟨[ready], []⟩ [running, failed, again] ⟨[active], []⟩ :=
    htold.edited (.remove [] [active] rfl)
  have hedit : EditsOthers [active] [active, ready] := .insert [active] [] (by decide)
  obtain ⟨-, hlast, hothers⟩ := conditions_of_history hhistory
  obtain ⟨d, hd, -, -, -, htime⟩ := hlast again rfl
  cases hd
  exact ⟨hhistory, rfl, htime rfl, hedit, (hothers _ hedit).1⟩

end Cordon.QuarantineStatus
