import Cordon.Proofs.Isolation.Outcome

/-! # Taking passes apart

A pass calls the cluster, may fail, and carries the lifecycle along, also when it fails.
`Pass.Runs` is a run of a pass to its end, from one lifecycle and scene to another.

There are three ways to argue about a pass.  A successful run is taken apart into successful runs
of its parts (`runs_bind`, `runs_step`).  What holds whatever the outcome is an invariant of
lifecycle and scene that every part keeps (`Pass.Keeps`).  And what a pass writes, up to any point
on its way, is bounded by a footprint (`Pass.StaysIn`), which here comes with a property of the
lifecycle that the pass keeps, since the nodes that a pass goes through are read off the lifecycle.
-/

namespace Cordon.Pass

open Lifecycle (step stepInTurn)

variable {others : ClusterState → ClusterState → Prop} {α β : Type}

/-- A pass runs to its end. -/
def Runs (others : ClusterState → ClusterState → Prop) (p : Pass α) (l : Lifecycle) (s : Scene)
    (r : Except ControllerError α) (l' : Lifecycle) (t : Scene) : Prop :=
  Executes others (p.run.run l) s (r, l') t

/-! ## What the parts of a pass run as -/

theorem run_bind (p : Pass α) (f : α → Pass β) (l : Lifecycle) :
    (p >>= f).run.run l = (p.run.run l).andThen fun r =>
      match r.1 with
      | .ok a => (f a).run.run r.2
      | .error e => .done (.error e, r.2) := by
  rw [ExceptT.run_bind, StateT.run_bind]
  refine congrArg _ (funext fun r => ?_)
  obtain ⟨r, l⟩ := r
  cases r with
  | ok a => rfl
  | error e => rfl

theorem run_lift (q : Program Effects α) (l : Lifecycle) :
    (liftM q : Pass α).run.run l = q.andThen fun a => .done (.ok a, l) := by
  change (q.andThen fun a => Program.done (a, l)).andThen
    (fun r => Program.done (Except.ok r.1, r.2)) = _
  rw [Program.andThen_assoc]
  rfl

theorem run_step (label node : String) (p : ExceptT IsolationError (Program Drain.Api) α)
    (l : Lifecycle) :
    (step label node p).run.run l = (Effects.within l.timeout p.run).andThen fun r =>
      match r with
      | some (.ok a) => .done (.ok a, l)
      | some (.error e) => .done (.error (.nodeStep label node e), l)
      | none => .done (.error (.nodeStepTimeout label node l.timeout), l) := by
  unfold step
  rw [run_bind]
  change (_ >>= _ : Pass α).run.run l = _
  rw [run_bind, run_lift, Program.andThen_assoc]
  refine congrArg _ (funext fun r => ?_)
  match r with
  | some (.ok a) => rfl
  | some (.error e) => rfl
  | none => rfl

/-! ## Successful runs -/

theorem runs_pure {a : α} {l l' : Lifecycle} {s t : Scene} {r : Except ControllerError α}
    (h : Runs others (pure a) l s r l' t) : r = .ok a ∧ l' = l ∧ t = s := by
  obtain ⟨hr, ht⟩ := h
  cases hr
  exact ⟨rfl, rfl, ht⟩

theorem runs_modify {f : Lifecycle → Lifecycle} {l l' : Lifecycle} {s t : Scene}
    {r : Except ControllerError Unit} (h : Runs others (modify f) l s r l' t) :
    r = .ok () ∧ l' = f l ∧ t = s := by
  obtain ⟨hr, ht⟩ := h
  cases hr
  exact ⟨rfl, rfl, ht⟩

/-- Two passes in turn: the first one fails, or it succeeds and the second one runs. -/
theorem runs_bind_iff {p : Pass α} {f : α → Pass β} {l l' : Lifecycle} {s t : Scene}
    {r : Except ControllerError β} :
    Runs others (p >>= f) l s r l' t ↔
      (∃ a k m, Runs others p l s (.ok a) k m ∧ Runs others (f a) k m r l' t) ∨
      ∃ e, r = .error e ∧ Runs others p l s (.error e) l' t := by
  unfold Runs
  rw [run_bind, executes_andThen]
  constructor
  · rintro ⟨⟨ra, k⟩, m, hp, hf⟩
    -- After a failure the second pass is skipped.
    cases ra with
    | ok a => exact .inl ⟨a, k, m, hp, hf⟩
    | error e =>
      obtain ⟨hr, rfl⟩ := hf
      cases hr
      exact .inr ⟨e, rfl, hp⟩
  · rintro (⟨a, k, m, hp, hf⟩ | ⟨e, rfl, hp⟩)
    · exact ⟨(.ok a, k), m, hp, hf⟩
    · exact ⟨(.error e, l'), t, hp, rfl, rfl⟩

/-- Two passes that succeed in turn. -/
theorem runs_bind {p : Pass α} {f : α → Pass β} {l l' : Lifecycle} {s t : Scene} {b : β}
    (h : Runs others (p >>= f) l s (.ok b) l' t) :
    ∃ a k m, Runs others p l s (.ok a) k m ∧ Runs others (f a) k m (.ok b) l' t := by
  rcases runs_bind_iff.1 h with h | ⟨e, he, -⟩
  · exact h
  · cases he

/-- What goes on from the lifecycle goes on from the lifecycle there is. -/
theorem runs_get {f : Lifecycle → Pass β} {l l' : Lifecycle} {s t : Scene}
    {r : Except ControllerError β} :
    Runs others (get >>= f) l s r l' t ↔ Runs others (f l) l s r l' t := Iff.rfl

/-- A step leaves the lifecycle alone.  If it succeeds then the cluster has done it; the removals
that it may have left behind are of no account. -/
theorem runs_step {label node : String} {p : ExceptT IsolationError (Program Drain.Api) α}
    {l l' : Lifecycle} {s t : Scene} {r : Except ControllerError α}
    (h : Runs others (step label node p) l s r l' t) :
    l' = l ∧ ∀ a, r = .ok a → ∃ m,
      Executes others (Effects.interruptible p.run) (s.withFlights []) (some (.ok a)) m ∧
      t = m.withFlights [] := by
  unfold Runs at h
  rw [run_step, executes_andThen] at h
  obtain ⟨o, m, hw, hr⟩ := h
  rw [within_eq] at hw
  obtain ⟨_, _, rfl, hw⟩ := hw
  obtain ⟨_, m', hp, _, _, rfl, rfl, rfl⟩ := executes_andThen.1 hw
  -- A step that is late or fails ends the pass, and leaves the lifecycle as it was.
  rcases o with _ | (e | a)
  · cases hr.1
    exact ⟨rfl, fun b hb => by cases hb⟩
  · cases hr.1
    exact ⟨rfl, fun b hb => by cases hb⟩
  · cases hr.1
    refine ⟨rfl, fun b hb => ?_⟩
    cases hb
    exact ⟨m', hp, hr.2⟩

/-- A step that makes one call after the other and succeeds. -/
theorem runs_stepInTurn {label node : String} {p : Clustered α} {l l' : Lifecycle} {s t : Scene}
    {a : α} (h : Runs others (stepInTurn label node p) l s (.ok a) l' t) :
    l' = l ∧ ∃ m, Clustered.Runs others p (s.withFlights []) (.ok a) m ∧ t = m.withFlights [] := by
  obtain ⟨hl, hok⟩ := runs_step h
  obtain ⟨m, hp, ht⟩ := hok a rfl
  exact ⟨hl, m, Clustered.executes_sequentially.1 hp, ht⟩

/-! ## What holds whatever the outcome -/

/-- A pass keeps an invariant of lifecycle and scene, however it ends. -/
def Keeps (others : ClusterState → ClusterState → Prop) (J : Lifecycle → Scene → Prop)
    (p : Pass α) : Prop :=
  ∀ l s r l' t, J l s → Runs others p l s r l' t → J l' t

section Keeps

variable {J : Lifecycle → Scene → Prop}

theorem keeps_pure (a : α) : Keeps others J (pure a : Pass α) := by
  intro l s r l' t hJ h
  obtain ⟨-, rfl, rfl⟩ := runs_pure h
  exact hJ

theorem keeps_bind {p : Pass α} {f : α → Pass β} (hp : Keeps others J p)
    (hf : ∀ a, Keeps others J (f a)) : Keeps others J (p >>= f) := by
  intro l s r l' t hJ h
  rcases runs_bind_iff.1 h with ⟨a, k, m, h₁, h₂⟩ | ⟨e, -, h₁⟩
  · exact hf a k m r l' t (hp l s _ k m hJ h₁) h₂
  · exact hp l s _ l' t hJ h₁

/-- What goes on from the lifecycle may count on the invariant. -/
theorem keeps_get {f : Lifecycle → Pass β}
    (hf : ∀ l s r l' t, J l s → Runs others (f l) l s r l' t → J l' t) :
    Keeps others J (get >>= f) := fun l s r l' t hJ h => hf l s r l' t hJ (runs_get.1 h)

theorem keeps_modify {g : Lifecycle → Lifecycle} (hg : ∀ l s, J l s → J (g l) s) :
    Keeps others J (modify g : Pass PUnit) := by
  intro l s r l' t hJ h
  obtain ⟨-, rfl, rfl⟩ := runs_modify h
  exact hg l t hJ

theorem keeps_forM {as : List α} {f : α → Pass Unit} (h : ∀ a ∈ as, Keeps others J (f a)) :
    Keeps others J (as.forM f) := by
  induction as with
  | nil => exact keeps_pure ()
  | cons a rest ih =>
    show Keeps others J (f a >>= fun _ => rest.forM f)
    exact keeps_bind (h a (by simp)) fun _ => ih fun b hb => h b (by simp [hb])

end Keeps

/-! ## What a pass writes -/

/-- A pass that writes within a footprint, from a lifecycle with a property that it keeps. -/
def StaysIn (P : Footprint) (J : Lifecycle → Prop) (p : Pass α) : Prop :=
  ∀ l, J l → (p.run.run l).Obeys P.effects fun r => J r.2

section StaysIn

variable {P Q : Footprint} {J : Lifecycle → Prop}

theorem StaysIn.mono {p : Pass α} (h : StaysIn P J p) (hPQ : ∀ m b, P m b → Q m b) :
    StaysIn Q J p := by
  intro l hJ
  refine (h l hJ).weaken ?_ fun _ _ ha => ha
  intro r hr
  cases r with
  | cluster r =>
    cases r with
    | call c => exact fun m b hw => hPQ m b (hr m b hw)
    | launch removal | await n => exact trivial
  | store c => exact hr
  | arm limit | disarm | now => exact trivial

theorem staysIn_pure (a : α) : StaysIn P J (pure a : Pass α) := fun _ hJ => hJ

theorem staysIn_bind {p : Pass α} {f : α → Pass β} (hp : StaysIn P J p)
    (hf : ∀ a, StaysIn P J (f a)) : StaysIn P J (p >>= f) := by
  intro l hJ
  rw [run_bind]
  refine (hp l hJ).andThen fun r hr => ?_
  obtain ⟨r, k⟩ := r
  cases r with
  | ok a => exact hf a k hr
  | error e => exact hr

theorem staysIn_get {f : Lifecycle → Pass β} (hf : ∀ l, J l → StaysIn P J (f l)) :
    StaysIn P J (get >>= f) := fun l hJ => hf l hJ l hJ

theorem staysIn_modify {g : Lifecycle → Lifecycle} (hg : ∀ l, J l → J (g l)) :
    StaysIn P J (modify g : Pass PUnit) := fun l hJ => hg l hJ

theorem staysIn_forM {as : List α} {f : α → Pass Unit} (h : ∀ a ∈ as, StaysIn P J (f a)) :
    StaysIn P J (as.forM f) := by
  induction as with
  | nil => exact staysIn_pure ()
  | cons a rest ih =>
    show StaysIn P J (f a >>= fun _ => rest.forM f)
    exact staysIn_bind (h a (by simp)) fun _ => ih fun b hb => h b (by simp [hb])

theorem staysIn_step {label node : String} {p : ExceptT IsolationError (Program Drain.Api) α}
    (h : p.run.Obeys P.drains fun _ => True) : StaysIn P J (step label node p) := by
  intro l hJ
  rw [run_step]
  refine (h.within l.timeout).andThen fun r _ => ?_
  match r with
  | some (.ok a) => exact hJ
  | some (.error e) => exact hJ
  | none => exact hJ

theorem staysIn_stepInTurn {label node : String} {p : Clustered α} (h : Clustered.StaysIn P p) :
    StaysIn P J (stepInTurn label node p) :=
  staysIn_step ((Program.Obeys.sequentially h).mono fun _ _ => trivial)

end StaysIn

/-! Readings before and after a pass. -/

section Reading

variable {m : Mark} {R : Scene → Bool} {P : Footprint} {J : Lifecycle → Prop} {p : Pass α}
  {l l' : Lifecycle} {s t : Scene} {r : Except ControllerError α}

theorem kept_of_runs (hp : StaysIn P J p) (hl : J l) (h : Runs others p l s r l' t) : J l' :=
  h.obeys (hp l hl)

theorem gained_of_runs (hR : Reading others m R) (hp : StaysIn P J p) (hl : J l)
    (h : Runs others p l s r l' t) (ht : R t = true) : R s = true ∨ P m true :=
  hR.of_visits (hp l hl) h.visits ht

/-- A mark that is clear stays clear if the pass does not set it. -/
theorem clear_of_runs (hR : Reading others m R) (hp : StaysIn P J p) (hP : ¬ P m true) (hl : J l)
    (h : Runs others p l s r l' t) (hs : R s = false) : R t = false := by
  cases ht : R t with
  | false => rfl
  | true =>
    rcases gained_of_runs hR hp hl h ht with hs' | hm
    · rw [hs] at hs'
      cases hs'
    · exact absurd hm hP

theorem lost_of_runs (hR : Steady others m R) (hp : StaysIn P J p) (hl : J l)
    (h : Runs others p l s r l' t) (hs : R s = true) : R t = true ∨ P m false :=
  hR.of_visits (hp l hl) h.visits hs

theorem eq_of_runs (hR : Steady others m R) (hp : StaysIn P J p) (hP : ∀ b, ¬ P m b) (hl : J l)
    (h : Runs others p l s r l' t) : R t = R s :=
  hR.eq_of_visits (hp l hl) hP h.visits

/-- What a computation clears, its step clears. -/
theorem cleared_of_stepInTurn {label node : String} {q : Clustered α} {a : α}
    (hR : Reading others m R) (hq : ∀ s t, Clustered.Runs others q s (.ok a) t → R t = false)
    (h : Runs others (stepInTurn label node q) l s (.ok a) l' t) : R t = false := by
  obtain ⟨-, d, hd, rfl⟩ := runs_stepInTurn h
  rw [hR.withFlights]
  exact hq _ d hd

end Reading

end Cordon.Pass
