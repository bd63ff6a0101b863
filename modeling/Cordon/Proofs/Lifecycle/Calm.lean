import Cordon.Cluster.Faults
import Cordon.Proofs.Isolation.Evaluation
import Cordon.Proofs.Lifecycle.Conduct

/-! # Passes over a world without faults

In a world without faults no call is late and no call fails but for want of an object.
`Pass.Does` says that a pass returns there, with what it makes of the lifecycle and of the cluster.
A step that calls the cluster in turn does what its calls come to (`does_step`), and passes are put
together from their steps (`does_bind`, `does_forM`).
-/

namespace Cordon

variable {α β : Type}

namespace World

/-- The world has no faults, this cluster and this store. -/
structure Calm (w : World) (s : ClusterState) (shelf : Shelf) : Prop where
  faults : w.faults = []
  cluster : w.cluster = s
  shelf : w.shelf = shelf

variable {w : World} {s : ClusterState} {shelf : Shelf}

theorem answerInTime_call (hw : w.Calm s shelf) (htime : ∀ d, w.deadline = some d → w.clock ≤ d)
    (c : ClusterCall) : ∃ w', w.answerInTime (.call c) = (some (s.perform c).1, w') ∧
      w'.Calm (s.perform c).2 shelf ∧ w'.clock = w.clock ∧ w'.deadline = w.deadline := by
  obtain ⟨hfaults, rfl, rfl⟩ := hw
  have hstart : w.start (.cluster c) =
      (⟨w.clock, none⟩, { w with log := w.log ++ [.cluster c] }) := by
    simp [start, hfaults, Fault.take]
  have hlate : isLate { w with log := w.log ++ [.cluster c] } ⟨w.clock, none⟩ = false := by
    unfold isLate
    cases hd : w.deadline with
    | none => rfl
    | some d =>
      have hle := htime d hd
      simp only [decide_eq_false_iff_not]
      omega
  refine ⟨{ w with cluster := (w.cluster.perform c).2, log := w.log ++ [.cluster c] }, ?_,
    ⟨hfaults, rfl, rfl⟩, rfl, rfl⟩
  simp [answerInTime, hstart, hlate, finish]

theorem runEffects_interruptible {q : Program ClusterApi α} (hw : w.Calm s shelf)
    (htime : ∀ d, w.deadline = some d → w.clock ≤ d) :
    ∃ w', w.runEffects (Effects.interruptible (q.interpret fun c =>
        Program.query (I := Drain.Api) (.call c))) =
      (some (q.run (fun c s => s.perform c) s).1, w') ∧
      w'.Calm (q.run (fun c s => s.perform c) s).2 shelf := by
  induction q generalizing w s with
  | done a => exact ⟨w, rfl, hw⟩
  | ask c resume ih =>
    obtain ⟨m, hcall, hm, hclock, hdeadline⟩ := answerInTime_call hw htime c
    obtain ⟨w', hrun, hw'⟩ := ih (s.perform c).1 hm fun d hd => by
      rw [hclock]
      exact htime d (hdeadline ▸ hd)
    refine ⟨w', ?_, hw'⟩
    unfold runEffects
    simp only [Program.interpret, Program.query, Program.ask_andThen, Program.done_andThen,
      Effects.interruptible, Program.run_ask, answerEffect, hcall]
    exact hrun

/-- A step that calls the cluster in turn comes to what its calls come to. -/
theorem runEffects_within {p : Clustered α} (limit : Nat) (hw : w.Calm s shelf) :
    ∃ w', w.runEffects (Effects.within limit (Drain.sequentially p).run) =
      (some (p.eval s).1, w') ∧ w'.Calm (p.eval s).2 shelf := by
  obtain ⟨hfaults, hcluster, hshelf⟩ := hw
  have harmed : Calm { w with deadline := some (w.clock + limit), flights := [] } s shelf :=
    ⟨hfaults, hcluster, hshelf⟩
  obtain ⟨m, hrun, hm⟩ := runEffects_interruptible (q := p.run) harmed fun d hd => by
    cases hd
    exact Nat.le_add_right _ _
  refine ⟨{ m with deadline := none, flights := [] }, ?_, hm.faults, hm.cluster, hm.shelf⟩
  show Program.run (fun r w => w.answerEffect r) ((Effects.interruptible _).andThen _)
    { w with deadline := some (w.clock + limit), flights := [] } = _
  have hrun' : Program.run (fun r w => w.answerEffect r) (Effects.interruptible
      (Drain.sequentially p).run) { w with deadline := some (w.clock + limit), flights := [] } =
      (some (p.eval s).1, m) := hrun
  rw [Program.run_bind, hrun']
  rfl

end World

namespace Pass

open Lifecycle (stepInTurn)

variable {p : Pass α} {f : α → Pass β} {l k l' : Lifecycle} {s m t : ClusterState} {a : α} {b : β}

/-- In a world without faults, a pass returns and does this to the lifecycle and the cluster. -/
def Does (p : Pass α) (l : Lifecycle) (s : ClusterState) (a : α) (l' : Lifecycle)
    (t : ClusterState) : Prop :=
  ∀ w shelf, World.Calm w s shelf →
    ∃ w', w.runEffects (p.run.run l) = ((.ok a, l'), w') ∧ w'.Calm t shelf

theorem does_pure (a : α) : (pure a : Pass α).Does l s a l s := fun w _ hw => ⟨w, rfl, hw⟩

theorem does_modify (g : Lifecycle → Lifecycle) :
    (modify g : Pass PUnit).Does l s ⟨⟩ (g l) s := fun w _ hw => ⟨w, rfl, hw⟩

theorem does_bind (hp : p.Does l s a k m) (hf : (f a).Does k m b l' t) :
    (p >>= f).Does l s b l' t := by
  intro w shelf hw
  obtain ⟨d, hrun, hd⟩ := hp w shelf hw
  obtain ⟨w', hrun', hw'⟩ := hf d shelf hd
  refine ⟨w', ?_, hw'⟩
  unfold World.runEffects at hrun hrun' ⊢
  rw [run_bind, Program.run_bind, hrun]
  exact hrun'

theorem does_get {f : Lifecycle → Pass β} (hf : (f l).Does l s b l' t) :
    (get >>= f).Does l s b l' t := hf

theorem does_step {label node : String} {q : Clustered α} (hq : q.eval s = (.ok a, t)) :
    (stepInTurn label node q).Does l s a l t := by
  intro w shelf hw
  obtain ⟨w', hrun, hw'⟩ := World.runEffects_within (p := q) l.timeout hw
  rw [hq] at hrun hw'
  refine ⟨w', ?_, hw'⟩
  unfold World.runEffects at hrun ⊢
  unfold stepInTurn
  rw [run_step, Program.run_bind, hrun]
  rfl

theorem does_forM {as : List α} {f : α → Pass Unit} {g : Lifecycle → α → Lifecycle}
    {d : ClusterState → α → ClusterState} (hf : ∀ a l s, (f a).Does l s () (g l a) (d s a)) :
    (as.forM f).Does l s () (as.foldl g l) (as.foldl d s) := by
  induction as generalizing l s with
  | nil => exact does_pure ()
  | cons a rest ih =>
    show (f a >>= fun _ => rest.forM f).Does l s () _ _
    exact does_bind (hf a l s) ih

theorem does_advance {next : Phase} (hallows : l.phase.allows next = true) :
    (Lifecycle.advance next).Does l s () { l with phase := next } s := by
  intro w shelf hw
  have hmove : l.phase.transition next = .ok next := by
    rw [Phase.transition, Phase.move, if_pos hallows]
  refine ⟨w, ?_, hw⟩
  unfold World.runEffects
  rw [Lifecycle.run_advance, hmove]
  rfl

end Pass

end Cordon
