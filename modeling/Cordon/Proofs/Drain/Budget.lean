import Cordon.Drain.Eviction
import Cordon.Proofs.Run.Dialogue
import Mathlib.Algebra.BigOperators.Fin
import Mathlib.Data.Fintype.Basic
import Mathlib.Logic.Relation

/-! # Evictions side by side under one budget

Any number of evictions may be under way with one evictor.  Each of them takes a place, or is turned
away, and settles its place when the cluster has answered; between these two moments any others may
do the same.  `Evictions.Moves` is one such moment.  Each eviction is one of `evict`: it asks and
returns what `evict` does with the evictor that there was when it began (`exists_began`), and where
nobody comes between it leaves the evictor as `evict` does (`evict_alone`).

The evictor keeps one number for two things: the places that are taken, and the pods that are gone.
`Evictions.Balanced` says how the two go together.  It holds at the start and every move keeps it
(`Balanced.moves`), so it holds all along, and from it follows what `budget_kept` says of every
moment and of the end.
-/

namespace Cordon.Drain

open Kube (Pod)

/-! ## Places -/

namespace Evictor

/-- An eviction starts if its pod is admitted and a place is free, and takes that place. -/
theorem start_eq_some {e e' : Evictor} {p : Pod} :
    e.start p = some e' ↔
      e.admits p ∧ e.evicted < e.policy.budget ∧ e' = ⟨e.policy, e.evicted + 1⟩ := by
  simp only [start, reserve, Option.ite_none_right_eq_some, Option.some.injEq, eq_comm (a := e')]

@[simp] theorem settle_policy (e : Evictor) (succeeded : Bool) :
    (e.settle succeeded).policy = e.policy := by
  cases succeeded <;> rfl

theorem evicted_settle_le (e : Evictor) (succeeded : Bool) :
    (e.settle succeeded).evicted ≤ e.evicted := by
  cases succeeded with
  | false => exact Nat.sub_le ..
  | true => exact Nat.le_refl _

theorem admits_congr {e e' : Evictor} (h : e.policy = e'.policy) (p : Pod) :
    e.admits p = e'.admits p := by
  rw [admits, admits, h]

end Evictor

/-! ## Stages -/

/-- How far an eviction has come. -/
inductive Stage where
  | called
  /-- It has a place, and the cluster has been asked. -/
  | waiting
  /-- It is over, and the cluster was not asked. -/
  | turnedAway
  | answered (answer : Except IsolationError Bool)
deriving DecidableEq

namespace Stage

/-- What an eviction has returned, once it is over. -/
def result : Stage → Option (Except IsolationError Bool)
  | called | waiting => none
  | turnedAway => some (.ok false)
  | answered answer => some answer

/-- Whether the cluster has been asked. -/
def hasAsked : Stage → Bool
  | called | turnedAway => false
  | waiting | answered _ => true

/-- Whether the cluster has been asked and has not answered yet. -/
def isWaiting : Stage → Bool
  | waiting => true
  | called | turnedAway | answered _ => false

/-- Whether the pod is gone. -/
def hasEvicted : Stage → Bool
  | answered (.ok true) => true
  | called | waiting | turnedAway | answered (.ok false) | answered (.error _) => false

/-- Whether one of the places is taken by it. -/
def holdsPlace (s : Stage) : Bool := s.isWaiting || s.hasEvicted

theorem hasEvicted_iff {s : Stage} : s.hasEvicted ↔ s.result = some (.ok true) := by
  rcases s with _ | _ | _ | (_ | _ | _) <;> simp [hasEvicted, result]

theorem toNat_holdsPlace (s : Stage) :
    s.holdsPlace.toNat = s.isWaiting.toNat + s.hasEvicted.toNat := by
  cases s <;> simp [holdsPlace, isWaiting, hasEvicted]

end Stage

/-- Evictions of some pods with one evictor. -/
structure Evictions (ι : Type) where
  evictor : Evictor
  pods : ι → Pod
  stages : ι → Stage

namespace Evictions

variable {ι : Type}

/-- All evictions are called for, and none has begun. -/
def start (policy : Policy) (pods : ι → Pod) : Evictions ι := ⟨.new policy, pods, fun _ => .called⟩

section Counting

variable [Fintype ι]

/-- The number of evictions at some of the stages. -/
def number (s : Evictions ι) (p : Stage → Bool) : Nat :=
  (Finset.univ.filter fun i => p (s.stages i)).card

theorem number_eq_sum (s : Evictions ι) (p : Stage → Bool) :
    s.number p = ∑ i, (p (s.stages i)).toNat := by
  rw [number, Finset.card_filter]
  exact Finset.sum_congr rfl fun i _ => by cases p (s.stages i) <;> rfl

theorem number_holdsPlace (s : Evictions ι) :
    s.number Stage.holdsPlace = s.number Stage.isWaiting + s.number Stage.hasEvicted := by
  rw [number_eq_sum, number_eq_sum, number_eq_sum, ← Finset.sum_add_distrib]
  exact Finset.sum_congr rfl fun i _ => Stage.toNat_holdsPlace _

theorem number_pos {s : Evictions ι} {p : Stage → Bool} {i : ι} (h : p (s.stages i)) :
    0 < s.number p :=
  Finset.card_pos.2 ⟨i, Finset.mem_filter.2 ⟨Finset.mem_univ i, h⟩⟩

theorem number_eq_zero {s : Evictions ι} {p : Stage → Bool} (h : ∀ i, p (s.stages i) = false) :
    s.number p = 0 :=
  Finset.card_eq_zero.2 (Finset.filter_false_of_mem fun i _ => by simp [h i])

end Counting

/-! ## Moves -/

variable [DecidableEq ι]

/-- One of the evictions is at another stage, and the evictor has changed with it. -/
def put (s : Evictions ι) (e : Evictor) (i : ι) (stage : Stage) : Evictions ι :=
  ⟨e, s.pods, Function.update s.stages i stage⟩

/-- One eviction takes a place and asks the cluster, or is turned away, or is answered. -/
inductive Moves (s : Evictions ι) (i : ι) : Evictions ι → Prop
  | reserve {e : Evictor} (hcalled : s.stages i = .called)
      (hstart : s.evictor.start (s.pods i) = some e) : Moves s i (s.put e i .waiting)
  | turnAway (hcalled : s.stages i = .called) (hstart : s.evictor.start (s.pods i) = none) :
      Moves s i (s.put s.evictor i .turnedAway)
  | hear (answer : Except IsolationError Bool) (hwaiting : s.stages i = .waiting) :
      Moves s i (s.put (s.evictor.settle (answer matches .ok true)) i (.answered answer))

/-- Moves of any evictions, in any order. -/
def Leads : Evictions ι → Evictions ι → Prop := Relation.ReflTransGen fun s t => ∃ i, Moves s i t

theorem stages_put (s : Evictions ι) (e : Evictor) (i : ι) (stage : Stage) :
    (s.put e i stage).stages i = stage := Function.update_self ..

theorem stages_put_of_ne (s : Evictions ι) (e : Evictor) {i k : ι} (stage : Stage) (h : k ≠ i) :
    (s.put e i stage).stages k = s.stages k := Function.update_of_ne h ..

theorem put_put (s : Evictions ι) (e e' : Evictor) (i : ι) (stage stage' : Stage) :
    (s.put e i stage).put e' i stage' = s.put e' i stage' := by
  rw [put, put, put, Function.update_idem]

theorem Moves.stages_of_ne {s t : Evictions ι} {i k : ι} (h : Moves s k t) (hne : i ≠ k) :
    t.stages i = s.stages i := by
  cases h <;> exact stages_put_of_ne s _ _ hne

/-- No eviction is stuck before it is over. -/
theorem exists_moves {s : Evictions ι} {i : ι} (h : (s.stages i).result = none) :
    ∃ t, s.Moves i t := by
  cases hstage : s.stages i with
  | called =>
    cases hstart : s.evictor.start (s.pods i) with
    | none => exact ⟨_, .turnAway hstage hstart⟩
    | some e => exact ⟨_, .reserve hstage hstart⟩
  | waiting => exact ⟨_, .hear (.ok true) hstage⟩
  | turnedAway | answered answer => rw [hstage] at h; cases h

/-! ## What an eviction does -/

/-- An eviction by itself: it is turned away, or it takes a place, asks once, and settles. -/
theorem speaks_evict {e e' : Evictor} {p : Pod} {h : Dialogue ClusterApi}
    {answer : Except IsolationError Bool} :
    (evict e p).Speaks h (answer, e') ↔
      (e.start p = none ∧ h = [] ∧ answer = .ok false ∧ e' = e) ∨
      ∃ m, e.start p = some m ∧ h = [⟨.evictPod p e.policy.dryRun, answer⟩] ∧
        e' = m.settle (answer matches .ok true) := by
  unfold evict
  cases hstart : e.start p with
  | none => simp [Program.Speaks]
  | some m =>
    have hpolicy : m.policy = e.policy := by rw [(Evictor.start_eq_some.1 hstart).2.2]
    rw [← hpolicy]
    constructor
    · rintro ⟨_, _, rfl, rfl, hend⟩
      obtain ⟨rfl, rfl⟩ := Prod.mk.inj hend
      refine .inr ⟨m, rfl, rfl, ?_⟩
      -- The two tests for success agree answer by answer.
      rcases answer with _ | _ | _ <;> rfl
    · rintro (⟨hnone, -⟩ | ⟨_, hsome, rfl, rfl⟩)
      · cases hnone
      · cases hsome
        refine ⟨answer, [], rfl, rfl, ?_⟩
        rcases answer with _ | _ | _ <;> rfl

/-- How far `evict` has come at a stage, for a pod and the evictor that there was when it began: it
is over and has asked nothing, or it has asked for the pod to be evicted, whatever the answer, or it
has returned the answer. -/
inductive Enacts (e : Evictor) (p : Pod) : Stage → Prop
  | turnedAway (h : (evict e p).Speaks [] (.ok false, e)) : Enacts e p .turnedAway
  | waiting (h : ∀ answer, ∃ e',
      (evict e p).Speaks [⟨.evictPod p e.policy.dryRun, answer⟩] (answer, e')) : Enacts e p .waiting
  | answered {answer : Except IsolationError Bool} {e' : Evictor}
      (h : (evict e p).Speaks [⟨.evictPod p e.policy.dryRun, answer⟩] (answer, e')) :
      Enacts e p (.answered answer)

section Enacts

variable {e e' : Evictor} {p : Pod}

theorem enacts_turnedAway (h : e.start p = none) : Enacts e p .turnedAway :=
  .turnedAway (speaks_evict.2 (.inl ⟨h, rfl, rfl, rfl⟩))

theorem enacts_waiting (h : e.start p = some e') : Enacts e p .waiting :=
  .waiting fun _ => ⟨_, speaks_evict.2 (.inr ⟨e', h, rfl, rfl⟩)⟩

theorem Enacts.hear (h : Enacts e p .waiting) (answer : Except IsolationError Bool) :
    Enacts e p (.answered answer) := by
  cases h with
  | waiting hasks =>
    obtain ⟨e', hspeaks⟩ := hasks answer
    exact .answered hspeaks

end Enacts

/-- On the way from `s` to `t` an eviction began in `m`. -/
structure Began (s t : Evictions ι) (i : ι) (m : Evictions ι) : Prop where
  before : s.Leads m
  after : m.Leads t
  called : m.stages i = .called

/-- An eviction that has begun does what `evict` does, whatever others do in between. -/
theorem exists_began {s t : Evictions ι} {i : ι} (hs : s.stages i = .called) (h : s.Leads t)
    (ht : t.stages i ≠ .called) :
    ∃ m, Began s t i m ∧ Enacts m.evictor (m.pods i) (t.stages i) := by
  induction h with
  | refl => exact absurd hs ht
  | @tail b c hlead hmove ih =>
    obtain ⟨k, hm⟩ := hmove
    by_cases hki : i = k
    · subst hki
      cases hm with
      | reserve hcalled hstart =>
        rw [stages_put]
        exact ⟨b, ⟨hlead, .single ⟨i, .reserve hcalled hstart⟩, hcalled⟩, enacts_waiting hstart⟩
      | turnAway hcalled hstart =>
        rw [stages_put]
        exact ⟨b, ⟨hlead, .single ⟨i, .turnAway hcalled hstart⟩, hcalled⟩,
          enacts_turnedAway hstart⟩
      | hear answer hwaiting =>
        -- The question was asked before, and the answer may have been any.
        obtain ⟨m, hbegan, henacts⟩ := ih (by rw [hwaiting]; nofun)
        rw [hwaiting] at henacts
        rw [stages_put]
        exact ⟨m, { hbegan with after := hbegan.after.tail ⟨i, .hear answer hwaiting⟩ },
          henacts.hear answer⟩
    · rw [hm.stages_of_ne hki] at ht ⊢
      obtain ⟨m, hbegan, henacts⟩ := ih ht
      exact ⟨m, { hbegan with after := hbegan.after.tail ⟨k, hm⟩ }, henacts⟩

/-- An eviction that nobody comes between does what `evict` does: the same calls, the same answer,
and the same evictor afterwards. -/
theorem evict_alone {s : Evictions ι} {i : ι} {h : Dialogue ClusterApi} {e : Evictor}
    {answer : Except IsolationError Bool} (hcalled : s.stages i = .called)
    (hs : (evict s.evictor (s.pods i)).Speaks h (answer, e)) :
    ∃ stage, stage.result = some answer ∧ Leads s (s.put e i stage) ∧
      ((stage.hasAsked = false ∧ h = []) ∨ stage.hasAsked = true ∧
        h = [⟨.evictPod (s.pods i) s.evictor.policy.dryRun, answer⟩]) := by
  rcases speaks_evict.1 hs with ⟨hstart, rfl, rfl, rfl⟩ | ⟨m, hstart, rfl, rfl⟩
  · exact ⟨.turnedAway, rfl, .single ⟨i, .turnAway hcalled hstart⟩, .inl ⟨rfl, rfl⟩⟩
  · have hheard := Moves.hear answer (stages_put s m i .waiting)
    -- The second move writes over the stage that the first one has left.
    rw [put_put] at hheard
    exact ⟨.answered answer, rfl, .tail (.single ⟨i, .reserve hcalled hstart⟩) ⟨i, hheard⟩,
      .inr ⟨rfl, rfl⟩⟩

/-! ## The balance -/

section Balanced

variable [Fintype ι]

/-- Of the evictions one is counted anew. -/
theorem number_put (s : Evictions ι) (p : Stage → Bool) (e : Evictor) (i : ι) (stage : Stage) :
    (s.put e i stage).number p + (p (s.stages i)).toNat = s.number p + (p stage).toNat := by
  have hothers : ∀ k ∈ Finset.univ.erase i,
      (p ((s.put e i stage).stages k)).toNat = (p (s.stages k)).toNat := by
    intro k hk
    rw [stages_put_of_ne s e stage (Finset.ne_of_mem_erase hk)]
  have hi := Finset.mem_univ i
  rw [number_eq_sum, number_eq_sum, ← Finset.sum_erase_add _ _ hi, ← Finset.sum_erase_add _ _ hi,
    Finset.sum_congr rfl hothers, stages_put]
  omega

/-- What holds of the evictions all the time. -/
structure Balanced (policy : Policy) (pods : ι → Pod) (s : Evictions ι) : Prop where
  samePolicy : s.evictor.policy = policy
  samePods : s.pods = pods
  counted : s.evictor.evicted = s.number Stage.holdsPlace
  bounded : s.evictor.evicted ≤ policy.budget
  admitted : ∀ i, (s.stages i).hasAsked → (Evictor.new policy).admits (pods i)

variable {policy : Policy} {pods : ι → Pod} {s t : Evictions ι} {i : ι}

omit [DecidableEq ι] in
theorem balanced_start : (start policy pods).Balanced policy pods where
  samePolicy := rfl
  samePods := rfl
  counted := (number_eq_zero fun _ => by rfl).symm
  bounded := Nat.zero_le _
  admitted _ h := nomatch h

/-- Whose turn it is may change its stage if the counter changes with it. -/
theorem Balanced.put (h : s.Balanced policy pods) {e : Evictor} {stage : Stage}
    (hpolicy : e.policy = s.evictor.policy) (hbounded : e.evicted ≤ policy.budget)
    (hcounted : e.evicted + (s.stages i).holdsPlace.toNat =
      s.evictor.evicted + stage.holdsPlace.toNat)
    (hadmitted : stage.hasAsked → (Evictor.new policy).admits (pods i)) :
    (s.put e i stage).Balanced policy pods := by
  refine ⟨hpolicy.trans h.samePolicy, h.samePods, ?_, hbounded, fun k hk => ?_⟩
  · have hput := number_put s Stage.holdsPlace e i stage
    rw [← h.counted] at hput
    exact Nat.add_right_cancel (hcounted.trans hput.symm)
  · by_cases hki : k = i
    · subst hki
      rw [stages_put] at hk
      exact hadmitted hk
    · rw [stages_put_of_ne s e stage hki] at hk
      exact h.admitted k hk

omit [DecidableEq ι] in
/-- The place of an eviction that waits is among those that are counted. -/
theorem Balanced.pos_of_waiting (h : s.Balanced policy pods) (hi : s.stages i = .waiting) :
    0 < s.evictor.evicted := by
  rw [h.counted]
  exact number_pos (i := i) (by rw [hi]; rfl)

omit [DecidableEq ι] in
/-- An eviction takes a place if there is one, and only for a pod that is admitted. -/
theorem Balanced.reserve (h : s.Balanced policy pods) {e : Evictor}
    (hstart : s.evictor.start (s.pods i) = some e) :
    (Evictor.new policy).admits (pods i) ∧ s.evictor.evicted < policy.budget ∧
      e = ⟨policy, s.evictor.evicted + 1⟩ := by
  have hstart := Evictor.start_eq_some.1 hstart
  have hpolicy : s.evictor.policy = (Evictor.new policy).policy := h.samePolicy
  rw [h.samePods, h.samePolicy, Evictor.admits_congr hpolicy] at hstart
  exact hstart

theorem Balanced.moves (h : s.Balanced policy pods) (hm : s.Moves i t) :
    t.Balanced policy pods := by
  cases hm with
  | reserve hcalled hstart =>
    obtain ⟨hadmits, hfree, rfl⟩ := h.reserve hstart
    refine h.put h.samePolicy.symm hfree ?_ fun _ => hadmits
    rw [hcalled]
    rfl
  | turnAway hcalled hstart =>
    refine h.put rfl h.bounded ?_ nofun
    rw [hcalled]
    rfl
  | hear answer hwaiting =>
    have hpos := h.pos_of_waiting hwaiting
    have hadmits := h.admitted i (by rw [hwaiting]; rfl)
    refine h.put (Evictor.settle_policy ..) ?_ ?_ fun _ => hadmits
    · exact (Evictor.evicted_settle_le ..).trans h.bounded
    · rw [hwaiting]
      -- Of the three answers only one keeps the place; it is given back with the other two.
      cases answer with
      | error err => exact Nat.sub_add_cancel hpos
      | ok granted =>
        cases granted with
        | false => exact Nat.sub_add_cancel hpos
        | true => rfl

theorem Balanced.leads (h : s.Balanced policy pods) (hl : s.Leads t) : t.Balanced policy pods := by
  induction hl with
  | refl => exact h
  | tail _ hmove ih =>
    obtain ⟨i, hm⟩ := hmove
    exact ih.moves hm

/-- However evictions follow one another and whatever the cluster answers: the number of places in
use is that of the evictions that wait for the cluster and of those that were granted; it is within
the budget, and above zero when a place is given back.  The cluster is asked for admitted pods only,
by an eviction that has just taken a free place.  No eviction is stuck, and when all are over the
number is that of the evictions that have returned that the pod is gone.

Each eviction is one of `evict`: what it has asked and returned is what `evict` asks and returns with
the evictor that there was when it began, and all that `evict` may do with the evictor that there is
now are moves of one that has not begun. -/
theorem budget_kept (h : (start policy pods).Leads s) :
    s.evictor.evicted = s.number Stage.isWaiting + s.number Stage.hasEvicted ∧
    s.evictor.evicted ≤ policy.budget ∧
    (∀ i, s.stages i = .waiting → 0 < s.evictor.evicted) ∧
    (∀ i, (s.stages i).hasAsked → (Evictor.new policy).admits (pods i)) ∧
    (∀ i t, s.Moves i t → (s.stages i).hasAsked = false → (t.stages i).hasAsked →
      s.evictor.evicted < policy.budget ∧ t.evictor.evicted = s.evictor.evicted + 1) ∧
    (∀ i, (s.stages i).result = none → ∃ t, s.Moves i t) ∧
    ((∀ i, (s.stages i).result.isSome) →
      s.evictor.evicted = s.number fun stage => stage.result = some (.ok true)) ∧
    (∀ i, s.stages i ≠ .called → ∃ m, Began (start policy pods) s i m ∧
      Enacts m.evictor (pods i) (s.stages i)) ∧
    (∀ i h answer e, s.stages i = .called → (evict s.evictor (pods i)).Speaks h (answer, e) →
      ∃ stage, stage.result = some answer ∧ s.Leads (s.put e i stage) ∧
        ((stage.hasAsked = false ∧ h = []) ∨ stage.hasAsked = true ∧
          h = [⟨.evictPod (pods i) policy.dryRun, answer⟩])) := by
  have hs := balanced_start.leads h
  have hcounted := hs.counted.trans (number_holdsPlace s)
  refine ⟨hcounted, hs.bounded, fun i => hs.pos_of_waiting, hs.admitted,
    fun i t hm hbefore hafter => ?_, fun i => exists_moves, fun hall => ?_, fun i hbegun => ?_,
    fun i h answer e hcalled hspeaks => ?_⟩
  · cases hm with
    | reserve hcalled hstart =>
      obtain ⟨-, hfree, rfl⟩ := hs.reserve hstart
      exact ⟨hfree, rfl⟩
    | turnAway hcalled hstart =>
      rw [stages_put] at hafter
      cases hafter
    | hear answer hwaiting =>
      rw [hwaiting] at hbefore
      cases hbefore
  · have hnone : s.number Stage.isWaiting = 0 := number_eq_zero fun i => by
      have hover := hall i
      cases hstage : s.stages i with
      | waiting => rw [hstage] at hover; cases hover
      | called | turnedAway | answered answer => rfl
    rw [hcounted, hnone, Nat.zero_add, number, number]
    simp only [Stage.hasEvicted_iff, decide_eq_true_eq]
  · obtain ⟨m, hbegan, henacts⟩ := exists_began rfl h hbegun
    rw [(balanced_start.leads hbegan.before).samePods] at henacts
    exact ⟨m, hbegan, henacts⟩
  · rw [← hs.samePods] at hspeaks ⊢
    rw [← hs.samePolicy]
    exact evict_alone hcalled hspeaks

end Balanced

end Evictions

/-! ## A course -/

namespace Sample

/-- One pod at a time, and none that the node runs by itself. -/
def oneAtATime : Policy := ⟨.drain, 1, false⟩

def plain : Pod := ⟨Kube.ObjectMeta.blank, none, none⟩

def mirror : Pod :=
  ⟨{ Kube.ObjectMeta.blank with annotations := some (.singleton Convention.mirrorAnnotation "") },
    none, none⟩

def four : Fin 4 → Pod := ![plain, plain, mirror, plain]

/-- While the first eviction waits the second one is turned away, and so is that of the mirror pod.
The first one is refused, and the last one takes its place. -/
def afterwards : Evictions (Fin 4) :=
  ((((((Evictions.start oneAtATime four).put ⟨oneAtATime, 1⟩ 0 .waiting).put
    ⟨oneAtATime, 1⟩ 1 .turnedAway).put ⟨oneAtATime, 1⟩ 2 .turnedAway).put
    ⟨oneAtATime, 0⟩ 0 (.answered (.ok false))).put ⟨oneAtATime, 1⟩ 3 .waiting).put
    ⟨oneAtATime, 1⟩ 3 (.answered (.ok true))

theorem leads_afterwards : (Evictions.start oneAtATime four).Leads afterwards :=
  (((((Relation.ReflTransGen.refl.tail ⟨0, .reserve rfl rfl⟩).tail ⟨1, .turnAway rfl rfl⟩).tail
    ⟨2, .turnAway rfl rfl⟩).tail ⟨0, .hear (.ok false) rfl⟩).tail ⟨3, .reserve rfl rfl⟩).tail
    ⟨3, .hear (.ok true) rfl⟩

end Sample

open Sample in
/-- Of the four evictions one has returned that its pod is gone. -/
theorem budget_kept_of_four :
    (Evictions.start oneAtATime four).Leads afterwards ∧
      (∀ i, (afterwards.stages i).result.isSome) ∧ afterwards.evictor.evicted = 1 ∧
      (afterwards.number fun stage => stage.result = some (.ok true)) = 1 := by
  have hall : ∀ i, (afterwards.stages i).result.isSome := by decide +kernel
  obtain ⟨-, -, -, -, -, -, hend, -⟩ := Evictions.budget_kept leads_afterwards
  have hevicted : afterwards.evictor.evicted = 1 := rfl
  exact ⟨leads_afterwards, hall, hevicted, (hend hall).symm.trans hevicted⟩

end Cordon.Drain
