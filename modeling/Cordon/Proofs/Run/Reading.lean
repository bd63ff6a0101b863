import Cordon.Proofs.Run.Footprint
import Cordon.Proofs.Run.Scene

/-! # What a run does to a mark

There are two ways to look at a mark in a scene: whether the cluster shows it, and whether it is
the controller's own.  Both follow what calls write, and both are lost when the mark goes; a
`Reading` of a mark is anything that does so.  A reading is `Steady` if the others who use the
cluster leave the mark alone.

The main statements carry a footprint from a program to its runs, at every scene on the way: a mark
that the program never sets is not gained (`Reading.of_visits`), and one that the program never
clears is not lost either if the reading is steady (`Steady.of_visits`).
-/

namespace Cordon

variable {others : ClusterState → ClusterState → Prop} {m : Mark} {R : Scene → Bool}

/-- A mark that the others leave as it is. -/
def Untouched (others : ClusterState → ClusterState → Prop) (m : Mark) : Prop :=
  ∀ c d, others c d → d.shows m = c.shows m

/-- A way to look at a mark that follows what calls write. -/
structure Reading (others : ClusterState → ClusterState → Prop) (m : Mark) (R : Scene → Bool) :
    Prop where
  shown : ∀ s, R s = true → s.cluster.shows m = true
  act : ∀ (s : Scene) (c : ClusterCall) (a : c.Reply),
    (s.cluster.perform c).1 = .ok a → R (s.act c) = (c.writes m).getD (R s)
  drift : ∀ (s : Scene) (c : ClusterState),
    others s.cluster c → R (s.drift c) = true → R s = true
  withShelf : ∀ (s : Scene) (shelf : Shelf), R (s.withShelf shelf) = R s
  withFlights : ∀ (s : Scene) (flights : List (Option Drain.Removal)),
    R (s.withFlights flights) = R s

/-- A reading that the others do not change. -/
structure Steady (others : ClusterState → ClusterState → Prop) (m : Mark) (R : Scene → Bool) :
    Prop extends Reading others m R where
  keep : ∀ (s : Scene) (c : ClusterState),
    others s.cluster c → R s = true → R (s.drift c) = true

theorem Reading.not_of_not_shown (h : Reading others m R) {s : Scene}
    (hs : s.cluster.shows m = false) : R s = false := by
  cases hR : R s with
  | false => rfl
  | true => rw [h.shown s hR] at hs; cases hs

/-! ## The two readings -/

/-- Whether a mark is the controller's own, whatever the others do. -/
theorem reading_own (others : ClusterState → ClusterState → Prop) (m : Mark) :
    Reading others m fun s => s.own m where
  shown s h := s.own_shows m h
  act _ _ _ h := (Scene.act_of_ok h m).2.1
  drift _ _ _ h := Scene.own_of_own_drift h
  withShelf _ _ := rfl
  withFlights _ _ := rfl

/-- Whether a mark is the controller's own, if the others leave it alone. -/
theorem steady_own (h : Untouched others m) : Steady others m fun s => s.own m where
  toReading := reading_own others m
  keep s c hc hs := by
    have hshows : c.shows m = true := (h _ _ hc).trans (s.own_shows m hs)
    simp only [Scene.drift, hs, hshows, Bool.and_self]

/-- Whether the cluster shows a mark that the others leave alone. -/
theorem steady_shows (h : Untouched others m) : Steady others m fun s => s.cluster.shows m where
  shown _ hs := hs
  act _ _ _ hok := (Scene.act_of_ok hok m).2.2
  drift _ _ hc hs := (h _ _ hc).symm.trans hs
  withShelf _ _ := rfl
  withFlights _ _ := rfl
  keep _ _ hc hs := (h _ _ hc).trans hs

/-! ## Changes by others -/

/-- The scenes that others may make of a scene. -/
abbrev Drifted (others : ClusterState → ClusterState → Prop) : Scene → Scene → Prop :=
  Relation.ReflTransGen (Drifts others)

theorem Reading.of_drifted (h : Reading others m R) {s t : Scene} (hst : Drifted others s t)
    (ht : R t = true) : R s = true := by
  induction hst with
  | refl => exact ht
  | tail _ hstep ih =>
    obtain ⟨c, hc, rfl⟩ := hstep
    exact ih (h.drift _ c hc ht)

theorem Steady.of_drifted (h : Steady others m R) {s t : Scene} (hst : Drifted others s t) :
    R t = R s := by
  refine Bool.eq_iff_iff.2 ⟨h.toReading.of_drifted hst, fun hs => ?_⟩
  induction hst with
  | refl => exact hs
  | tail _ hstep ih =>
    obtain ⟨c, hc, rfl⟩ := hstep
    exact h.keep _ c hc ih

/-! ## Answers to calls -/

/-- A call leaves its effect or none. -/
theorem Calls.done {s t : Scene} {c : ClusterCall} {answer : Option (Except IsolationError c.Reply)}
    (h : Calls s c answer t) : t = s ∨ t = s.act c := by
  cases h with
  | answered => exact .inr rfl
  | refused => exact .inl rfl
  | failed _ e t hdone => exact hdone
  | late _ t hdone => exact hdone

/-- A call that succeeds has taken effect, but for an eviction, which may be refused. -/
theorem Calls.of_ok {s t : Scene} {c : ClusterCall} {a : c.Reply} (h : Calls s c (some (.ok a)) t)
    (hne : ∀ p dryRun, c ≠ .evictPod p dryRun) :
    (s.cluster.perform c).1 = .ok a ∧ t = s.act c := by
  -- An eviction that is refused returns without an error, so it has to be ruled out.
  generalize ho : some (Except.ok a) = o at h
  cases h with
  | answered => exact ⟨(Option.some.inj ho).symm, rfl⟩
  | refused p dryRun => exact absurd rfl (hne p dryRun)
  | failed e => cases ho
  | late => cases ho

/-- A call is said to find nothing only if there is nothing; then it has no effect. -/
theorem Calls.of_notFound {s t : Scene} {c : ClusterCall} {e : IsolationError}
    (h : Calls s c (some (.error e)) t) (he : e.isNotFound = true) :
    (∃ e', (s.cluster.perform c).1 = .error e') ∧ t = s := by
  generalize ho : some (Except.error e) = o at h
  cases h with
  | answered =>
    -- Either the cluster itself refuses the call, or a failure is reported that it would refuse.
    have hp := (Option.some.inj ho).symm
    exact ⟨⟨e, hp⟩, Scene.act_of_error hp⟩
  | refused => cases ho
  | failed _ e' t hdone habsent =>
    cases ho
    obtain ⟨e', hp, -⟩ := habsent he
    refine ⟨⟨e', hp⟩, ?_⟩
    rcases hdone with rfl | rfl
    · rfl
    · exact Scene.act_of_error hp
  | late => cases ho

/-- A call that succeeds has found what it looked for. -/
theorem Calls.honest {s t : Scene} {c : ClusterCall} {answer : Except IsolationError c.Reply}
    (h : Calls s c (some answer) t) : c.Honest answer := by
  cases h with
  | answered c =>
    cases ha : (s.cluster.perform c).1 with
    | error e => cases c <;> trivial
    | ok a =>
      cases c with
      | getNode name => exact ClusterState.name_of_findNode (ClusterState.findNode_of_getNode ha)
      | getWorkload key =>
        exact ClusterState.key_of_findWorkload (ClusterState.findWorkload_of_getWorkload ha)
      | _ => trivial
  | refused p dryRun => trivial
  | failed c e t => cases c <;> trivial

theorem Reading.of_act (h : Reading others m R) (s : Scene) (c : ClusterCall) :
    R (s.act c) = R s ∨ c.writes m = some (R (s.act c)) := by
  cases ha : (s.cluster.perform c).1 with
  | error e => exact .inl (by rw [Scene.act_of_error ha])
  | ok a =>
    rw [h.act s c a ha]
    cases c.writes m with
    | none => exact .inl rfl
    | some b => exact .inr rfl

/-- A call sets a mark only to what its footprint says. -/
theorem Reading.of_calls (h : Reading others m R) {P : Footprint} {s t : Scene} {c : ClusterCall}
    {answer : Option (Except IsolationError c.Reply)} (hP : c.StaysIn P)
    (hc : Calls s c answer t) : R t = R s ∨ P m (R t) := by
  rcases hc.done with rfl | rfl
  · exact .inl rfl
  · rcases h.of_act s c with heq | hw
    · exact .inl heq
    · exact .inr (hP m _ hw)

/-- Removals write no mark. -/
theorem Drain.Removal.staysIn (r : Drain.Removal) : r.call.StaysIn Footprint.nothing := by
  intro m b hw
  cases r <;> cases m <;> cases hw

/-! ## Answers to questions of a pass -/

theorem Answers.honest {P : Footprint} {r : Effects.Request} {s t : Scene} {answer : r.Answer}
    (h : Answers others r s answer t) : P.effects.answers r answer := by
  cases r with
  | cluster r =>
    cases r with
    | call c =>
      obtain ⟨d, -, hc⟩ := h
      intro a ha
      subst ha
      exact hc.honest
    | launch removal | await n => exact fun _ _ => trivial
  | store c | arm limit | disarm | now => trivial

/-- A removal that lands leaves every mark that the others leave. -/
theorem Reading.of_lands (h : Reading others m R) {s t : Scene} {n : Nat}
    {answer : Option (Fin (n + 1) × Except IsolationError Bool)} (hl : Lands s n answer t) :
    R t = R s := by
  cases hl with
  | vacant i => exact h.withFlights _ _
  | removal i r a t _ hcall =>
    rw [h.withFlights]
    rcases h.of_calls r.staysIn hcall with heq | hP
    · exact heq
    · cases hP
  | late => rfl

/-- Before it is answered, a question may have to wait for what the others do; then it sets a mark
only to what its footprint says. -/
theorem Reading.of_answers (h : Reading others m R) {P : Footprint} {r : Effects.Request}
    {s t : Scene} {answer : r.Answer} (hP : P.effects.asks r) (ha : Answers others r s answer t) :
    ∃ d, Drifted others s d ∧ (R t = R d ∨ P m (R t)) := by
  cases r with
  | cluster r =>
    cases r with
    | call c =>
      obtain ⟨d, hd, hc⟩ := ha
      exact ⟨d, hd, h.of_calls hP hc⟩
    | launch removal =>
      obtain ⟨-, rfl⟩ := ha
      exact ⟨s, .refl, .inl (h.withFlights s _)⟩
    | await n =>
      obtain ⟨d, hd, hl⟩ := ha
      exact ⟨d, hd, .inl (h.of_lands hl)⟩
  | store c => exact hP.elim
  | arm limit | disarm =>
    cases ha
    exact ⟨s, .refl, .inl (h.withFlights s _)⟩
  | now =>
    cases ha
    exact ⟨s, .refl, .inl rfl⟩

theorem shelf_of_drifted {s t : Scene} (h : Drifted others s t) : t.shelf = s.shelf := by
  induction h with
  | refl => rfl
  | tail _ hstep ih =>
    obtain ⟨c, -, rfl⟩ := hstep
    exact ih

theorem Calls.shelf {s t : Scene} {c : ClusterCall}
    {answer : Option (Except IsolationError c.Reply)} (h : Calls s c answer t) :
    t.shelf = s.shelf := by
  rcases h.done with rfl | rfl
  · rfl
  · exact Scene.act_shelf

/-- Only questions to the store change the store. -/
theorem Answers.shelf {P : Footprint} {r : Effects.Request} {s t : Scene} {answer : r.Answer}
    (h : Answers others r s answer t) (hP : P.effects.asks r) : t.shelf = s.shelf := by
  cases r with
  | cluster r =>
    cases r with
    | call c =>
      obtain ⟨d, hd, hc⟩ := h
      exact hc.shelf.trans (shelf_of_drifted hd)
    | launch removal =>
      obtain ⟨-, rfl⟩ := h
      rfl
    | await n =>
      obtain ⟨d, hd, hl⟩ := h
      rw [← shelf_of_drifted hd]
      cases hl with
      | vacant | late => rfl
      | removal i r a t _ hcall => exact hcall.shelf
  | store c => exact hP.elim
  | arm limit | disarm | now =>
    cases h
    rfl

/-! ## Runs -/

section Runs

variable {P : Footprint} {α : Type} {p : Program Effects α} {post : α → Prop} {s t : Scene}

/-- A program does not gain a mark that it never sets. -/
theorem Reading.of_visits (h : Reading others m R) (hp : p.Obeys P.effects post)
    (hv : Visits others p s t) (ht : R t = true) : R s = true ∨ P m true := by
  induction p generalizing s with
  | done a =>
    cases hv
    exact .inl ht
  | ask r resume ih =>
    -- What the rest of the program does not gain was there after the first answer.
    rcases hv with rfl | ⟨answer, d, ha, hv⟩
    · exact .inl ht
    · rcases ih answer (hp.2 answer ha.honest) hv with hd | hP
      · obtain ⟨e, he, heq | hP⟩ := h.of_answers hp.1 ha
        · exact .inl (h.of_drifted he (heq ▸ hd))
        · exact .inr (hd ▸ hP)
      · exact .inr hP

/-- A program does not lose a mark that neither it nor the others clear. -/
theorem Steady.of_visits (h : Steady others m R) (hp : p.Obeys P.effects post)
    (hv : Visits others p s t) (hs : R s = true) : R t = true ∨ P m false := by
  induction p generalizing s with
  | done a =>
    cases hv
    exact .inl hs
  | ask r resume ih =>
    rcases hv with rfl | ⟨answer, d, ha, hv⟩
    · exact .inl hs
    -- Either the first answer has left the mark, or it has cleared it, which the footprint allows.
    · cases hd : R d with
      | true => exact ih answer (hp.2 answer ha.honest) hv hd
      | false =>
        obtain ⟨e, he, heq | hP⟩ := h.of_answers hp.1 ha
        · rw [h.of_drifted he, hs, hd] at heq
          cases heq
        · exact .inr (hd ▸ hP)

/-- A program that neither sets nor clears a mark leaves it. -/
theorem Steady.eq_of_visits (h : Steady others m R) (hp : p.Obeys P.effects post)
    (hP : ∀ b, ¬ P m b) (hv : Visits others p s t) : R t = R s := by
  refine Bool.eq_iff_iff.2 ⟨fun ht => ?_, fun hs => ?_⟩
  · exact (h.toReading.of_visits hp hv ht).resolve_right (hP true)
  · exact (h.of_visits hp hv hs).resolve_right (hP false)

/-- A program that leaves the store alone does so at every moment. -/
theorem shelf_of_visits (hp : p.Obeys P.effects post) (hv : Visits others p s t) :
    t.shelf = s.shelf := by
  induction p generalizing s with
  | done a =>
    cases hv
    rfl
  | ask r resume ih =>
    rcases hv with rfl | ⟨answer, d, ha, hv⟩
    · rfl
    · rw [ih answer (hp.2 answer ha.honest) hv]
      exact ha.shelf hp.1

/-- What a program returns, if the answers are as its protocol promises. -/
theorem Executes.obeys {a : α} (h : Executes others p s a t) (hp : p.Obeys P.effects post) :
    post a := by
  induction p generalizing s with
  | done b =>
    cases h.1
    exact hp
  | ask r resume ih =>
    obtain ⟨answer, d, ha, h⟩ := h
    exact ih answer h (hp.2 answer ha.honest)

end Runs

end Cordon
