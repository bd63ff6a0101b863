import Cordon.Lifecycle.Effects
import Cordon.Proofs.Cluster.Mark
import Cordon.Quarantine.Shelf
import Mathlib.Logic.Relation

/-! # Programs on a cluster that others use too

A `Scene` is a cluster and a store of quarantines together with the marks that the controller has
on the cluster.  A mark is the controller's *own* from the moment it puts the mark there, and for
as long as the mark stands without a break, whoever takes it off.

`Answers` says what a question of a pass may come to.  A call to the cluster takes effect and is
answered, or it fails; a call that fails, or whose answer comes too late, may have taken effect or
not.  An absent object is only ever reported if the object is absent.  Before each call the others
who use the cluster may have changed it; `others` says which changes they make.

`Executes` runs a program to its end and `Visits` gives every scene on the way, so that a
controller that is stopped in the middle of its work leaves one of these.  The main statements are
`executes_andThen` and `visits_andThen`, which take a sequence of programs apart, and
`executes_run`: a program that is left in peace, on a cluster that answers every call, comes to the
end that `Program.run` computes.
-/

namespace Cordon

/-- A cluster and a store, with what is under way and which marks are the controller's own. -/
structure Scene where
  cluster : ClusterState
  shelf : Shelf
  /-- The removals under way; one without a call only takes a place. -/
  flights : List (Option Drain.Removal)
  /-- The marks that the controller put on the cluster and that have stood ever since. -/
  own : Mark → Bool
  own_shows : ∀ m, own m = true → cluster.shows m = true

namespace Scene

/-- The scene after a call has taken effect; one that the cluster refuses has none. -/
def act (s : Scene) (c : ClusterCall) : Scene :=
  match h : (s.cluster.perform c).1 with
  | .ok _ =>
    { s with
      cluster := (s.cluster.perform c).2
      own := fun m => (c.writes m).getD (s.own m)
      own_shows := fun m hm => by
        rw [ClusterState.shows_perform h]
        cases hw : c.writes m with
        | none => rw [hw] at hm; exact s.own_shows m hm
        | some b => rw [hw] at hm; exact hm }
  | .error _ => s

/-- The scene after others have made the cluster another one. -/
def drift (s : Scene) (c : ClusterState) : Scene :=
  { s with
    cluster := c
    own := fun m => s.own m && c.shows m
    own_shows := fun m hm => by simp only [Bool.and_eq_true] at hm; exact hm.2 }

/-- The scene with another store. -/
def withShelf (s : Scene) (shelf : Shelf) : Scene := { s with shelf }

/-- The scene with other removals under way. -/
def withFlights (s : Scene) (flights : List (Option Drain.Removal)) : Scene := { s with flights }

/-! ## What a call does to marks -/

section Act

variable {s : Scene} {c : ClusterCall}

theorem act_of_ok {a : c.Reply} (h : (s.cluster.perform c).1 = .ok a) (m : Mark) :
    (s.act c).cluster = (s.cluster.perform c).2 ∧
      (s.act c).own m = (c.writes m).getD (s.own m) ∧
      (s.act c).cluster.shows m = (c.writes m).getD (s.cluster.shows m) := by
  have hshows := ClusterState.shows_perform h m
  unfold act
  split
  · exact ⟨rfl, rfl, hshows⟩
  · next e he => rw [h] at he; cases he

theorem act_of_error {e : IsolationError} (h : (s.cluster.perform c).1 = .error e) :
    s.act c = s := by
  unfold act
  split
  · next a ha => rw [h] at ha; cases ha
  · rfl

/-- A call leaves the marks that it does not write. -/
theorem act_of_writes_none {m : Mark} (h : c.writes m = none) :
    (s.act c).own m = s.own m ∧ (s.act c).cluster.shows m = s.cluster.shows m := by
  cases ha : (s.cluster.perform c).1 with
  | error e => rw [act_of_error ha]; exact ⟨rfl, rfl⟩
  | ok a =>
    obtain ⟨-, hown, hshows⟩ := act_of_ok ha m
    rw [h] at hown hshows
    exact ⟨hown, hshows⟩

theorem act_shelf : (s.act c).shelf = s.shelf := by
  unfold act
  split <;> rfl

end Act

/-- What the others do gives the controller no mark. -/
theorem own_of_own_drift {s : Scene} {c : ClusterState} {m : Mark}
    (h : (s.drift c).own m = true) : s.own m = true := by
  simp only [drift, Bool.and_eq_true] at h
  exact h.1

end Scene

/-! ## Answers -/

/-- What a removal that has ended reports. -/
def Drain.Removal.report :
    (r : Drain.Removal) → Except IsolationError r.call.Reply → Except IsolationError Bool
  | .evict _, answer => answer
  | .delete _ _, answer => answer.map fun _ => true

/-- What a call to the cluster may come to. -/
inductive Calls (s : Scene) :
    (c : ClusterCall) → Option (Except IsolationError c.Reply) → Scene → Prop
  | answered (c : ClusterCall) : Calls s c (some (s.cluster.perform c).1) (s.act c)
  /-- An eviction that the cluster does not grant. -/
  | refused (p : Kube.Pod) (dryRun : Bool) : Calls s (.evictPod p dryRun) (some (.ok false)) s
  | failed (c : ClusterCall) (e : IsolationError) (t : Scene) (hdone : t = s ∨ t = s.act c)
      (habsent : e.isNotFound = true →
        ∃ e', (s.cluster.perform c).1 = .error e' ∧ e'.isNotFound = true) :
      Calls s c (some (.error e)) t
  | late (c : ClusterCall) (t : Scene) (hdone : t = s ∨ t = s.act c) : Calls s c none t

/-- How one of the removals under way may end. -/
inductive Lands (s : Scene) (n : Nat) :
    Option (Fin (n + 1) × Except IsolationError Bool) → Scene → Prop
  | vacant (i : Fin (n + 1)) (h : s.flights[i.val]? = some none) :
      Lands s n (some (i, .ok true)) (s.withFlights (s.flights.eraseIdx i))
  | removal (i : Fin (n + 1)) (r : Drain.Removal) (answer : Except IsolationError r.call.Reply)
      (t : Scene) (h : s.flights[i.val]? = some (some r)) (hcall : Calls s r.call (some answer) t) :
      Lands s n (some (i, r.report answer)) (t.withFlights (s.flights.eraseIdx i))
  | late : Lands s n none s

/-- What a call to the store may come to. -/
inductive Stores (s : Scene) : (c : StoreCall) → Except StoreError c.Reply → Scene → Prop
  | answered (c : StoreCall) : Stores s c (s.shelf.perform c).1 (s.withShelf (s.shelf.perform c).2)
  | failed (c : StoreCall) (e : StoreError) (t : Scene)
      (hdone : t = s ∨ t = s.withShelf (s.shelf.perform c).2) : Stores s c (.error e) t

/-- A change that the others make. -/
def Drifts (others : ClusterState → ClusterState → Prop) (s t : Scene) : Prop :=
  ∃ c, others s.cluster c ∧ t = s.drift c

/-- What a question of a pass may come to. -/
def Answers (others : ClusterState → ClusterState → Prop) :
    (r : Effects.Request) → Scene → r.Answer → Scene → Prop
  | .cluster (.call c), s, answer, t =>
    ∃ d, Relation.ReflTransGen (Drifts others) s d ∧ Calls d c answer t
  | .cluster (.launch r), s, answer, t => answer = some () ∧ t = s.withFlights (s.flights ++ [r])
  | .cluster (.await n), s, answer, t =>
    ∃ d, Relation.ReflTransGen (Drifts others) s d ∧ Lands d n answer t
  | .store c, s, answer, t => Stores s c answer t
  | .arm _, s, _, t => t = s.withFlights []
  | .disarm, s, _, t => t = s.withFlights []
  | .now, s, _, t => t = s

/-! ## Runs of programs -/

section Programs

variable (others : ClusterState → ClusterState → Prop) {α β : Type}

/-- A program runs to its end. -/
def Executes : Program Effects α → Scene → α → Scene → Prop
  | .done a, s, b, t => b = a ∧ t = s
  | .ask r resume, s, b, t =>
    ∃ answer m, Answers others r s answer m ∧ Executes (resume answer) m b t

/-- A program comes by a scene on its way. -/
def Visits : Program Effects α → Scene → Scene → Prop
  | .done _, s, t => t = s
  | .ask r resume, s, t =>
    t = s ∨ ∃ answer m, Answers others r s answer m ∧ Visits (resume answer) m t

variable {others}

theorem executes_andThen {p : Program Effects α} {f : α → Program Effects β} {s t : Scene} {b : β} :
    Executes others (p.andThen f) s b t ↔
      ∃ a m, Executes others p s a m ∧ Executes others (f a) m b t := by
  -- By induction on the questions of the first program: each answer is passed on unchanged.
  induction p generalizing s with
  | done a =>
    constructor
    · intro h
      exact ⟨a, s, ⟨rfl, rfl⟩, h⟩
    · rintro ⟨_, _, ⟨rfl, rfl⟩, h⟩
      exact h
  | ask r resume ih =>
    simp only [Program.ask_andThen, Executes, ih]
    constructor
    · rintro ⟨answer, m, hm, a, d, hp, hf⟩
      exact ⟨a, d, ⟨answer, m, hm, hp⟩, hf⟩
    · rintro ⟨a, d, ⟨answer, m, hm, hp⟩, hf⟩
      exact ⟨answer, m, hm, a, d, hp, hf⟩

theorem visits_start (p : Program Effects α) (s : Scene) : Visits others p s s := by
  cases p with
  | done a => rfl
  | ask r resume => exact .inl rfl

/-- A sequence of programs comes by what the first one comes by, and by what the second one does
from where the first one ends. -/
theorem visits_andThen {p : Program Effects α} {f : α → Program Effects β} {s t : Scene} :
    Visits others (p.andThen f) s t ↔
      Visits others p s t ∨ ∃ a m, Executes others p s a m ∧ Visits others (f a) m t := by
  induction p generalizing s with
  | done a =>
    constructor
    · intro h
      exact .inr ⟨a, s, ⟨rfl, rfl⟩, h⟩
    · rintro (rfl | ⟨_, _, ⟨rfl, rfl⟩, h⟩)
      · exact visits_start (f a) t
      · exact h
  | ask r resume ih =>
    simp only [Program.ask_andThen, Visits, Executes, ih]
    constructor
    · rintro (rfl | ⟨answer, m, hm, h | ⟨a, d, hp, hf⟩⟩)
      · exact .inl (.inl rfl)
      · exact .inl (.inr ⟨answer, m, hm, h⟩)
      · exact .inr ⟨a, d, ⟨answer, m, hm, hp⟩, hf⟩
    · rintro ((rfl | ⟨answer, m, hm, h⟩) | ⟨a, d, ⟨answer, m, hm, hp⟩, hf⟩)
      · exact .inl rfl
      · exact .inr ⟨answer, m, hm, .inl h⟩
      · exact .inr ⟨answer, m, hm, .inr ⟨a, d, hp, hf⟩⟩

theorem Executes.visits {p : Program Effects α} {s t : Scene} {a : α}
    (h : Executes others p s a t) : Visits others p s t := by
  induction p generalizing s with
  | done b => exact h.2
  | ask r resume ih =>
    obtain ⟨answer, m, hm, h⟩ := h
    exact .inr ⟨answer, m, hm, ih answer h⟩

end Programs

/-! ## A cluster left in peace -/

namespace Scene

/-- Ends the removal that has been under way for longest. -/
def landOldest (s : Scene) (n : Nat) :
    Option (Fin (n + 1) × Except IsolationError Bool) × Scene :=
  match s.flights with
  | [] => (none, s)
  | none :: rest => (some (0, .ok true), s.withFlights rest)
  | some r :: rest =>
    (some (0, r.report (s.cluster.perform r.call).1), (s.act r.call).withFlights rest)

/-- Answers a question on a cluster that nobody else changes and that fails no call. -/
def answer : (r : Effects.Request) → Scene → r.Answer × Scene
  | .cluster (.call c), s => (some (s.cluster.perform c).1, s.act c)
  | .cluster (.launch r), s => (some (), s.withFlights (s.flights ++ [r]))
  | .cluster (.await n), s => s.landOldest n
  | .store c, s => ((s.shelf.perform c).1, s.withShelf (s.shelf.perform c).2)
  | .arm _, s => ((), s.withFlights [])
  | .disarm, s => ((), s.withFlights [])
  | .now, s => ("", s)

theorem lands_landOldest (s : Scene) (n : Nat) :
    Lands s n (s.landOldest n).1 (s.landOldest n).2 := by
  unfold landOldest
  split
  · exact .late
  · next rest h =>
    have hv := Lands.vacant (s := s) (n := n) 0 (by simp [h])
    simpa [h] using hv
  · next r rest h =>
    have hr := Lands.removal (s := s) (n := n) 0 r _ _ (by simp [h]) (.answered r.call)
    simpa [h] using hr

theorem answers_answer (others : ClusterState → ClusterState → Prop) (r : Effects.Request)
    (s : Scene) : Answers others r s (answer r s).1 (answer r s).2 := by
  cases r with
  | cluster r =>
    cases r with
    | call c => exact ⟨s, .refl, .answered c⟩
    | launch r => exact ⟨rfl, rfl⟩
    | await n => exact ⟨s, .refl, lands_landOldest s n⟩
  | store c => exact .answered c
  | arm limit => rfl
  | disarm => rfl
  | now => rfl

/-- Answers a question on a cluster that nobody else changes and that fails some calls. -/
def failing (fails : ClusterCall → Bool) : (r : Effects.Request) → Scene → r.Answer × Scene
  | .cluster (.call c), s =>
    if fails c then (some (.error (c.error (.transport "timeout"))), s)
    else answer (.cluster (.call c)) s
  | r, s => answer r s

end Scene

/-- A program that is left in peace comes to the end that `Program.run` computes. -/
theorem executes_run (others : ClusterState → ClusterState → Prop) {α : Type}
    (p : Program Effects α) (s : Scene) :
    Executes others p s (p.run Scene.answer s).1 (p.run Scene.answer s).2 := by
  -- Each answer that is computed is one of those that a question may come to.
  induction p generalizing s with
  | done a => exact ⟨rfl, rfl⟩
  | ask r resume ih => exact ⟨_, _, Scene.answers_answer others r s, ih _ _⟩

end Cordon
