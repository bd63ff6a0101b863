import Cordon.Proofs.Isolation.Success
import Cordon.Proofs.Run.Scene

/-! # Clusters on which removals run side by side

A `Site` is a cluster with the removals under way.  Every call acts as documented; a removal takes
effect when it ends, and the site keeps account of the pods whose removal was refused or failed.
`Drains` says what a question may come to while a node is emptied, and `Replies` what it may come
to within a pass, where the time for a step may be up at any question.
-/

namespace Cordon

def Drain.Removal.identity : Drain.Removal → String
  | .evict p => p.identity
  | .delete ns name => ns ++ "/" ++ name

/-- A cluster, the removals under way, and the pods whose removal was refused or failed. -/
structure Site where
  cluster : ClusterState
  flights : List (Option Drain.Removal)
  spared : List String

namespace Site

def new (cluster : ClusterState) : Site := ⟨cluster, [], []⟩

inductive Ends (s : Site) (n : Nat) : Fin (n + 1) × Except IsolationError Bool → Site → Prop
  | vacant (i : Fin (n + 1)) (h : s.flights[i.val]? = some none) :
      Ends s n (i, .ok true) { s with flights := s.flights.eraseIdx i }
  | granted (i : Fin (n + 1)) (r : Drain.Removal) (answer : Except IsolationError r.call.Reply)
      (c : ClusterState) (h : s.flights[i.val]? = some (some r))
      (hcall : Documented r.call s.cluster answer c) (hok : r.report answer = .ok true) :
      Ends s n (i, .ok true) { s with cluster := c, flights := s.flights.eraseIdx i }
  | spared (i : Fin (n + 1)) (r : Drain.Removal) (answer : Except IsolationError r.call.Reply)
      (c : ClusterState) (h : s.flights[i.val]? = some (some r))
      (hcall : Documented r.call s.cluster answer c) (hnot : r.report answer ≠ .ok true) :
      Ends s n (i, r.report answer)
        { cluster := c, flights := s.flights.eraseIdx i, spared := r.identity :: s.spared }

/-- What a question may come to while a node is emptied. -/
def Drains : (r : Drain.Request) → Site → r.Answer → Site → Prop
  | .call c, s, answer, t => ∃ m, Documented c s.cluster answer m ∧ t = { s with cluster := m }
  | .launch r, s, _, t => t = { s with flights := s.flights ++ [r] }
  | .await n, s, answer, t => s.Ends n answer t

/-- What a question of a pass may come to.  A step that has no more time is told nothing. -/
def Replies : (r : Effects.Request) → Site → r.Answer → Site → Prop
  | .cluster r, s, some answer, t => Drains r s answer t
  | .cluster _, s, none, t => t = s
  | .arm _, s, _, t => t = { s with flights := [] }
  | .disarm, s, _, t => t = { s with flights := [] }
  | .store _, s, _, t => t = s
  | .now, s, _, t => t = s

/-- Ends the removal that has been under way for longest. -/
def land (s : Site) (n : Nat) : Option (Fin (n + 1) × Except IsolationError Bool) × Site :=
  match s.flights with
  | [] => (none, s)
  | none :: rest => (some (⟨0, n.succ_pos⟩, .ok true), { s with flights := rest })
  | some r :: rest =>
    match r.report (s.cluster.perform r.call).1 with
    | .ok true => (some (⟨0, n.succ_pos⟩, .ok true),
      { s with cluster := (s.cluster.perform r.call).2, flights := rest })
    | report => (some (⟨0, n.succ_pos⟩, report),
      ⟨(s.cluster.perform r.call).2, rest, r.identity :: s.spared⟩)

/-- Answers at once: every call takes effect, and removals end in the order of their starts. -/
def answer : (r : Effects.Request) → Site → r.Answer × Site
  | .cluster (.call c), s =>
    (some (s.cluster.perform c).1, { s with cluster := (s.cluster.perform c).2 })
  | .cluster (.launch r), s => (some (), { s with flights := s.flights ++ [r] })
  | .cluster (.await n), s => s.land n
  | .arm _, s => ((), { s with flights := [] })
  | .disarm, s => ((), { s with flights := [] })
  | .store _, s => (.error .missingNamespace, s)
  | .now, s => ("", s)

theorem replies_land (s : Site) (n : Nat) :
    Replies (.cluster (.await n)) s (s.land n).1 (s.land n).2 := by
  have herase : ∀ r rest, s.flights = r :: rest →
      s.flights.eraseIdx (⟨0, n.succ_pos⟩ : Fin (n + 1)).val = rest := by
    intro r rest hflights
    simp [hflights]
  unfold land
  split
  · rfl
  · next rest hflights =>
    have hends := Ends.vacant (s := s) (n := n) ⟨0, n.succ_pos⟩ (by simp [hflights])
    rw [herase _ _ hflights] at hends
    exact hends
  · next r rest hflights =>
    have hflight : s.flights[0]? = some (some r) := by simp [hflights]
    have hcall := Documented.done r.call s.cluster
    split
    · next hok =>
      have hends := Ends.granted (n := n) ⟨0, n.succ_pos⟩ r _ _ hflight hcall hok
      rw [herase _ _ hflights] at hends
      exact hends
    · next hnot =>
      have hends := Ends.spared (n := n) ⟨0, n.succ_pos⟩ r _ _ hflight hcall hnot
      rw [herase _ _ hflights] at hends
      exact hends

theorem replies_answer (r : Effects.Request) (s : Site) :
    Replies r s (answer r s).1 (answer r s).2 := by
  cases r with
  | arm | disarm | store | now => rfl
  | cluster r =>
    cases r with
    | call c => exact ⟨_, .done c s.cluster, rfl⟩
    | launch r => rfl
    | await n => exact replies_land s n

variable {α : Type} {s t : Site}

theorem attains_interruptible {p : Program Drain.Api α} {a : α}
    (h : (Effects.interruptible p).Attains Replies s (some a) t) : p.Attains Drains s a t := by
  induction p generalizing s with
  | done b =>
    obtain ⟨hb, rfl⟩ := Program.attains_done.1 h
    exact Program.attains_done.2 ⟨Option.some.inj hb, rfl⟩
  | ask r resume ih =>
    rw [Effects.interruptible] at h
    obtain ⟨answer, m, hm, hrest⟩ := Program.attains_ask.1 h
    cases answer with
    | some answer => exact Program.attains_ask.2 ⟨answer, m, hm, ih answer hrest⟩
    | none => cases (Program.attains_done.1 hrest).1

theorem attains_sequentially {p : Clustered α} {r : Except IsolationError α}
    (h : (Drain.sequentially p).run.Attains Drains s r t) :
    ∃ m, p.run.Attains Documented s.cluster r m ∧ t = { s with cluster := m } := by
  change Program.Attains (I := Drain.Api) Drains (Program.interpret _ p.run) s r t at h
  generalize p.run = q at h
  induction q generalizing s with
  | done b =>
    obtain ⟨rfl, rfl⟩ := Program.attains_done.1 h
    exact ⟨_, Program.attains_done.2 ⟨rfl, rfl⟩, rfl⟩
  | ask c resume ih =>
    obtain ⟨answer, _, ⟨m, hm, rfl⟩, hrest⟩ := Program.attains_ask.1 h
    obtain ⟨d, hd, rfl⟩ := ih answer hrest
    exact ⟨d, Program.attains_ask.2 ⟨answer, m, hm, hd⟩, rfl⟩

end Site

end Cordon
