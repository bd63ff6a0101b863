import Cordon.Isolation.DebugPod
import Cordon.Proofs.Cluster.Change
import Cordon.Proofs.Run.Dialogue
import Cordon.Proofs.Run.Reading

/-! # Pods that the controller has created

A `Watch` is a scene together with the pods that the controller has created and that are still
there, each with the node that it is for.  `Tracks` is what becomes of them as a question is
answered.  No pod is gained but by a call that creates it (`gained_of_tracks`), and one that has
been deleted, or was found to be absent, is not there any more (`lost_of_tracks`).  The latter needs
that no two pods have the same namespace and name, which the cluster sees to (`distinct_perform`).
-/

namespace Cordon

/-! ## Watches -/

/-- A scene with the pods that the controller has created and that are still there, each with the
node that it is for. -/
structure Watch where
  scene : Scene
  pods : String → Option String

namespace Watch

/-- The pods that are still there. -/
def standing (s : ClusterState) (pods : String → Option String) (identity : String) :
    Option String :=
  if (s.findPod identity).isSome then pods identity else none

/-- The pods with one that a call creates, if it is not there already. -/
def creating (s : ClusterState) :
    ClusterCall → (String → Option String) → String → Option String
  | .createPod p, pods, identity =>
    if p.identity = identity ∧ s.findPod identity = none then p.nodeName else pods identity
  | _, pods, identity => pods identity

/-- The watch in another scene. -/
def moved (w : Watch) (s : Scene) : Watch := ⟨s, standing s.cluster w.pods⟩

/-- What becomes of a watch as a question is answered. -/
def Tracks (others : ClusterState → ClusterState → Prop) :
    (r : Effects.Request) → Watch → r.Answer → Watch → Prop
  | .cluster (.call c), w, answer, w' => ∃ d, Drifted others w.scene d ∧
    Calls d c answer w'.scene ∧ w'.pods = standing w'.scene.cluster (creating d.cluster c w.pods)
  | r, w, answer, w' => Answers others r w.scene answer w'.scene ∧ w' = w.moved w'.scene

/-- Answers a question on a cluster that nobody else changes and that fails no call. -/
def answer : (r : Effects.Request) → Watch → r.Answer × Watch
  | .cluster (.call c), w =>
    ((w.scene.answer (.cluster (.call c))).1,
      ⟨w.scene.act c, standing (w.scene.act c).cluster (creating w.scene.cluster c w.pods)⟩)
  | r, w => ((w.scene.answer r).1, w.moved (w.scene.answer r).2)

end Watch

open Watch (Tracks standing creating)

variable {others : ClusterState → ClusterState → Prop} {r : Effects.Request} {answer : r.Answer}
  {w w' : Watch} {identity node : String}

theorem of_standing {s : ClusterState} {pods : String → Option String}
    (h : standing s pods identity = some node) :
    (s.findPod identity).isSome = true ∧ pods identity = some node := by
  unfold standing at h
  split at h
  · next hthere => exact ⟨hthere, h⟩
  · cases h

theorem answers_of_tracks (h : Tracks others r w answer w') :
    Answers others r w.scene answer w'.scene := by
  cases r with
  | cluster r =>
    cases r with
    | call c =>
      obtain ⟨d, hd, hc, -⟩ := h
      exact ⟨d, hd, hc⟩
    | launch _ | await _ => exact h.1
  | store _ | arm _ | disarm | now => exact h.1

/-- A pod is gained only as it is created. -/
theorem gained_of_tracks (h : Tracks others r w answer w') (hown : w'.pods identity = some node) :
    (w'.scene.cluster.findPod identity).isSome = true ∧ (w.pods identity = some node ∨
      ∃ p, r = .cluster (.call (.createPod p)) ∧ p.identity = identity ∧
        p.nodeName = some node) := by
  -- Every question but a call moves the watch along with the scene.
  have hmoved : w' = w.moved w'.scene →
      (w'.scene.cluster.findPod identity).isSome = true ∧ w.pods identity = some node := by
    intro heq
    rw [heq] at hown
    exact of_standing hown
  cases r with
  | cluster r =>
    cases r with
    | call c =>
      obtain ⟨d, -, -, hpods⟩ := h
      rw [hpods] at hown
      obtain ⟨hthere, hown⟩ := of_standing hown
      refine ⟨hthere, ?_⟩
      cases c with
      | createPod p =>
        by_cases hnew : p.identity = identity ∧ d.cluster.findPod identity = none
        · rw [creating, if_pos hnew] at hown
          exact .inr ⟨p, rfl, hnew.1, hown⟩
        · rw [creating, if_neg hnew] at hown
          exact .inl hown
      | _ => exact .inl hown
    | launch _ | await _ => exact (hmoved h.2).imp_right .inl
  | store _ | arm _ | disarm | now => exact (hmoved h.2).imp_right .inl

section Distinct

variable (hothers : ∀ c d, others c d → c.Distinct → d.Distinct)

include hothers

theorem distinct_of_drifted {s t : Scene} (h : Drifted others s t) (hs : s.cluster.Distinct) :
    t.cluster.Distinct := by
  induction h with
  | refl => exact hs
  | tail _ hstep ih =>
    obtain ⟨c, hc, rfl⟩ := hstep
    exact hothers _ c hc ih

omit hothers in
theorem distinct_of_calls {s t : Scene} {c : ClusterCall}
    {answer : Option (Except IsolationError c.Reply)} (h : Calls s c answer t)
    (hs : s.cluster.Distinct) : t.cluster.Distinct := by
  rcases h.done with rfl | rfl
  · exact hs
  · cases ha : (s.cluster.perform c).1 with
    | error e =>
      rw [Scene.act_of_error ha]
      exact hs
    | ok a =>
      rw [(Scene.act_of_ok ha (.closed "")).1]
      exact ClusterState.distinct_perform hs c

theorem distinct_of_answers {s t : Scene} (h : Answers others r s answer t)
    (hs : s.cluster.Distinct) : t.cluster.Distinct := by
  cases r with
  | cluster r =>
    cases r with
    | call c =>
      obtain ⟨d, hd, hc⟩ := h
      exact distinct_of_calls hc (distinct_of_drifted hothers hd hs)
    | launch _ =>
      obtain ⟨-, rfl⟩ := h
      exact hs
    | await n =>
      obtain ⟨d, hd, hl⟩ := h
      have hdistinct := distinct_of_drifted hothers hd hs
      cases hl with
      | vacant | late => exact hdistinct
      | removal _ _ _ t _ hcall => exact distinct_of_calls (t := t) hcall hdistinct
  | store c =>
    cases h with
    | answered => exact hs
    | failed _ _ hdone =>
      rcases hdone with rfl | rfl
      · exact hs
      · exact hs
  | arm _ | disarm | now =>
    cases h
    exact hs

/-- A pod that has been deleted, or that was found to be absent, is not there. -/
theorem lost_of_tracks {ns name : String} {answer : Option (Except IsolationError Unit)}
    (h : Tracks others (.cluster (.call (.deletePod ns name))) w answer w')
    (hw : w.scene.cluster.Distinct) {a : Except IsolationError Unit} (ha : answer = some a)
    (hok : ∀ e, a = .error e → e.isNotFound = true) :
    w'.scene.cluster.findPod (ns ++ "/" ++ name) = none := by
  obtain ⟨d, hd, hc, -⟩ := h
  have hdistinct := distinct_of_drifted hothers hd hw
  subst ha
  cases a with
  | ok a =>
    obtain ⟨hperform, hact⟩ := hc.of_ok fun _ _ heq => nomatch heq
    rw [hact, (Scene.act_of_ok hperform (.closed "")).1]
    simp only [ClusterState.perform] at hperform ⊢
    split at hperform
    · exact ClusterState.findPod_removePod hdistinct _
    · cases hperform
  | error e =>
    obtain ⟨⟨e', hperform⟩, hsame⟩ := hc.of_notFound (hok e rfl)
    rw [hsame]
    simp only [ClusterState.perform] at hperform
    split at hperform
    · cases hperform
    · next hnone => exact hnone

end Distinct

theorem tracks_answer (others : ClusterState → ClusterState → Prop) (r : Effects.Request)
    (w : Watch) : Tracks others r w (w.answer r).1 (w.answer r).2 := by
  cases r with
  | cluster r =>
    cases r with
    | call c => exact ⟨w.scene, .refl, .answered c, rfl⟩
    | launch _ | await _ => exact ⟨Scene.answers_answer others _ w.scene, rfl⟩
  | store _ | arm _ | disarm | now => exact ⟨Scene.answers_answer others _ w.scene, rfl⟩

end Cordon
