import Cordon.Proofs.Isolation.Errand
import Cordon.Proofs.Lifecycle.Conduct

/-! # The errands of a pass

A pass that settles a quarantine runs the errands of the nodes that it brings into shape, of those
that it gives up, and of the workloads on record; a stop gives all nodes up and then sweeps marked
pods from the cluster (`keepsTo_settle`, `keepsTo_stop`).  Whatever a pass is answered, it makes no
call but for one of these errands.
-/

namespace Cordon

namespace Pass

open Lifecycle (step stepInTurn)

variable {E F : Errand} {J : Lifecycle → Prop} {α β : Type}

/-- A pass that makes the calls of an errand only, from a lifecycle with a property that it
keeps. -/
def KeepsTo (E : Errand) (J : Lifecycle → Prop) (p : Pass α) : Prop :=
  ∀ k l, J l → (p.run.run l).Asks E.Allows k fun _ r => J r.2

theorem KeepsTo.mono {p : Pass α} (h : KeepsTo E J p) (hE : E.PartOf F) : KeepsTo F J p :=
  fun k l hl => (h k l hl).weaken fun _ _ hc => hE.allows hc

theorem keepsTo_pure (a : α) : KeepsTo E J (pure a : Pass α) := fun _ _ hl => hl

theorem keepsTo_bind {p : Pass α} {f : α → Pass β} (hp : KeepsTo E J p)
    (hf : ∀ a, KeepsTo E J (f a)) : KeepsTo E J (p >>= f) := by
  intro k l hl
  rw [run_bind]
  refine (hp k l hl).andThen fun k' r _ hr => ?_
  obtain ⟨r, l'⟩ := r
  cases r with
  | ok a => exact hf a k' l' hr
  | error e => exact hr

theorem keepsTo_get {f : Lifecycle → Pass β} (hf : ∀ l, J l → KeepsTo E J (f l)) :
    KeepsTo E J (get >>= f) := fun k l hl => hf l hl k l hl

theorem keepsTo_modify {g : Lifecycle → Lifecycle} (hg : ∀ l, J l → J (g l)) :
    KeepsTo E J (modify g : Pass PUnit) := fun _ l hl => hg l hl

theorem keepsTo_forM {as : List α} {f : α → Pass Unit} (h : ∀ a ∈ as, KeepsTo E J (f a)) :
    KeepsTo E J (as.forM f) := by
  induction as with
  | nil => exact keepsTo_pure ()
  | cons a rest ih =>
    show KeepsTo E J (f a >>= fun _ => rest.forM f)
    exact keepsTo_bind (h a (by simp)) fun _ => ih fun b hb => h b (by simp [hb])

theorem keepsTo_step {label node : String} {p : ExceptT IsolationError (Program Drain.Api) α}
    (h : ∀ k, Consults E.Allows k p fun _ _ => True) : KeepsTo E J (step label node p) := by
  intro k l hl
  rw [run_step]
  refine (Program.Asks.within (k := k) l.timeout h).andThen fun k' r _ _ => ?_
  match r with
  | some (.ok a) => exact hl
  | some (.error e) => exact hl
  | none => exact hl

theorem keepsTo_stepInTurn {label node : String} {p : Clustered α}
    (h : ∀ k, Consults E.Allows k p fun _ _ => True) : KeepsTo E J (stepInTurn label node p) :=
  keepsTo_step fun k => Program.Asks.sequentially (h k)

/-- All that a pass says is grounded, whatever has been heard before it. -/
theorem KeepsTo.grounded {p : Pass α} (hp : KeepsTo E J p) {l l' : Lifecycle}
    {h : Dialogue Effects} {r : Except ControllerError α} (hl : J l) (hs : p.Says l h r l')
    (k : Heard) : Grounded E.Allows k h :=
  (hp k l hl).grounded hs

end Pass

namespace Lifecycle

open Pass Isolation

variable {E : Errand} {J : Lifecycle → Prop} {t : Target}

/-! ## Parts of a pass -/

theorem keepsTo_removeTolerations (node : String) (resources : List ResourceRef) :
    KeepsTo (.stripping resources) J (removeTolerations node resources) :=
  keepsTo_forM fun r hr => keepsTo_stepInTurn fun _ => consults_removeToleration ⟨r, hr, rfl⟩

theorem keepsTo_undo (u : Target) : KeepsTo (.reverting u) J (undo u) := by
  refine keepsTo_bind (keepsTo_stepInTurn fun _ => consults_untaintNode rfl) fun _ =>
    keepsTo_bind ?_ fun _ => keepsTo_bind (keepsTo_stepInTurn fun _ => consults_removeDebug rfl)
      fun _ => keepsTo_bind (keepsTo_stepInTurn fun _ => consults_removeListed rfl) fun _ =>
        keepsTo_stepInTurn fun _ => consults_enableScheduling rfl
  exact (keepsTo_removeTolerations _ _).mono (Errand.stripping_reverting u)

theorem keepsTo_prepareNode (t : Target) : KeepsTo (.shaping t) J (prepareNode t) := by
  rw [prepareNode_eq]
  refine keepsTo_bind ?_ fun _ =>
    keepsTo_bind (keepsTo_stepInTurn fun _ => consults_isIsolated rfl) fun isolated => ?_
  · unfold deployIfAsked
    split
    · exact keepsTo_stepInTurn fun _ => consults_deployDebug rfl
    · exact keepsTo_pure ()
  · split
    · exact keepsTo_pure ()
    · exact keepsTo_bind (keepsTo_stepInTurn fun _ => consults_disableScheduling rfl) fun _ =>
        keepsTo_stepInTurn fun _ => consults_isolate t.isolate

theorem keepsTo_startNode (t : Target) (hJ : ∀ l, J l → J (l.recorded t)) :
    KeepsTo (.shaping t) J (startNode t) := by
  refine keepsTo_bind (keepsTo_step fun _ => Drain.consults_deschedule) fun _ => ?_
  split
  · exact keepsTo_bind (keepsTo_stepInTurn fun _ => consults_taintNode rfl) fun _ =>
      keepsTo_modify hJ
  · exact keepsTo_modify hJ

/-! ## Whole passes -/

/-- An errand that takes in all that a lifecycle may give rise to. -/
structure Within (E : Errand) (l : Lifecycle) : Prop where
  nodes : ∀ n ∈ l.nodes, (Errand.shaping n).PartOf E
  marked : ∀ u ∈ l.marked, (Errand.reverting u).PartOf E
  records : ∀ name o, l.records.get? name = some o → (Errand.stripping o.resources).PartOf E

theorem stripping_observed (n : Target) :
    (Errand.stripping n.observed.resources).PartOf (.shaping n) where
  nodes _ h := h.elim
  closes _ h := h.elim
  reopens _ h := h.elim
  workloads key h := by
    obtain ⟨r, hr, hkey⟩ := h
    exact ⟨r, ResourceRef.mem_sort.1 hr, hkey⟩
  marks _ h := h.elim
  removes _ h := h.elim
  deploys _ h := h.elim
  recalls _ h := h.elim

theorem Within.recorded {l : Lifecycle} (h : l.Within E) {n : Target}
    (hn : (Errand.shaping n).PartOf E) : (l.recorded n).Within E where
  nodes := h.nodes
  marked := h.marked
  records name o ho := by
    change (l.records.insert n.name n.observed).get? name = some o at ho
    rw [Dict.get?_insert] at ho
    split at ho
    · cases ho
      exact (stripping_observed n).trans hn
    · exact h.records name o ho

theorem Within.forgotten {l : Lifecycle} (h : l.Within E) (u : Target) :
    (l.forgotten u).Within E where
  nodes := h.nodes
  marked := h.marked
  records name o ho := by
    change (l.records.erase u.name).get? name = some o at ho
    rw [Dict.get?_erase] at ho
    split at ho
    · cases ho
    · exact h.records name o ho

theorem keepsTo_advance {J : Lifecycle → Prop} (next : Phase)
    (hJ : ∀ l phase, J l → J (l.inPhase phase)) : KeepsTo E J (advance next) := by
  intro k l hl
  rw [run_advance]
  split
  · exact hJ l _ hl
  · exact hl

theorem within_inPhase (l : Lifecycle) (phase : Phase) (h : l.Within E) :
    (l.inPhase phase).Within E := ⟨h.nodes, h.marked, h.records⟩

/-- A node is brought into line with regard to the workloads of its record. -/
theorem keepsTo_convergeNode (ht : (Errand.shaping t).PartOf E)
    (hJ : ∀ l, J l → J (l.recorded t)) (hrecord : ∀ l, J l → ∀ o,
      l.records.get? t.name = some o → (Errand.stripping o.resources).PartOf E) :
    KeepsTo E J (convergeNode t) := by
  have hremove : ∀ o, (Errand.stripping o.resources).PartOf E → KeepsTo E J
      (removeTolerations t.name (droppedResources t o)) := fun o ho =>
    keepsTo_forM fun r hr => keepsTo_stepInTurn fun _ => consults_removeToleration
      (ho.workloads _ ⟨r, (List.mem_filter.1 hr).1, rfl⟩)
  rw [convergeNode_eq]
  refine keepsTo_get fun l hl => keepsTo_bind ?_ fun _ =>
    keepsTo_bind ((keepsTo_stepInTurn fun _ => consults_isIsolated rfl).mono ht) fun isolated => ?_
  · cases ho : l.records.get? t.name with
    | some o => exact hremove o (hrecord l hl o ho)
    | none => exact keepsTo_pure ()
  cases isolated with
  | false =>
    exact keepsTo_bind ((keepsTo_prepareNode t).mono ht) fun _ =>
      (keepsTo_startNode t hJ).mono ht
  | true =>
    refine keepsTo_bind ((keepsTo_stepInTurn fun _ => consults_isolate t.isolate).mono ht) fun _ =>
      keepsTo_bind ?_ fun _ => keepsTo_modify hJ
    unfold unisolate
    split
    · exact keepsTo_bind ((keepsTo_stepInTurn fun _ => consults_untaintNode rfl).mono ht) fun _ =>
        (keepsTo_removeTolerations _ _).mono ((Errand.stripping_shaping t).trans ht)
    · exact keepsTo_pure ()

theorem keepsTo_reverseAll {us : List Target} (hus : ∀ u ∈ us, (Errand.reverting u).PartOf E)
    {J : Lifecycle → Prop} (hJ : ∀ u ∈ us, ∀ l, J l → J (l.forgotten u)) :
    KeepsTo E J (us.forM reverseNode) := by
  refine keepsTo_forM fun u hu => ?_
  rw [reverseNode_eq]
  exact keepsTo_bind ((keepsTo_undo u).mono (hus u hu)) fun _ => keepsTo_modify (hJ u hu)

theorem keepsTo_reverseMarked : KeepsTo E (Within E) reverseMarked :=
  keepsTo_get fun _ hl => keepsTo_reverseAll hl.marked fun u _ _ hl => hl.forgotten u

theorem keepsTo_settle (wasActive : Bool) : KeepsTo E (Within E) (settle wasActive) := by
  cases wasActive with
  | true =>
    show KeepsTo E _ update
    rw [update_eq]
    refine keepsTo_bind (keepsTo_advance _ within_inPhase) fun _ =>
      keepsTo_bind keepsTo_reverseMarked fun _ => keepsTo_get fun l hl =>
        keepsTo_bind ?_ fun _ => keepsTo_advance _ within_inPhase
    unfold convergeFirst
    cases hfirst : l.firstChanged with
    | none => exact keepsTo_pure ()
    | some t =>
      have ht := hl.nodes t (List.mem_of_find?_eq_some hfirst)
      exact keepsTo_convergeNode ht (fun _ hl => hl.recorded ht) fun _ hl => hl.records t.name
  | false =>
    refine keepsTo_bind (keepsTo_bind (keepsTo_advance _ within_inPhase) fun _ =>
      keepsTo_bind keepsTo_reverseMarked fun _ => keepsTo_get fun l hl => ?_) fun _ =>
        keepsTo_bind (keepsTo_advance _ within_inPhase) fun _ => keepsTo_get fun l hl => ?_
    · exact keepsTo_forM fun n hn => (keepsTo_prepareNode n).mono (hl.nodes n hn)
    · exact keepsTo_forM fun n hn =>
        (keepsTo_startNode n fun _ hl' => hl'.recorded (hl.nodes n hn)).mono (hl.nodes n hn)

theorem keepsTo_stop (hsweep : Errand.sweeping.PartOf E) :
    KeepsTo E (fun l => ∀ u ∈ l.nodes ++ l.marked, (Errand.reverting u).PartOf E) stop := by
  refine keepsTo_bind (keepsTo_advance _ fun _ _ hl => hl) fun _ => keepsTo_get fun l hl =>
    keepsTo_bind (keepsTo_reverseAll hl fun _ _ _ hl => hl) fun _ => ?_
  exact (keepsTo_stepInTurn fun _ => consults_removeListed rfl).mono hsweep

end Lifecycle

end Cordon
