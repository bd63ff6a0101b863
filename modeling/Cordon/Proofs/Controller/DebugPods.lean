import Cordon.Proofs.Controller.Commission
import Cordon.Proofs.Controller.Dismantling
import Cordon.Proofs.Controller.Ledger
import Cordon.Proofs.Run.Break
import Cordon.Proofs.Run.Watch

/-! # Debug pods that the controller has created

Nothing remembers a debug pod but the request: a node that is given up loses the pod that the
request says it has now.  So a pod is *recalled* for as long as its node is known and debug pods are
still asked for in its namespace (`PodRecalled`), and only an edit can make it forgotten
(`podsRecalled_of_vigil`).

`debug_pods_recalled` says which pods are left when a node is given up or the quarantine is let go:
those that the controller had before and that were not recalled.
-/

namespace Cordon

open Lifecycle (stepInTurn)
open Isolation (removeDebug absentOk absentOk_eq_ok run_orAbsent)
open Watch (Tracks)

section Dialogues

variable {others : ClusterState → ClusterState → Prop} {w w' : Watch} {h : Dialogue Effects}
  {identity node : String}

/-- In a dialogue, pods are gained only as they are created. -/
theorem gained_of_follows (hf : Follows (Tracks others) w h w')
    (hown : w'.pods identity = some node) : w.pods identity = some node ∨
      ∃ e ∈ h, ∃ p, e.1 = .cluster (.call (.createPod p)) ∧ p.identity = identity ∧
        p.nodeName = some node := by
  -- By induction on the dialogue: what is there at the end was there after the first answer, or is
  -- created later.
  induction h generalizing w with
  | nil =>
    cases hf
    exact .inl hown
  | cons e h ih =>
    obtain ⟨m, hm, hf⟩ := hf
    rcases ih hf with hbefore | ⟨e', he', hcreated⟩
    · rcases (gained_of_tracks hm hbefore).2 with hbefore | hcreated
      · exact .inl hbefore
      · exact .inr ⟨e, by simp, hcreated⟩
    · exact .inr ⟨e', List.mem_cons_of_mem e he', hcreated⟩

variable (hothers : ∀ c d, others c d → c.Distinct → d.Distinct)

include hothers

theorem distinct_of_follows (hf : Follows (Tracks others) w h w')
    (hw : w.scene.cluster.Distinct) : w'.scene.cluster.Distinct :=
  hf.keeps (P := fun w => w.scene.cluster.Distinct)
    (fun _ _ _ _ hm => distinct_of_answers hothers (answers_of_tracks hm)) hw

/-- A debug pod that has been removed is not there. -/
theorem absent_of_removeDebug {label nodeName name namespaceName : String} {l l' : Lifecycle}
    (hs : (stepInTurn label nodeName (removeDebug name namespaceName)).Says l h (.ok ()) l')
    (hf : Follows (Tracks others) w h w') (hw : w.scene.cluster.Distinct) (node : String) :
    w'.pods (namespaceName ++ "/" ++ name) ≠ some node := by
  obtain ⟨answer, rfl, hr⟩ :=
    Pass.says_oneCall (c := .deletePod namespaceName name) (run_orAbsent _) hs
  obtain ⟨a, ha, hok⟩ := hr.1 rfl
  -- The step is one call between an alarm that is set and one that is put off.
  obtain ⟨m, harm, m', hcall, m'', hdisarm, hw'⟩ := hf
  cases hw'
  have hgone := lost_of_tracks hothers hcall
    (distinct_of_answers hothers (answers_of_tracks harm) hw) ha (absentOk_eq_ok.1 hok)
  intro hown
  obtain ⟨-, hbefore | ⟨p, heq, -⟩⟩ := gained_of_tracks hdisarm hown
  · obtain ⟨hthere, -⟩ := gained_of_tracks hcall hbefore
    rw [hgone] at hthere
    cases hthere
  · cases heq

/-- A debug pod that has been removed in a dialogue is not there at the end, unless one is created
for its node. -/
theorem lost_of_doneIn {label nodeName name namespaceName : String}
    (hd : Pass.DoneIn (stepInTurn label nodeName (removeDebug name namespaceName)) h)
    (hf : Follows (Tracks others) w h w') (hw : w.scene.cluster.Distinct)
    (hnew : ∀ e ∈ h, ∀ p, e.1 = .cluster (.call (.createPod p)) → p.nodeName ≠ some node) :
    w'.pods (namespaceName ++ "/" ++ name) ≠ some node := by
  obtain ⟨before, during, after, l, l', rfl, hs⟩ := hd
  obtain ⟨m, hfront, hafter⟩ := follows_append.1 hf
  obtain ⟨m', hbefore, hduring⟩ := follows_append.1 hfront
  -- The pod is gone after the step, and what comes after it does not create it again.
  have hgone := absent_of_removeDebug hothers hs hduring
    (distinct_of_follows hothers hbefore hw) node
  intro hown
  rcases gained_of_follows hafter hown with hown | ⟨e, he, p, heq, -, hnode⟩
  · exact hgone hown
  · exact hnew e (List.mem_append_right _ he) p heq hnode

end Dialogues

namespace Controller

open Lifecycle (new stop mem_nodes_new mem_marked_new GivenUp givenUp_of_stop)

variable {others : ClusterState → ClusterState → Prop} {timing : Timing} {ns name : String}
  {q p : Quarantine} {s t : Scene} {w w' : Watch} {h : Dialogue Effects} {o : ObservedNode}
  {identity node : String}

/-! ## What a reconcile does to the store -/

/-- What is stored after a moment of a reconcile is the same request; and it is there with the same
records if it has not been taken up yet. -/
theorem stored_of_moment {timeout : Nat} (hs : s.shelf.Distinct) (hq : stored ns name s = some q)
    (h : Moment others timeout q s t) :
    (∀ p, stored ns name t = some p → p.spec = q.spec) ∧
      (q.hasFinalizer = false →
        ∃ p, stored ns name t = some p ∧ p.observedNodes = q.observedNodes) := by
  cases h with
  | idle => exact ⟨fun p hp => by cases hq.symm.trans hp; rfl, fun _ => ⟨q, hq, rfl⟩⟩
  | held =>
    have hstored := stored_held hs hq
    exact ⟨fun p hp => by cases hstored.symm.trans hp; rfl, fun _ => ⟨_, hstored, rfl⟩⟩
  | working t hheld hpass =>
    have hstored := stored_of_working hpass hq
    refine ⟨fun p hp => by cases hstored.symm.trans hp; rfl, fun hfree => ?_⟩
    cases hheld.symm.trans hfree
  | told r l d next hheld hpass =>
    have hstored : stored ns name (d.withShelf (d.shelf.perform (.updateStatus q next)).2) =
        some { q with status := some next } :=
      stored_told (distinct_of_working hpass.visits hs) (stored_of_working hpass.visits hq) hheld
    refine ⟨fun p hp => by cases hstored.symm.trans hp; rfl, fun hfree => ?_⟩
    cases hheld.symm.trans hfree
  | released l d hheld hdeleting hpass =>
    refine ⟨fun p hp => ?_, fun hfree => by cases hheld.symm.trans hfree⟩
    cases stored_released (distinct_of_working hpass.visits hs)
      (stored_of_working hpass.visits hq) hp
    rfl

/-- Only what the store is asked to change changes it. -/
theorem shelf_of_answers {r : Effects.Request} {answer : r.Answer}
    (h : Answers others r s answer t) (hr : r.onStore = false) : t.shelf = s.shelf := by
  cases r with
  | cluster r =>
    refine h.shelf (P := fun _ _ => True) ?_
    cases r with
    | call _ => exact fun _ _ _ => trivial
    | launch _ | await _ => trivial
  | store c =>
    cases c with
    | getQuarantine ns name =>
      cases h with
      | answered => rfl
      | failed _ _ hdone =>
        rcases hdone with rfl | rfl
        · rfl
        · rfl
    | addFinalizer _ | removeFinalizer _ | updateStatus _ _ => cases hr
  | arm _ | disarm | now => exact h.shelf (P := fun _ _ => True) trivial

theorem replies_of_answers {key : String} {r : Effects.Request} {answer : r.Answer}
    (h : Answers others r s answer t) : Shelf.Replies key r s.shelf answer t.shelf := by
  have hspares : r.onStore = false → Shelf.Spares key s.shelf t.shelf := fun hr => by
    rw [shelf_of_answers h hr]
    exact .refl _
  cases r with
  | store c =>
    refine ⟨s.shelf, .refl _, ?_⟩
    cases h with
    | answered => exact .inl ⟨rfl, rfl⟩
    | failed e _ hdone => exact .inr ⟨⟨e, rfl⟩, hdone.imp (congrArg _) (congrArg _)⟩
  | cluster _ | arm _ | disarm | now => exact hspares rfl

/-- A reconcile under watch. -/
structure Watched (others : ClusterState → ClusterState → Prop) (timing : Timing)
    (ns name : String) (w : Watch) (h : Dialogue Effects) (w' : Watch) : Prop where
  opens : (reconcile timing (some ns) name).run.Opens h
  follows : Follows (Tracks others) w h w'

/-- The chapter of a reconcile under watch. -/
def chapterOf (timing : Timing) (w : Watch) (h : Dialogue Effects) (w' : Watch) : Chapter :=
  ⟨timing, w.scene.shelf, h, w'.scene.shelf⟩

namespace Watched

variable (hw : Watched others timing ns name w h w')

include hw

theorem answers : Follows (Answers others) w.scene h w'.scene :=
  hw.follows.map fun _ _ _ _ => answers_of_tracks

theorem takes : (chapterOf timing w h w').Takes ns name :=
  ⟨hw.opens, hw.answers.map fun _ _ _ _ => replies_of_answers⟩

/-- A pod is created only for a node of the request, in the way that the request says. -/
theorem created (hloaded : loaded h = some q) {e : Effects.Event} (he : e ∈ h) {p : Kube.Pod}
    (hp : e.1 = .cluster (.call (.createPod p))) :
    q.isDeleting = false ∧ ∃ n ∈ q.spec.nodes, p = DebugPod.make n.name q.spec.debug := by
  obtain ⟨before, after, rfl⟩ := List.append_of_mem he
  have hallows := grounded_of_opens hw.opens hloaded ∅ before e after rfl (.createPod p)
    (by rw [hp]; rfl)
  cases hallows with
  | @deploy t ht =>
    -- Of the errands of a quarantine only bringing a node into shape deploys a debug pod.
    obtain ⟨E, hE, hdeploys⟩ := ht
    unfold Commissions at hE
    cases hdeleting : q.isDeleting with
    | true =>
      rw [hdeleting, if_pos rfl] at hE
      rcases hE with ⟨u, -, rfl⟩ | rfl
      · exact hdeploys.elim
      · exact hdeploys.elim
    | false =>
      rw [hdeleting, if_neg Bool.false_ne_true] at hE
      rcases hE with ⟨t', ht', rfl⟩ | ⟨u, -, rfl⟩ | ⟨o, -, rfl⟩
      · cases (show t = t' from hdeploys)
        obtain ⟨n, hn, rfl⟩ := mem_nodes_new.1 ht'
        exact ⟨rfl, n, hn, rfl⟩
      · exact hdeploys.elim
      · exact hdeploys.elim

/-! ## Pods that are given up with their nodes -/

/-- If a pod is there for a node then it was there before or is created for it. -/
theorem gained (hown : w'.pods identity = some node) : w.pods identity = some node ∨
    ∃ q, loaded h = some q ∧ q.isDeleting = false ∧ (∃ n ∈ q.spec.nodes, n.name = node) ∧
      identity = debugPodOf q node := by
  rcases gained_of_follows hw.follows hown with hbefore | ⟨e, he, p, hp, hidentity, hnode⟩
  · exact .inl hbefore
  · obtain ⟨rest, r, hs⟩ := hw.opens
    obtain ⟨q, hloaded, -⟩ := (disciplined_of_speaks hs).called e (List.mem_append_left _ he)
      (by rw [hp]; rfl)
    rw [loaded_append (List.ne_nil_of_mem he)] at hloaded
    obtain ⟨hlive, n, hn, rfl⟩ := hw.created hloaded he hp
    cases hnode
    exact .inr ⟨q, hloaded, hlive, ⟨n, hn, rfl⟩, hidentity.symm⟩

/-- The pod of a node that has been given up is not there, unless one is created for the node. -/
theorem lost_of_givenUp (hothers : ∀ c d, others c d → c.Distinct → d.Distinct)
    (hdistinct : w.scene.cluster.Distinct) (hloaded : loaded h = some q) {u : Target}
    {timeout : Nat} (hu : u ∈ (new q timeout).visited) (hgiven : GivenUp u h)
    (hnew : q.isDeleting = false → ∀ n ∈ q.spec.nodes, n.name ≠ u.name) :
    w'.pods (debugPodOf q u.name) ≠ some u.name := by
  rw [← debugIdentity_of_visited hu]
  refine lost_of_doneIn hothers hgiven.recalled hw.follows hdistinct fun e he p hp hnode => ?_
  obtain ⟨hlive, n, hn, rfl⟩ := hw.created hloaded he hp
  exact hnew hlive n hn (Option.some.inj hnode)

end Watched

/-! ## Pods that are recalled -/

/-- The node of a pod is known, and the pod is where the request says. -/
def PodRecalled (ns name identity node : String) (s : Scene) : Prop :=
  ∃ q, stored ns name s = some q ∧ Known q node ∧ identity = debugPodOf q node

/-- All the pods that the controller has created, and that are still there, are recalled. -/
def PodsRecalled (ns name : String) (w : Watch) : Prop :=
  ∀ identity node, w.pods identity = some node → PodRecalled ns name identity node w.scene

/-- An edit that keeps the namespace for debug pods, and drops no node that is not on record, leaves
pods recalled. -/
theorem podsRecalled_of_edit (hrecalled : PodsRecalled ns name w)
    (hedit : ∀ q, stored ns name w.scene = some q → ∃ p, stored ns name s = some p ∧
      p.spec.debug.namespaceName = q.spec.debug.namespaceName ∧
      ∀ node, Known q node → Known p node) : PodsRecalled ns name ⟨s, w.pods⟩ := by
  intro identity node hown
  obtain ⟨q, hq, hknown, rfl⟩ := hrecalled identity node hown
  obtain ⟨p, hp, hdebug, hkeeps⟩ := hedit q hq
  exact ⟨p, hp, hkeeps node hknown, by rw [debugPodOf, debugPodOf, hdebug]⟩

/-- The controller is done with a node. -/
inductive PartsWith (timing : Timing) (ns name : String) (w : Watch) (h : Dialogue Effects)
    (w' : Watch) (node : String) : Prop
  /-- The node has been dropped, and is given up. -/
  | dropped (q : Quarantine) (u : Target) : loaded h = some q →
      u ∈ (new q timing.nodeTimeout).marked → u.name = node → GivenUp u h →
      PartsWith timing ns name w h w' node
  /-- The record of the node is dropped. -/
  | unrecorded (o : ObservedNode) : o.name = node →
      (chapterOf timing w h w').Loses (ns ++ "/" ++ name) o →
      PartsWith timing ns name w h w' node
  /-- The quarantine is let go. -/
  | released (q : Quarantine) : LetsGo timing h q → PartsWith timing ns name w h w' node

namespace Watched

variable (hw : Watched others timing ns name w h w')

include hw

/-- A reconcile that has found nothing leaves the store. -/
theorem shelf_of_absent (hloaded : loaded h = none) : w'.scene.shelf = w.scene.shelf := by
  refine hw.answers.keeps (P := fun s => s.shelf = w.scene.shelf) (fun e he _ _ hm hsame => ?_) rfl
  exact (shelf_of_answers hm (absent_of_opens hw.opens hloaded e he).2).trans hsame

/-- The quarantine is there after a reconcile that has not let it go, with the same request. -/
theorem stays (hshelf : w.scene.shelf.Distinct) (hloaded : loaded h = some q)
    (hkept : ∀ e ∈ h, ∀ q', e.1 ≠ .store (.removeFinalizer q')) :
    ∃ p, stored ns name w'.scene = some p ∧ p.spec = q.spec ∧
      (q.hasFinalizer = false → p.observedNodes = q.observedNodes) := by
  have hstored := stored_of_loaded hw.opens hw.answers hloaded
  rcases visits_reconcile (visits_of_follows hw.opens hw.answers) with hsame | ⟨q', hq', hmoment⟩
  · exact ⟨q, by rw [hsame]; exact hstored, rfl, fun _ => rfl⟩
  · cases hstored.symm.trans hq'
    obtain ⟨hspec, hfree⟩ := stored_of_moment hshelf hstored hmoment
    cases hheld : q.hasFinalizer with
    | false =>
      obtain ⟨p, hp, hrecords⟩ := hfree hheld
      exact ⟨p, hp, hspec p hp, fun _ => hrecords⟩
    | true =>
      -- The store holds on to the quarantine for as long as the finalizer is not taken off.
      have hholds := hw.takes.follows.keeps (P := fun t => t.holds (ns ++ "/" ++ name) = true)
        (fun e he _ _ hm => holds_of_replies hm (hkept e he))
        (Shelf.holds_iff.2 ⟨q, hstored, hheld⟩)
      obtain ⟨p, hp, -⟩ := Shelf.holds_iff.1 hholds
      exact ⟨p, hp, hspec p hp, nofun⟩

/-- When a node is given up, and is not asked for any more, a pod is left for it only if it was
there before and was not recalled. -/
theorem left_of_givenUp (hothers : ∀ c d, others c d → c.Distinct → d.Distinct)
    (hdistinct : w.scene.cluster.Distinct) (hloaded : loaded h = some q) {u : Target}
    (hu : u ∈ (new q timing.nodeTimeout).visited) (hgiven : GivenUp u h)
    (hnew : q.isDeleting = false → ∀ n ∈ q.spec.nodes, n.name ≠ u.name)
    (hown : w'.pods identity = some u.name) :
    w.pods identity = some u.name ∧ ¬ PodRecalled ns name identity u.name w.scene := by
  refine ⟨?_, fun ⟨q', hq', _, hidentity⟩ => ?_⟩
  · rcases hw.gained hown with hbefore | ⟨q', hloaded', hlive, ⟨n, hn, hname⟩, -⟩
    · exact hbefore
    · cases hloaded.symm.trans hloaded'
      exact absurd hname (hnew hlive n hn)
  · cases (stored_of_loaded hw.opens hw.answers hloaded).symm.trans hq'
    exact hw.lost_of_givenUp hothers hdistinct hloaded hu hgiven hnew (hidentity ▸ hown)

/-- When the controller is done with a node, a pod is left for it only if it was there before and
was not recalled. -/
theorem left_of_partsWith (hothers : ∀ c d, others c d → c.Distinct → d.Distinct)
    (hshelf : w.scene.shelf.Distinct) (hdistinct : w.scene.cluster.Distinct)
    (hparts : PartsWith timing ns name w h w' node) (hown : w'.pods identity = some node) :
    w.pods identity = some node ∧ ¬ PodRecalled ns name identity node w.scene := by
  have hunnamed : ∀ {q : Quarantine} {u : Target}, u ∈ (new q timing.nodeTimeout).marked →
      ∀ n ∈ q.spec.nodes, n.name ≠ u.name := by
    intro q u hu
    obtain ⟨o, -, hdropped, rfl⟩ := mem_marked_new.1 hu
    exact hdropped
  cases hparts with
  | dropped q u hloaded hu hname hgiven =>
    subst hname
    exact hw.left_of_givenUp hothers hdistinct hloaded (List.mem_append_right _ hu) hgiven
      (fun _ => hunnamed hu) hown
  | unrecorded o hname hloses =>
    subst hname
    obtain ⟨q, u, hloaded, -, -, -, hnode, hname, hgiven⟩ :=
      givenUp_of_loses hshelf hw.takes hloses
    rw [← hname] at hown ⊢
    refine hw.left_of_givenUp hothers hdistinct hloaded
      (List.mem_append.2 (hnode.imp_left And.right)) hgiven (fun hlive => ?_) hown
    rcases hnode with ⟨hdeleting, -⟩ | hmarked
    · cases hlive.symm.trans hdeleting
    · exact hunnamed hmarked
  | released q hgo =>
    obtain ⟨hloaded, hdeleting, -, load, during, l, answer, heq, hstop⟩ := hgo
    refine ⟨?_, fun hrecalled => ?_⟩
    · rcases hw.gained hown with hbefore | ⟨q', hloaded', hlive, -⟩
      · exact hbefore
      · cases hloaded.symm.trans hloaded'
        cases hlive.symm.trans hdeleting
    · -- A pod that is recalled is one of a node that the stop has given up.
      obtain ⟨q', hq', hknown, -⟩ := id hrecalled
      cases (stored_of_loaded hw.opens hw.answers hloaded).symm.trans hq'
      obtain ⟨u, hu, rfl⟩ := List.mem_map.1 ((known_iff_visited timing.nodeTimeout).1 hknown)
      have hgiven : GivenUp u h :=
        (givenUp_of_stop hstop u hu).within ⟨[load], [_], by rw [heq]; rfl⟩
      refine (hw.left_of_givenUp hothers hdistinct hloaded hu hgiven (fun hlive => ?_) hown).2
        hrecalled
      cases hlive.symm.trans hdeleting

/-- Pods that are recalled stay recalled, or are gone. -/
theorem recalled (hothers : ∀ c d, others c d → c.Distinct → d.Distinct)
    (hshelf : w.scene.shelf.Distinct) (hdistinct : w.scene.cluster.Distinct)
    (hrecalled : PodsRecalled ns name w) : PodsRecalled ns name w' := by
  intro identity node hown
  -- A pod that is there now was recalled before, or has just been created where the request says.
  have hrecalls : PodRecalled ns name identity node w.scene := by
    rcases hw.gained hown with hbefore | ⟨q, hloaded, -, hnamed, hidentity⟩
    · exact hrecalled identity node hbefore
    · exact ⟨q, stored_of_loaded hw.opens hw.answers hloaded, .inl hnamed, hidentity⟩
  obtain ⟨q, hstored, hknown, rfl⟩ := id hrecalls
  cases hloaded : loaded h with
  | none => exact ⟨q, by rw [stored, hw.shelf_of_absent hloaded]; exact hstored, hknown, rfl⟩
  | some q' =>
    cases hstored.symm.trans (stored_of_loaded hw.opens hw.answers hloaded)
    by_cases hgo : ∃ q', LetsGo timing h q'
    · -- A stop leaves no pod that is recalled.
      obtain ⟨q', hgo⟩ := hgo
      exact absurd hrecalls
        (hw.left_of_partsWith hothers hshelf hdistinct (.released q' hgo) hown).2
    · obtain ⟨p, hp, hspec, hfree⟩ := hw.stays hshelf hloaded fun e he q' hremoves =>
        hgo ⟨q', letsGo_of_opens (e := ⟨timing, h⟩) hw.opens he hremoves⟩
      refine ⟨p, hp, ?_, by rw [debugPodOf, debugPodOf, hspec]⟩
      rcases hknown with hnamed | ⟨o, ho, rfl⟩
      · exact .inl (hspec ▸ hnamed)
      · -- A record that is kept keeps its node known; the pod of one that is dropped is gone.
        by_cases hkept : ∃ o' ∈ p.observedNodes, o'.name = o.name
        · exact .inr hkept
        · have hloses : (chapterOf timing w h w').Loses (ns ++ "/" ++ name) o :=
            ⟨q, p, hstored, hp, ho, fun o' ho' hname => hkept ⟨o', ho', hname⟩⟩
          exact absurd hrecalls
            (hw.left_of_partsWith hothers hshelf hdistinct (.unrecorded o rfl hloses) hown).2

end Watched

/-! ## Vigils -/

/-- A run under watch: reconciles of one quarantine, any of which may be broken off, while others
change the cluster and edit the request between the reconciles.  Each edit ends in a watch of which
`edits` holds. -/
inductive Vigil (others : ClusterState → ClusterState → Prop) (edits : Watch → Prop)
    (ns name : String) (w₀ : Watch) : Watch → Prop
  | start : Vigil others edits ns name w₀ w₀
  | edited {w : Watch} {shelf : Shelf} : Vigil others edits ns name w₀ w →
      Shelf.Spares (ns ++ "/" ++ name) w.scene.shelf shelf →
      edits ⟨w.scene.withShelf shelf, w.pods⟩ →
      Vigil others edits ns name w₀ ⟨w.scene.withShelf shelf, w.pods⟩
  | drifted {w : Watch} {s : Scene} : Vigil others edits ns name w₀ w →
      Drifted others w.scene s → Vigil others edits ns name w₀ (w.moved s)
  | reconciled {w w' : Watch} {timing : Timing} {h : Dialogue Effects} :
      Vigil others edits ns name w₀ w → Watched others timing ns name w h w' →
      Vigil others edits ns name w₀ w'

variable {edits edits' : Watch → Prop} {w₀ : Watch}

theorem Vigil.mono (hv : Vigil others edits ns name w₀ w) (h : ∀ w, edits w → edits' w) :
    Vigil others edits' ns name w₀ w := by
  induction hv with
  | start => exact .start
  | edited _ hspares hedits ih => exact .edited ih hspares (h _ hedits)
  | drifted _ hdrift ih => exact .drifted ih hdrift
  | reconciled _ hw ih => exact .reconciled ih hw

theorem distinct_of_vigil (hothers : ∀ c d, others c d → c.Distinct → d.Distinct)
    (hshelf : w₀.scene.shelf.Distinct) (hcluster : w₀.scene.cluster.Distinct)
    (hv : Vigil others edits ns name w₀ w) :
    w.scene.shelf.Distinct ∧ w.scene.cluster.Distinct := by
  induction hv with
  | start => exact ⟨hshelf, hcluster⟩
  | edited _ hspares _ ih => exact ⟨hspares.distinct ih.1, ih.2⟩
  | drifted _ hdrift ih =>
    refine ⟨?_, distinct_of_drifted hothers hdrift ih.2⟩
    rw [Watch.moved, shelf_of_drifted hdrift]
    exact ih.1
  | reconciled _ hw ih =>
    exact ⟨hw.takes.follows.keeps (P := Shelf.Distinct)
      (fun _ _ _ _ hm => distinct_of_replies hm) ih.1,
      distinct_of_follows hothers hw.follows ih.2⟩

/-- Pods are recalled throughout if every edit leaves them recalled. -/
theorem podsRecalled_of_vigil (hothers : ∀ c d, others c d → c.Distinct → d.Distinct)
    (hshelf : w₀.scene.shelf.Distinct) (hcluster : w₀.scene.cluster.Distinct)
    (hstart : PodsRecalled ns name w₀) (hv : Vigil others (PodsRecalled ns name) ns name w₀ w) :
    PodsRecalled ns name w := by
  induction hv with
  | start => exact hstart
  | edited _ _ hedits => exact hedits
  | drifted _ hdrift ih =>
    intro identity node hown
    obtain ⟨q, hq, hknown⟩ := ih identity node (of_standing hown).2
    exact ⟨q, by rw [stored, Watch.moved, shelf_of_drifted hdrift]; exact hq, hknown⟩
  | reconciled hv hw ih =>
    obtain ⟨hs, hc⟩ := distinct_of_vigil hothers hshelf hcluster hv
    exact hw.recalled hothers hs hc ih

/-- When a node is given up after it has been dropped, when its record is dropped and when the
quarantine is let go, a debug pod of the controller's is left only if it was there before, and
either the node was not known then or the request said that the pod is elsewhere.  So none is left
if every edit leaves the pods recalled, and then at every moment the controller has debug pods only
for nodes that are known. -/
theorem debug_pods_recalled (hothers : ∀ c d, others c d → c.Distinct → d.Distinct)
    (hshelf : w₀.scene.shelf.Distinct) (hcluster : w₀.scene.cluster.Distinct) :
    (∀ w, Vigil others (fun _ => True) ns name w₀ w → ∀ timing h w',
      Watched others timing ns name w h w' → ∀ identity node,
      PartsWith timing ns name w h w' node → w'.pods identity = some node →
      w.pods identity = some node ∧ ¬ PodRecalled ns name identity node w.scene) ∧
    (PodsRecalled ns name w₀ → ∀ w, Vigil others (PodsRecalled ns name) ns name w₀ w →
      PodsRecalled ns name w ∧ ∀ timing h w', Watched others timing ns name w h w' →
        ∀ identity node, PartsWith timing ns name w h w' node →
          w'.pods identity ≠ some node) := by
  constructor
  · intro w hv timing h w' hw identity node hparts hown
    obtain ⟨hs, hc⟩ := distinct_of_vigil hothers hshelf hcluster hv
    exact hw.left_of_partsWith hothers hs hc hparts hown
  · intro hstart w hv
    have hrecalled := podsRecalled_of_vigil hothers hshelf hcluster hstart hv
    refine ⟨hrecalled, fun timing h w' hw identity node hparts hown => ?_⟩
    obtain ⟨hs, hc⟩ := distinct_of_vigil hothers hshelf hcluster hv
    obtain ⟨hbefore, hnot⟩ := hw.left_of_partsWith hothers hs hc hparts hown
    exact hnot (hrecalled identity node hbefore)

namespace Sample

/-- Asks for nodes, with debug pods in a namespace. -/
def debugged (namespaceName : String) (nodes : List NodeSpec) : QuarantineSpec :=
  { request nodes with debug := ⟨true, "busybox", namespaceName⟩ }

/-- The reconcile of the sample quarantine, under watch. -/
def overheard (w : Watch) : Dialogue Effects :=
  (reconcile Sample.timing (some "ns") "m").run.transcript Watch.answer w

def afterwards (w : Watch) : Watch :=
  ((reconcile Sample.timing (some "ns") "m").run.run Watch.answer w).2

theorem watched_afterwards (w : Watch) :
    Watched nobody Sample.timing "ns" "m" w (overheard w) (afterwards w) where
  opens := ⟨[], _, by rw [List.append_nil]; exact Program.speaks_transcript _ _ w⟩
  follows := follows_transcript (tracks_answer nobody) _ w

def altered (w : Watch) (spec : QuarantineSpec) : Watch :=
  ⟨respecified "ns" "m" w.scene spec, w.pods⟩

/-- A node with a debug pod is asked for. -/
def staffing : Watch := altered ⟨start [], fun _ => none⟩ (debugged "lab" [ask "w1" true []])

/-- The node has its debug pod. -/
def staffed : Watch := afterwards (afterwards staffing)

/-- The node is dropped. -/
def vacated : Watch := altered staffed (debugged "lab" [])

/-- The node is dropped, and the debug pods are to be in another namespace. -/
def relocated : Watch := altered staffed (debugged "den" [])

theorem vigil_altered {edits : Watch → Prop} (spec : QuarantineSpec)
    (hedit : edits (altered staffed spec)) :
    Vigil nobody edits "ns" "m" staffing (altered staffed spec) :=
  .edited (.reconciled (.reconciled .start (watched_afterwards _)) (watched_afterwards _))
    (Shelf.spares_respecify _ _) hedit

theorem partsWith_of_lookup
    (hbefore : (w.scene.shelf.lookup "ns/m").map (·.observedNodes) = some [⟨"w1", true, []⟩])
    (hafter : ((afterwards w).scene.shelf.lookup "ns/m").map (·.observedNodes) = some []) :
    PartsWith Sample.timing "ns" "m" w (overheard w) (afterwards w) "w1" :=
  .unrecorded _ rfl (loses_of_lookup hbefore hafter)

end Sample

open Sample in
/-- A node that is dropped loses its debug pod. -/
theorem debug_pods_recalled_of_vacated :
    vacated.pods "lab/quarantine-debug-w1" = some "w1" ∧
    ∀ identity, (afterwards vacated).pods identity ≠ some "w1" := by
  have hall := (@debug_pods_recalled nobody "ns" "m" staffing (fun _ _ h => h.elim)
    (List.nodup_singleton _) List.nodup_nil).2 fun _ _ h => nomatch h
  have hstaffed : PodsRecalled "ns" "m" staffed :=
    (hall _ (.reconciled (.reconciled .start (watched_afterwards _)) (watched_afterwards _))).1
  have hvacated : PodsRecalled "ns" "m" vacated := by
    have hone : ∀ q ∈ staffed.scene.shelf.lookup "ns/m", q.spec.debug.namespaceName = "lab" ∧
        (∀ n ∈ q.spec.nodes, n.name = "w1") ∧ ∃ o ∈ q.observedNodes, o.name = "w1" := by
      decide +kernel
    refine podsRecalled_of_edit hstaffed fun q hq => ?_
    obtain ⟨hlab, hnodes, hrecord⟩ := hone q hq
    refine ⟨{ q with spec := debugged "lab" [] }, Shelf.lookup_edited (fun _ => rfl) hq,
      hlab.symm, fun node hknown => ?_⟩
    rcases hknown with ⟨n, hn, rfl⟩ | hrecorded
    · exact .inr (hnodes n hn ▸ hrecord)
    · exact .inr hrecorded
  exact ⟨by decide +kernel, fun identity =>
    (hall _ (vigil_altered _ hvacated)).2 _ _ _ (watched_afterwards _) identity _
      (partsWith_of_lookup (by decide +kernel) (by decide +kernel))⟩

open Sample in
/-- A debug pod is left if an edit drops its node and changes the namespace for debug pods. -/
theorem not_debug_pods_recalled : ¬ ∀ w₀ w : Watch, w₀.scene.shelf.Distinct →
    w₀.scene.cluster.Distinct → (∀ identity, w₀.pods identity = none) →
    Vigil nobody (fun _ => True) "ns" "m" w₀ w → ∀ timing h w',
    Watched nobody timing "ns" "m" w h w' → ∀ identity node,
    PartsWith timing "ns" "m" w h w' node → w'.pods identity ≠ some node := by
  intro h
  have hleft : (afterwards relocated).pods "lab/quarantine-debug-w1" = some "w1" := by
    decide +kernel
  have hparts : PartsWith Sample.timing "ns" "m" relocated (overheard relocated)
      (afterwards relocated) "w1" := partsWith_of_lookup (by decide +kernel) (by decide +kernel)
  exact h staffing relocated (List.nodup_singleton _) List.nodup_nil (fun _ => rfl)
    (vigil_altered _ trivial) _ _ _ (watched_afterwards _) _ _ hparts hleft

end Controller

end Cordon
