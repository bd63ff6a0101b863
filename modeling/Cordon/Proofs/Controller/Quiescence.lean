import Cordon.Proofs.Controller.Course
import Cordon.Proofs.Controller.Run
import Cordon.Proofs.Lifecycle.Records
import Cordon.Proofs.Quarantine.Conditions

/-! # Reconciles come to rest

A quarantine that is reconciled over and over, while all steps on nodes succeed and the store does
what it is told, comes to rest: each reconcile of a quarantine in place brings one more node into
shape, and once all are, a reconcile neither calls the cluster nor writes to the store
(`converges_and_rests`).

This needs that the status says what the next reconcile will find.  `Tidied` says so, and holds from
the first reconcile on.
-/

namespace Cordon.Controller

open Lifecycle (new settle settled)

variable {ns name : String} {s t : Shelf} {h : Dialogue Effects} {p q : Quarantine} {timeout : Nat}

/-! ## Statuses that the controller has written -/

theorem activeCondition_written (observed : List ObservedNode) (status : ConditionStatus)
    (reason message now : String) : ∃ time,
    (written q observed status reason message now).activeCondition =
      some ⟨Convention.activeCondition, status, reason, message, time⟩ :=
  ⟨_, QuarantineStatus.find?_putActive (by simp [QuarantineStatus.isActiveCondition]) _⟩

/-- There is no status, or the controller was the last to write it: it says that the quarantine is
in place, or which step has failed. -/
def LastWritten (q : Quarantine) : Prop :=
  q.status = none ∨ ∃ before observed status reason message now,
    q.status = some (written before observed status reason message now) ∧
      (status = .isTrue ∧ reason = Convention.runningReason ∧
        message = Convention.runningMessage ∨ status = .isFalse)

theorem differsFrom_of_lastWritten (hq : LastWritten q) (hactive : q.isActive = false)
    (observed : List ObservedNode) :
    (q.status.getD .blank).differsFrom .isTrue Convention.runningMessage observed = true := by
  rcases hq with hnone | ⟨before, kept, status, reason, message, now, hq, hsays⟩
  · rw [hnone]
    rfl
  · obtain ⟨time, hcondition⟩ :=
      activeCondition_written (q := before) kept status reason message now
    rw [hq, Option.getD_some, QuarantineStatus.differsFrom, hcondition]
    rcases hsays with ⟨rfl, rfl, rfl⟩ | rfl
    · simp [Quarantine.isActive, hq, QuarantineStatus.isActive, hcondition] at hactive
    · rfl

/-! ## What the next reconcile finds -/

/-- The number of nodes of the request that are not in the shape that is on record. -/
def unshaped (q : Quarantine) : Nat := (new q 0).nodes.countP (new q 0).hasChanged

/-- The quarantine is in place, nothing is on record of other nodes, and the status says already
what a reconcile would write that finds nothing to do. -/
structure Tidied (q : Quarantine) : Prop where
  active : q.isActive = true
  marked : (new q 0).marked = []
  same : (q.status.getD .blank).differsFrom .isTrue Convention.runningMessage
    (new q 0).observedNodes = false

theorem observedNodes_getD (q : Quarantine) :
    (q.status.getD .blank).observedNodes = q.observedNodes := by
  unfold Quarantine.observedNodes
  cases q.status <;> rfl

theorem unshaped_le (q : Quarantine) : unshaped q ≤ q.spec.nodes.length :=
  (List.countP_le_length).trans (by simp [new])

section Reloaded

variable (hnodes : (q.spec.nodes.map (·.name)).Nodup) (hspec : p.spec = q.spec)
  (hrecords : p.observedNodes = (new q timeout).settled.observedNodes)

include hnodes hspec hrecords

theorem reloaded : (new p 0).nodes = (new q timeout).nodes ∧ (new p 0).marked = [] ∧
    (∀ n ∈ (new q timeout).nodes, (new p 0).records.get? n.name =
      (new q timeout).settled.records.get? n.name) ∧
    (new p 0).observedNodes = p.observedNodes := by
  have hnames : ((new q timeout).nodes.map (·.name)).Nodup := by
    rw [Lifecycle.names_new]
    exact hnodes
  have hsame : (new p 0).nodes = (new q timeout).nodes := by
    show p.spec.nodes.map _ = q.spec.nodes.map _
    rw [hspec]
  have hnamed : ∀ n ∈ (new q timeout).nodes, ∀ o,
      (new q timeout).settled.records.get? n.name = some o → o.name = n.name := by
    intro n hn o ho
    obtain ⟨hattended, hleft⟩ := (Lifecycle.records_settled
      (fun _ hu _ hn => Lifecycle.ne_of_mem_marked_new hu hn) hnames).1 n hn
    by_cases hattends : (new q timeout).Attends n
    · cases (hattended hattends).symm.trans ho
      rfl
    · rw [hleft hattends] at ho
      exact (Lifecycle.mem_of_get?_records_new ho).2
  rw [Lifecycle.observedNodes_settled
    (fun _ hu _ hn => Lifecycle.ne_of_mem_marked_new hu hn) hnames] at hrecords
  have hget : ∀ n ∈ (new q timeout).nodes, (new p 0).records.get? n.name =
      (new q timeout).settled.records.get? n.name := by
    intro n hn
    show (Dict.ofList (p.observedNodes.map _)).get? n.name = _
    rw [hrecords]
    exact Lifecycle.get?_ofList_filterMap hnamed hnames hn
  have hmarked : (new p 0).marked = [] := by
    refine List.eq_nil_iff_forall_not_mem.2 fun u hu => ?_
    obtain ⟨o, ho, hdropped, -⟩ := Lifecycle.mem_marked_new.1 hu
    rw [hrecords] at ho
    obtain ⟨n, hn, hget⟩ := List.mem_filterMap.1 ho
    obtain ⟨m, hm, rfl⟩ := Lifecycle.mem_nodes_new.1 hn
    exact hdropped m (hspec ▸ hm) (hnamed _ hn o hget).symm
  refine ⟨hsame, hmarked, hget, ?_⟩
  rw [Lifecycle.observedNodes, hmarked, hsame, hrecords, List.filterMap_nil, List.append_nil]
  exact List.filterMap_congr hget

/-- One less node has changed, if the quarantine was in place; else none has any more. -/
theorem unshaped_reloaded : unshaped p = if q.isActive then unshaped q - 1 else 0 := by
  obtain ⟨hsame, -, hget, -⟩ := reloaded hnodes hspec hrecords
  have hcount := Lifecycle.countP_hasChanged_settled (l := new q timeout)
    (fun _ hu _ hn => Lifecycle.ne_of_mem_marked_new hu hn)
    (by rw [Lifecycle.names_new]; exact hnodes) fun n hn k hk => by
      obtain ⟨m, -, rfl⟩ := Lifecycle.mem_nodes_new.1 hn
      exact Lifecycle.hasChanged_of_recorded hk
  unfold unshaped
  rw [hsame]
  refine Eq.trans (List.countP_congr fun n hn => ?_) hcount
  rw [Lifecycle.hasChanged, Lifecycle.hasChanged, hget n hn]

end Reloaded

/-! ## Rounds -/

/-- A reconcile in which no step on a node fails and no call to the store does. -/
structure Round (ns name : String) (s : Shelf) (h : Dialogue Effects) (t : Shelf) : Prop where
  ends : ∃ timing r, (reconcile timing (some ns) name).run.Speaks h r ∧
    ∀ e, r = .error e → e.inStep = false
  stores : Follows Obeys s h t

def Rounds (ns name : String) : Shelf → List (Dialogue Effects) → Shelf → Prop
  | s, [], t => t = s
  | s, h :: later, t => ∃ m, Round ns name s h m ∧ Rounds ns name m later t

def Quiet (h : Dialogue Effects) : Prop :=
  ∀ e ∈ h, e.1.onCluster = false ∧ e.1.onStore = false

theorem eq_of_inSteps (hsteps : ∀ e ∈ h, e.1.inStep = true) (hf : Follows Obeys s h t) : t = s := by
  refine hf.keeps (P := (· = s)) (fun e he d m hd heq => ?_) rfl
  have hstep := hsteps e he
  obtain ⟨r, answer⟩ := e
  cases r with
  | store c => cases hstep
  | cluster r | arm limit | disarm | now => exact (show m = d from hd).trans heq

structure Loaded (ns name : String) (s : Shelf) (q : Quarantine) : Prop where
  stored : s.lookup (ns ++ "/" ++ name) = some q
  live : q.isDeleting = false
  held : q.hasFinalizer = true
  nodes : (q.spec.nodes.map (·.name)).Nodup

def told (q : Quarantine) (timeout : Nat) (now : String) : Quarantine :=
  { q with
    status := some (written q (new q timeout).settled.observedNodes .isTrue
      Convention.runningReason Convention.runningMessage now) }

theorem lookup_told (hq : s.lookup (ns ++ "/" ++ name) = some q) (hheld : q.hasFinalizer = true)
    (status : QuarantineStatus) :
    (s.perform (.updateStatus q status)).2.lookup (ns ++ "/" ++ name) =
      some { q with status := some status } := by
  have hname := Shelf.requestName_of_lookup hq
  rw [← hname] at hq ⊢
  exact (Shelf.lookup_changeStored_of_stays (f := fun q => { q with status := some status })
    (fun _ => rfl) hq (not_mayLeave hheld)).2

structure Rounded (ns name : String) (q : Quarantine) (t : Shelf) (p : Quarantine) : Prop where
  loaded : Loaded ns name t p
  spec : p.spec = q.spec
  tidied : Tidied p
  unshaped : unshaped p = if q.isActive then unshaped q - 1 else 0

/-- A pass over a tidied quarantine that finds no node changed asks nothing. -/
theorem eq_nil_of_tidied {during : Dialogue Effects} {l : Lifecycle} (hq : Tidied q)
    (hzero : unshaped q = 0)
    (hpass : (settle q.isActive).Says (new q timeout) during (.ok ()) l) :
    during = [] ∧ l.observedNodes = (new q 0).observedNodes := by
  have hfirst : (new q timeout).firstChanged = none :=
    List.find?_eq_none.2 (List.countP_eq_zero.1 hzero)
  have hphase : (new q timeout).phase = .active := congrArg Phase.ofActive hq.active
  rw [hq.active] at hpass
  exact Lifecycle.says_update_unchanged (l := new q timeout) hphase hq.marked hfirst hpass

/-- The status that says that a quarantine is in place, with the records of the pass. -/
theorem tidied_of_written {observed : List ObservedNode} {now : String}
    (hstatus : p.status = some (written q observed .isTrue Convention.runningReason
      Convention.runningMessage now))
    (hmarked : (new p 0).marked = []) (hsame : (new p 0).observedNodes = observed) :
    Tidied p := by
  obtain ⟨time, hcondition⟩ := activeCondition_written (q := q) observed .isTrue
    Convention.runningReason Convention.runningMessage now
  refine ⟨?_, hmarked, ?_⟩
  · simp [Quarantine.isActive, hstatus, QuarantineStatus.isActive, hcondition]
  · rw [hsame, hstatus, Option.getD_some, QuarantineStatus.differsFrom, hcondition]
    simp [written]

theorem rounded_of_round (hq : Loaded ns name s q)
    (hlast : q.isActive = false → ∀ observed,
      (q.status.getD .blank).differsFrom .isTrue Convention.runningMessage observed = true)
    (hround : Round ns name s h t) : ∃ p, Rounded ns name q t p ∧
      (Tidied q → unshaped q = 0 → Quiet h) := by
  obtain ⟨⟨timing, r, hs, hr⟩, hstores⟩ := hround
  obtain ⟨answer, rest, rfl, hcourse⟩ := speaks_reconcile hs
  obtain ⟨m, ⟨hanswer, rfl⟩, hrest⟩ := hstores
  have hfound : answer = .ok (some q) := hanswer.trans (congrArg Except.ok hq.stored)
  subst hfound
  rcases hcourse with ⟨hnone, -⟩ | ⟨_, heq, hcourse⟩
  · exact absurd rfl (hnone q)
  cases heq
  have hgives : ∀ {during l},
      (settle q.isActive).Says (new q timing.nodeTimeout) during (.ok ()) l →
      l = (new q timing.nodeTimeout).settled := fun hpass => gives_settle_new _ _ _ hpass
  cases hcourse with
  | left hdeleting => simp [hq.live] at hdeleting
  | held _ hfree => simp [hq.held] at hfree
  | released hdeleting => simp [hq.live] at hdeleting
  | kept _ _ during l hpass hsame =>
    have ht := eq_of_inSteps (inSteps_settle_new _ _ _ hpass).1 hrest
    have hrecords : q.observedNodes = l.observedNodes := by
      rw [← observedNodes_getD]
      simp only [QuarantineStatus.differsFrom, Bool.or_eq_false_iff, bne_eq_false_iff_eq] at hsame
      exact hsame.2
    have hactive : q.isActive = true := by
      cases hactive : q.isActive with
      | true => rfl
      | false => exact absurd ((hlast hactive _).symm.trans hsame) (by decide)
    obtain rfl := hgives hpass
    obtain ⟨-, hmarked, -, hloaded⟩ := reloaded hq.nodes rfl hrecords
    refine ⟨q, ⟨ht ▸ hq, rfl, ⟨hactive, hmarked, ?_⟩, ?_⟩, fun htidied hzero => ?_⟩
    · rw [hloaded, hrecords]
      exact hsame
    · exact unshaped_reloaded hq.nodes rfl hrecords
    · obtain ⟨rfl, -⟩ := eq_nil_of_tidied htidied hzero hpass
      intro e he
      cases List.mem_singleton.1 he
      exact ⟨rfl, rfl⟩
  | told _ _ during l now answer _ hpass hdiffers =>
    obtain ⟨d, hduring, hwriting⟩ := follows_append.1 hrest
    cases eq_of_inSteps (inSteps_settle_new _ _ _ hpass).1 hduring
    obtain ⟨_, rfl, _, ⟨-, rfl⟩, rfl⟩ := hwriting
    obtain rfl := hgives hpass
    obtain ⟨-, hmarked, -, hloaded⟩ :=
      reloaded (p := told q timing.nodeTimeout now) hq.nodes rfl rfl
    refine ⟨told q timing.nodeTimeout now,
      ⟨⟨lookup_told hq.stored hq.held _, hq.live, hq.held, hq.nodes⟩, rfl,
      tidied_of_written rfl hmarked hloaded, unshaped_reloaded hq.nodes rfl rfl⟩, ?_⟩
    -- A tidied quarantine in which nothing has changed gets the status that it has.
    intro htidied hzero
    rw [(eq_nil_of_tidied htidied hzero hpass).2, htidied.same] at hdiffers
    cases hdiffers
  | failed _ during behind l e hpass =>
    have hstep := (inSteps_task _ _ _ hpass).2 e rfl
    exact absurd (hstep.symm.trans (hr e rfl)) (by decide)

/-! ## The way to rest -/

/-- A tidied quarantine has one changed node less after each round, and rests once it has none. -/
theorem rests_of_tidied {hs : List (Dialogue Effects)} (hq : Loaded ns name s q)
    (htidied : Tidied q) (hrounds : Rounds ns name s hs t) :
    (∃ p, Loaded ns name t p ∧ p.spec = q.spec ∧ p.isActive = true ∧
      unshaped p = unshaped q - hs.length) ∧
    ∀ (i : Nat) h, hs[i]? = some h → unshaped q ≤ i → Quiet h := by
  induction hs generalizing s q with
  | nil =>
    cases hrounds
    exact ⟨⟨q, hq, rfl, htidied.active, rfl⟩, by simp⟩
  | cons h later ih =>
    obtain ⟨m, hround, hlater⟩ := hrounds
    obtain ⟨p, hp, hquiet⟩ := rounded_of_round hq
      (fun hidle => absurd (hidle.symm.trans htidied.active) Bool.false_ne_true) hround
    have hchanged := hp.unshaped
    rw [if_pos htidied.active] at hchanged
    obtain ⟨⟨p', hp', hspec, hactive, hdrops⟩, hrest⟩ := ih hp.loaded hp.tidied hlater
    refine ⟨⟨p', hp', hspec.trans hp.spec, hactive, ?_⟩, fun i d hi hle => ?_⟩
    · rw [hdrops, hchanged, List.length_cons]
      omega
    · cases i with
      | zero =>
        cases hi
        exact hquiet htidied (by omega)
      | succ i => exact hrest i d hi (by omega)

/-- Each round brings one more node into shape while the quarantine is in place, and a single one
brings all of them into shape if it is not in place yet.  After as many rounds as there are nodes,
and after at least one, every further round neither calls the cluster nor writes to the store. -/
theorem converges_and_rests {hs : List (Dialogue Effects)} (hq : Loaded ns name s q)
    (hlast : LastWritten q) (hrounds : Rounds ns name s hs t) :
    (∃ p, Loaded ns name t p ∧ p.spec = q.spec ∧ (hs ≠ [] → p.isActive = true) ∧
      unshaped p = if q.isActive = true ∨ hs = [] then unshaped q - hs.length else 0) ∧
    ∀ (i : Nat) h, hs[i]? = some h → max 1 q.spec.nodes.length ≤ i → Quiet h := by
  cases hs with
  | nil =>
    cases hrounds
    exact ⟨⟨q, hq, rfl, by simp, by simp⟩, by simp⟩
  | cons h later =>
    obtain ⟨m, hround, hlater⟩ := hrounds
    obtain ⟨p, hp, -⟩ := rounded_of_round hq (fun hidle => differsFrom_of_lastWritten hlast hidle)
      hround
    obtain ⟨⟨p', hp', hspec, hactive, hdrops⟩, hrest⟩ :=
      rests_of_tidied hp.loaded hp.tidied hlater
    have hchanged := hp.unshaped
    have hfew := unshaped_le q
    refine ⟨⟨p', hp', hspec.trans hp.spec, fun _ => hactive, ?_⟩, fun i d hi hle => ?_⟩
    · rw [hdrops, hchanged]
      cases q.isActive with
      | true =>
        simp only [if_true, true_or, List.length_cons]
        omega
      | false => simp
    · obtain ⟨i, rfl⟩ : ∃ j, i = j + 1 := ⟨i - 1, by omega⟩
      refine hrest i d hi ?_
      rw [hchanged]
      split <;> omega

/-! ## A small example -/

theorem round_undisturbed {timing : Timing} {s : Scene} {next : Next}
    (hok : (undisturbed timing ns name s).1 = .ok next) :
    Round ns name s.shelf ((reconcile timing (some ns) name).run.transcript Scene.answer s)
      (undisturbed timing ns name s).2.shelf := by
  refine ⟨⟨timing, _, Program.speaks_transcript _ _ s, fun e he => ?_⟩, follows_obeys _ s⟩
  cases hok.symm.trans he

namespace Sample

/-- Two nodes are in place when they are to be isolated as well. -/
def tightened : Scene :=
  asked (reconciled (reconciled (start [ask "w1" false [], ask "w2" false []])))
    [ask "w1" true [], ask "w2" true []]

def said (s : Scene) : Dialogue Effects :=
  (reconcile timing (some "ns") "m").run.transcript Scene.answer s

theorem rounds_tightened : Rounds "ns" "m" tightened.shelf
    [said tightened, said (reconciled tightened), said (reconciled (reconciled tightened))]
    (reconciled (reconciled (reconciled tightened))).shelf := by
  have hround : ∀ s, (undisturbed timing "ns" "m" s).1 = .ok (.requeue 1000) →
      Round "ns" "m" s.shelf (said s) (reconciled s).shelf := fun s hok => round_undisturbed hok
  exact ⟨_, hround _ (by decide +kernel), _, hround _ (by decide +kernel),
    _, hround _ (by decide +kernel), rfl⟩

end Sample

open Sample in
/-- Two rounds bring the two nodes into shape, and the third one is at rest. -/
theorem converges_and_rests_of_tightened : ∃ q p, Loaded "ns" "m" tightened.shelf q ∧
    unshaped q = 2 ∧
    Loaded "ns" "m" (reconciled (reconciled (reconciled tightened))).shelf p ∧ unshaped p = 0 ∧
    Quiet (said (reconciled (reconciled tightened))) := by
  have hstored : (stored "ns" "m" tightened).any (fun q => decide (q.isDeleting = false ∧
      q.hasFinalizer = true ∧ (q.spec.nodes.map (·.name)).Nodup ∧ q.isActive = true ∧
      q.spec.nodes.length = 2 ∧ unshaped q = 2 ∧
      q.status = some (written q q.observedNodes .isTrue Convention.runningReason
        Convention.runningMessage ""))) = true := by decide +kernel
  obtain ⟨q, hq, hdecided⟩ := (Option.any_eq_true _ _).1 hstored
  obtain ⟨hlive, hheld, hnodes, hactive, htwo, hchanged, hstatus⟩ := of_decide_eq_true hdecided
  have hloaded : Loaded "ns" "m" tightened.shelf q := ⟨hq, hlive, hheld, hnodes⟩
  have hlast : LastWritten q := .inr ⟨_, _, _, _, _, _, hstatus, .inl ⟨rfl, rfl, rfl⟩⟩
  obtain ⟨⟨p, hp, -, -, hzero⟩, hrests⟩ := converges_and_rests hloaded hlast rounds_tightened
  refine ⟨q, p, hloaded, hchanged, hp, ?_, hrests 2 _ rfl (by omega)⟩
  rw [hzero, if_pos (.inl hactive), hchanged]
  rfl

end Cordon.Controller
