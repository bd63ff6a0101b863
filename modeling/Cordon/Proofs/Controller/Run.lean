import Cordon.Proofs.Controller.Reconcile
import Cordon.Proofs.Lifecycle.Load
import Cordon.Proofs.Quarantine.Shelf

/-! # The life of one quarantine

A `Run` is a history of one stored quarantine and its cluster: the request is edited, others change
the cluster, the controller reconciles, with whatever outcome, or is stopped in the middle of a
reconcile.  Each of these is a turn, and they come in any order and number.

Two things hold all along.  The store stays `Sound`: names tell nodes and records apart.  And a
mark that is recalled stays recalled for as long as it is the controller's own, unless an edit makes
the request forget it (`recalled_of_turn`).  The latter rests on what the passes keep, on the
records that they leave, and, once the finalizer goes, on what a stop has achieved.
-/

namespace Cordon.Controller

open Lifecycle (settle stop new)

/-! ## Turns -/

/-- What happens in a turn. -/
inductive Turn where
  | edited
  | drifted
  | reconciled (outcome : Except ControllerError Next)
  | interrupted

/-- An edit asks for other things, under names that are distinct, or for deletion, which is not
taken back.  Status and finalizers are the controller's. -/
structure Edits (q p : Quarantine) : Prop where
  nodes : (p.spec.nodes.map (·.name)).Nodup
  status : p.status = q.status
  finalizers : p.finalizers = q.finalizers
  deleting : q.isDeleting = true → p.isDeleting = true

section Turns

variable (others : ClusterState → ClusterState → Prop) (ns name : String)

/-- The quarantine that a scene has stored under the name. -/
def stored (s : Scene) : Option Quarantine := s.shelf.lookup (ns ++ "/" ++ name)

/-- One turn. -/
inductive Turns : Scene → Turn → Scene → Prop
  | edited (s : Scene) (shelf : Shelf) (q p : Quarantine) (hq : stored ns name s = some q)
      (hp : stored ns name (s.withShelf shelf) = some p) (hdistinct : shelf.Distinct)
      (hedit : Edits q p) : Turns s .edited (s.withShelf shelf)
  | drifted (s : Scene) (c : ClusterState) : Turns s .drifted (s.drift c)
  | reconciled (s t : Scene) (timing : Timing) (r : Except ControllerError Next)
      (h : Executes others (reconcile timing (some ns) name).run s r t) :
      Turns s (.reconciled r) t
  | interrupted (s t : Scene) (timing : Timing)
      (h : Visits others (reconcile timing (some ns) name).run s t) : Turns s .interrupted t

/-- A turn, with the scenes before and after it. -/
structure Move where
  before : Scene
  turn : Turn
  after : Scene

/-- A run from one scene to another, its last move first. -/
inductive Run (s₀ : Scene) : List Move → Scene → Prop
  | start : Run s₀ [] s₀
  | move {ms : List Move} {s t : Scene} {k : Turn} (hrun : Run s₀ ms s)
      (hturn : Turns others ns name s k t) : Run s₀ (⟨s, k, t⟩ :: ms) t

/-- A quarantine that has just been created, and no mark of the controller's yet. -/
structure Created (s : Scene) : Prop where
  distinct : s.shelf.Distinct
  fresh : ∃ q, stored ns name s = some q ∧ q.status = none ∧ (q.spec.nodes.map (·.name)).Nodup
  own : ∀ m, s.own m = false

/-! ## What holds all along -/

/-- The store has at most one quarantine of each name, and names tell nodes and records apart. -/
structure Sound (s : Scene) : Prop where
  distinct : s.shelf.Distinct
  proper : ∀ q, stored ns name s = some q → q.Proper

/-- A mark that is the controller's own is recalled from the store. -/
def Recalled (m : Mark) (s : Scene) : Prop :=
  s.own m = true → ∃ q, stored ns name s = some q ∧ q.Recalls m

end Turns

variable {others : ClusterState → ClusterState → Prop} {ns name : String} {s t : Scene}
  {q : Quarantine} {m : Mark} {timeout : Nat}

theorem sound_of_created (h : Created ns name s) : Sound ns name s where
  distinct := h.distinct
  proper q hq := by
    obtain ⟨q', hq', hstatus, hnodes⟩ := h.fresh
    cases hq.symm.trans hq'
    have hnone : q.observedNodes = [] := by rw [Quarantine.observedNodes, hstatus]; rfl
    exact ⟨hnodes, by rw [hnone]; exact .nil, .inr (.inr hnone)⟩

theorem recalled_of_created (h : Created ns name s) (m : Mark) : Recalled ns name m s := by
  intro hown
  rw [h.own m] at hown
  cases hown

/-! ## Passes over a stored quarantine -/

/-- What a quarantine recalls is reached by the nodes that a stop goes through. -/
theorem recalls_iff_reached : q.Recalls m ↔
    ∃ u ∈ (new q timeout).nodes ++ (new q timeout).marked, u.Reaches m := by
  constructor
  · rintro (⟨n, hn, hreach⟩ | ⟨o, ho, hdropped, hreach⟩)
    · exact ⟨_, List.mem_append_left _ (Lifecycle.mem_nodes_new.2 ⟨n, hn, rfl⟩), hreach⟩
    · refine ⟨.ofObserved o q.spec, List.mem_append_right _
        (Lifecycle.mem_marked_new.2 ⟨o, ho, hdropped, rfl⟩), ?_⟩
      exact (Target.reaches_ofObserved o q.spec m).2 hreach
  · rintro ⟨u, hu, hreach⟩
    rcases List.mem_append.1 hu with hu | hu
    · obtain ⟨n, hn, rfl⟩ := Lifecycle.mem_nodes_new.1 hu
      exact .inl ⟨n, hn, hreach⟩
    · obtain ⟨o, ho, hdropped, rfl⟩ := Lifecycle.mem_marked_new.1 hu
      exact .inr ⟨o, ho, hdropped, (Target.reaches_ofObserved o q.spec m).1 hreach⟩

theorem staysIn_task (q : Quarantine) (timeout : Nat) :
    Pass.StaysIn (Lifecycle.claims (new q timeout).nodes)
      (Lifecycle.Concerns (new q timeout).nodes (new q timeout).marked) (task q) := by
  unfold task
  split
  · refine (Lifecycle.staysIn_stop _ _).mono fun m b h hb => ?_
    rw [hb] at h
    cases h.2
  · exact Lifecycle.staysIn_settle _ _ _

/-- After a pass, the lifecycle accounts for the marks that the quarantine recalled before it. -/
theorem covers_of_task {M : Mark → Prop} {r : Except ControllerError Unit} {l : Lifecycle}
    (hq : q.Proper) (hM : ∀ m, M m → s.own m = true → q.Recalls m)
    (h : Pass.Runs others (task q) (new q timeout) s r l t) :
    Lifecycle.Covers (new q timeout).nodes (new q timeout).marked M l t := by
  have hkeeps : Pass.Keeps others
      (Lifecycle.Covers (new q timeout).nodes (new q timeout).marked M) (task q) := by
    unfold task
    split
    · exact Lifecycle.keeps_stop (Lifecycle.apart_new hq)
    · exact Lifecycle.keeps_settle (Lifecycle.apart_new hq) _
  refine hkeeps _ s r l t ⟨⟨rfl, rfl⟩, Lifecycle.tidy_new hq, fun m hm hown => ?_⟩ h
  exact (Lifecycle.accounts_new hq).2 (hM m hm hown)

/-- While a pass is under way, the controller gains no mark that the request does not reach. -/
theorem recalls_of_gained (hv : Visits others ((task q).run.run (new q timeout)) s t)
    (ht : t.own m = true) (hs : s.own m = false) : q.Recalls m := by
  rcases (reading_own others m).of_visits (staysIn_task q timeout _ ⟨rfl, rfl⟩) hv ht with h | h
  · rw [hs] at h
    cases h
  · obtain ⟨n, hn, hreach⟩ := h rfl
    exact recalls_iff_reached.2 ⟨n, List.mem_append_left _ hn, hreach⟩

theorem shelf_of_working (hv : Visits others ((task q).run.run (new q timeout)) s t) :
    t.shelf = s.shelf :=
  shelf_of_visits (staysIn_task q timeout _ ⟨rfl, rfl⟩) hv

theorem distinct_of_working (hv : Visits others ((task q).run.run (new q timeout)) s t)
    (hs : s.shelf.Distinct) : t.shelf.Distinct := by
  rw [shelf_of_working hv]
  exact hs

theorem stored_of_working {p : Option Quarantine}
    (hv : Visits others ((task q).run.run (new q timeout)) s t) (hp : stored ns name s = p) :
    stored ns name t = p := by
  rw [stored, shelf_of_working hv]
  exact hp

/-- A stop that succeeds leaves no mark that the quarantine recalls. -/
theorem not_recalls_of_stopped {l : Lifecycle} (hdeleting : q.isDeleting = true)
    (h : Pass.Runs others (task q) (new q timeout) s (.ok ()) l t) (ht : t.own m = true) :
    s.own m = true ∧ ¬ q.Recalls m := by
  rw [task, if_pos hdeleting] at h
  constructor
  · rcases Pass.gained_of_runs (reading_own others m) (Lifecycle.staysIn_stop _ _)
      ⟨rfl, rfl⟩ h ht with hs | hset
    · exact hs
    · cases hset.2
  · intro hrecalls
    have hgone := Lifecycle.not_reached_of_stop (reading_own others m)
      (recalls_iff_reached.1 hrecalls) h
    rw [hgone] at ht
    cases ht

/-! ## Moments of a reconcile -/

theorem not_mayLeave (h : q.hasFinalizer = true) : Shelf.mayLeave q = false := by
  unfold Shelf.mayLeave
  cases hf : q.finalizers with
  | nil => simp [Quarantine.hasFinalizer, hf] at h
  | cons a rest => simp

/-- What is stored after a change of the stored quarantine that does not let it go. -/
theorem stored_changed {c : StoreCall} {f : Quarantine → Quarantine} (hs : s.shelf.Distinct)
    (hq : stored ns name s = some q) (hf : ∀ q, (f q).requestName = q.requestName)
    (hstays : Shelf.mayLeave (f q) = false)
    (hc : (s.shelf.perform c).2 = (s.shelf.changeStored c (ns ++ "/" ++ name) f).2) :
    stored ns name (s.withShelf (s.shelf.perform c).2) = some (f q) := by
  have h := (Shelf.lookup_changeStored (c := c) hs hf hq).2
  rw [hstays, if_neg Bool.false_ne_true] at h
  show Shelf.lookup (s.shelf.perform c).2 _ = _
  rw [hc]
  exact h

theorem requestName_of_stored (hq : stored ns name s = some q) :
    q.requestName = ns ++ "/" ++ name := Shelf.requestName_of_lookup hq

theorem hasFinalizer_withFinalizers (q : Quarantine) :
    (Shelf.withFinalizers withFinalizer q).hasFinalizer = true := by
  show decide (Convention.finalizer ∈ withFinalizer q.finalizers) = true
  rw [decide_eq_true_eq, withFinalizer]
  split
  · assumption
  · exact List.mem_append_right _ (List.mem_singleton_self _)

theorem stored_held (hs : s.shelf.Distinct) (hq : stored ns name s = some q) :
    stored ns name (s.withShelf (s.shelf.perform (.addFinalizer q)).2) =
      some (Shelf.withFinalizers withFinalizer q) := by
  refine stored_changed hs hq (fun _ => rfl) (not_mayLeave (hasFinalizer_withFinalizers q)) ?_
  rw [← requestName_of_stored hq]
  rfl

theorem stored_told {status : QuarantineStatus} (hs : s.shelf.Distinct)
    (hq : stored ns name s = some q) (hheld : q.hasFinalizer = true) :
    stored ns name (s.withShelf (s.shelf.perform (.updateStatus q status)).2) =
      some { q with status := some status } := by
  refine stored_changed (f := fun q => { q with status := some status }) hs hq (fun _ => rfl)
    (not_mayLeave hheld) ?_
  rw [← requestName_of_stored hq]
  rfl

/-- A quarantine that has been let go is gone, or stays for the finalizers of others. -/
theorem stored_released (hs : s.shelf.Distinct) (hq : stored ns name s = some q) {p : Quarantine}
    (hp : stored ns name (s.withShelf (s.shelf.perform (.removeFinalizer q)).2) = some p) :
    p = Shelf.withFinalizers withoutFinalizer q := by
  have h := (Shelf.lookup_changeStored (c := .removeFinalizer q)
    (f := Shelf.withFinalizers withoutFinalizer) hs (fun _ => rfl) hq).2
  rw [← requestName_of_stored hq] at h
  rw [stored, ← requestName_of_stored hq] at hp
  -- If nobody else holds the quarantine then it has left the store.
  cases hleave : Shelf.mayLeave (Shelf.withFinalizers withoutFinalizer q) with
  | true =>
    rw [hleave, if_pos rfl] at h
    cases hp.symm.trans h
  | false =>
    rw [hleave, if_neg Bool.false_ne_true] at h
    exact Option.some.inj (hp.symm.trans h)

/-- The store stays sound at every moment of a reconcile. -/
theorem sound_of_moment (hs : Sound ns name s) (hq : stored ns name s = some q)
    (h : Moment others timeout q s t) : Sound ns name t := by
  have hproper := hs.proper q hq
  cases h with
  | idle => exact hs
  | held =>
    refine ⟨Shelf.distinct_perform hs.distinct _, fun p hp => ?_⟩
    rw [stored_held hs.distinct hq] at hp
    cases hp
    exact ⟨hproper.nodes, hproper.records, .inl (hasFinalizer_withFinalizers q)⟩
  | working t _ hpass =>
    refine ⟨distinct_of_working hpass hs.distinct, fun p hp => ?_⟩
    rw [stored_of_working hpass hq] at hp
    cases hp
    exact hproper
  | told r l d next hheld hpass hnext =>
    have hd := distinct_of_working hpass.visits hs.distinct
    have hqd := stored_of_working hpass.visits hq
    refine ⟨Shelf.distinct_perform hd _, fun p hp => ?_⟩
    rw [stored_told hd hqd hheld] at hp
    cases hp
    obtain ⟨hconcerns, htidy, -⟩ :=
      covers_of_task (M := fun _ => False) hproper (fun _ h => h.elim) hpass
    exact ⟨hproper.nodes, Lifecycle.nodup_observedNodes hconcerns htidy hnext hproper,
      .inl hheld⟩
  | released l d hheld hdeleting hpass =>
    have hd := distinct_of_working hpass.visits hs.distinct
    have hqd := stored_of_working hpass.visits hq
    refine ⟨Shelf.distinct_perform hd _, fun p hp => ?_⟩
    cases stored_released hd hqd hp
    exact ⟨hproper.nodes, hproper.records, .inr (.inl hdeleting)⟩

/-- A mark stays recalled at every moment of a reconcile, or is gone. -/
theorem recalled_of_moment (hs : Sound ns name s) (hq : stored ns name s = some q)
    (hm : Recalled ns name m s) (h : Moment others timeout q s t) : Recalled ns name m t := by
  have hproper := hs.proper q hq
  have hrecalls : s.own m = true → q.Recalls m := by
    intro hown
    obtain ⟨p, hp, hrecalls⟩ := hm hown
    cases hq.symm.trans hp
    exact hrecalls
  -- A mark that is the controller's during a pass was so before it, or a node of the request
  -- reaches it.
  have hduring : ∀ {d}, Visits others ((task q).run.run (new q timeout)) s d → d.own m = true →
      q.Recalls m := by
    intro d hpass hown
    cases hbefore : s.own m with
    | true => exact hrecalls hbefore
    | false => exact recalls_of_gained hpass hown hbefore
  intro hown
  cases h with
  | idle => exact hm hown
  | held => exact ⟨_, stored_held hs.distinct hq, hrecalls hown⟩
  | working t _ hpass =>
    exact ⟨q, stored_of_working hpass hq, hduring hpass hown⟩
  | told r l d next hheld hpass hnext =>
    have hd := distinct_of_working hpass.visits hs.distinct
    have hqd := stored_of_working hpass.visits hq
    obtain ⟨hconcerns, htidy, haccounts⟩ := covers_of_task (M := (· = m)) hproper
      (fun _ h hown => h ▸ hrecalls (h ▸ hown)) hpass
    refine ⟨_, stored_told hd hqd hheld, ?_⟩
    exact Lifecycle.recalls_of_accounts hconcerns htidy hnext rfl (haccounts m rfl hown)
  | released l d hheld hdeleting hpass =>
    -- Once the finalizer is off nothing is recalled, so here the stop must have cleared the mark.
    obtain ⟨hbefore, hnot⟩ := not_recalls_of_stopped hdeleting hpass hown
    exact absurd (hrecalls hbefore) hnot

/-! ## Runs -/

theorem sound_of_turn {k : Turn} (hs : Sound ns name s) (h : Turns others ns name s k t) :
    Sound ns name t := by
  have hvisits : ∀ {timing : Timing},
      Visits others (reconcile timing (some ns) name).run s t → Sound ns name t := by
    intro timing hv
    rcases visits_reconcile hv with rfl | ⟨q, hq, hmoment⟩
    · exact hs
    · exact sound_of_moment hs hq hmoment
  cases h with
  | edited shelf q p hq hp hdistinct hedit =>
    refine ⟨hdistinct, fun p' hp' => ?_⟩
    cases hp.symm.trans hp'
    obtain ⟨-, hrecords, hfresh⟩ := hs.proper q hq
    have hobserved : p.observedNodes = q.observedNodes := by
      rw [Quarantine.observedNodes, Quarantine.observedNodes, hedit.status]
    refine ⟨hedit.nodes, hobserved ▸ hrecords, ?_⟩
    -- An edit touches neither finalizers nor status, and deletion is not taken back.
    rcases hfresh with hheld | hdeleting | hnone
    · refine .inl ?_
      rw [Quarantine.hasFinalizer, hedit.finalizers]
      exact hheld
    · exact .inr (.inl (hedit.deleting hdeleting))
    · exact .inr (.inr (hobserved.trans hnone))
  | drifted c => exact ⟨hs.distinct, hs.proper⟩
  | reconciled _ timing r h => exact hvisits h.visits
  | interrupted _ timing h => exact hvisits h

/-- A mark that is recalled stays recalled, or is gone; only an edit can make it forgotten. -/
theorem recalled_of_turn {k : Turn} (hs : Sound ns name s) (hm : Recalled ns name m s)
    (h : Turns others ns name s k t) (hk : k = .edited → Recalled ns name m t) :
    Recalled ns name m t := by
  have hvisits : ∀ {timing : Timing},
      Visits others (reconcile timing (some ns) name).run s t → Recalled ns name m t := by
    intro timing hv
    rcases visits_reconcile hv with rfl | ⟨q, hq, hmoment⟩
    · exact hm
    · exact recalled_of_moment hs hq hm hmoment
  cases h with
  | edited => exact hk rfl
  | drifted c => exact fun hown => hm (Scene.own_of_own_drift hown)
  | reconciled _ timing r h => exact hvisits h.visits
  | interrupted _ timing h => exact hvisits h

theorem sound_of_run {s₀ : Scene} {ms : List Move} (h₀ : Sound ns name s₀)
    (h : Run others ns name s₀ ms s) : Sound ns name s := by
  induction h with
  | start => exact h₀
  | move _ hturn ih => exact sound_of_turn ih hturn

/-- If no edit of a run makes the request forget a mark, then it is recalled all along. -/
theorem recalled_of_run {s₀ : Scene} {ms : List Move} (h₀ : Sound ns name s₀)
    (hm₀ : Recalled ns name m s₀) (h : Run others ns name s₀ ms s)
    (hedits : ∀ mv ∈ ms, mv.turn = .edited → Recalled ns name m mv.after) :
    Recalled ns name m s ∧ ∀ mv ∈ ms, Recalled ns name m mv.after := by
  induction h with
  | start => exact ⟨hm₀, by simp⟩
  | @move ms s t k hrun hturn ih =>
    obtain ⟨hs, hall⟩ := ih fun mv hmem => hedits mv (List.mem_cons_of_mem _ hmem)
    have ht := recalled_of_turn (sound_of_run h₀ hrun) hs hturn
      fun hk => hedits ⟨s, k, t⟩ (by simp) hk
    refine ⟨ht, fun mv hmem => ?_⟩
    rcases List.mem_cons.1 hmem with rfl | hmem
    · exact ht
    · exact hall mv hmem

/-! ## Histories that are left in peace -/

/-- A reconcile that nobody interferes with, on a cluster that fails no call. -/
def undisturbed (timing : Timing) (ns name : String) (s : Scene) :
    Except ControllerError Next × Scene :=
  (reconcile timing (some ns) name).run.run Scene.answer s

/-- The scene after the request has been made another one. -/
def respecified (ns name : String) (s : Scene) (spec : QuarantineSpec) : Scene :=
  s.withShelf (s.shelf.respecify (ns ++ "/" ++ name) spec)

/-- The scene after deletion has been asked for. -/
def deleted (ns name : String) (s : Scene) (time : String) : Scene :=
  s.withShelf (s.shelf.delete (ns ++ "/" ++ name) time)

theorem turns_undisturbed (timing : Timing) (s : Scene) :
    Turns others ns name s (.reconciled (undisturbed timing ns name s).1)
      (undisturbed timing ns name s).2 :=
  .reconciled s _ timing _ (executes_run others _ s)

theorem turns_respecified {spec : QuarantineSpec} (hs : Sound ns name s)
    (hq : stored ns name s = some q) (hnodes : (spec.nodes.map (·.name)).Nodup) :
    Turns others ns name s .edited (respecified ns name s spec) := by
  refine .edited s _ q { q with spec } hq ?_ ?_ ⟨hnodes, rfl, rfl, id⟩
  · exact Shelf.lookup_edited (f := fun q => { q with spec }) (fun _ => rfl) hq
  · exact Shelf.distinct_edited (f := fun q => { q with spec }) _ hs.distinct fun _ => rfl

/-- A quarantine whose deletion has been asked for. -/
def withDeletion (time : String) (q : Quarantine) : Quarantine :=
  { q with metadata := { q.metadata with deletionTimestamp := some time } }

theorem turns_deleted {time : String} (hs : Sound ns name s) (hq : stored ns name s = some q)
    (hheld : q.finalizers ≠ []) :
    Turns others ns name s .edited (deleted ns name s time) := by
  have hname : ∀ q, (withDeletion time q).requestName = q.requestName := fun _ => rfl
  have hdistinct := Shelf.distinct_edited (ns ++ "/" ++ name) hs.distinct hname
  have hlook := Shelf.lookup_staying hdistinct (ns ++ "/" ++ name)
  have hstays : Shelf.mayLeave (withDeletion time q) = false := by
    show (true && q.finalizers.isEmpty) = false
    cases hf : q.finalizers with
    | nil => exact absurd hf hheld
    | cons a rest => rfl
  rw [Shelf.lookup_edited hname hq] at hlook
  simp only [Option.filter, hstays, Bool.not_false, if_true] at hlook
  exact .edited s _ q (withDeletion time q) hq hlook (Shelf.distinct_staying hdistinct)
    ⟨(hs.proper q hq).nodes, rfl, rfl, fun _ => rfl⟩

section Peace

variable {s₀ : Scene} {ms : List Move} (h₀ : Created ns name s₀)
  (h : Run others ns name s₀ ms s)

include h

theorem Run.undisturbed (timing : Timing) :
    Run others ns name s₀ (⟨s, .reconciled (undisturbed timing ns name s).1,
      (undisturbed timing ns name s).2⟩ :: ms) (undisturbed timing ns name s).2 :=
  .move h (turns_undisturbed timing s)

include h₀

theorem Run.respecified {spec : QuarantineSpec} (hq : (stored ns name s).isSome = true)
    (hnodes : (spec.nodes.map (·.name)).Nodup) :
    Run others ns name s₀ (⟨s, .edited, respecified ns name s spec⟩ :: ms)
      (respecified ns name s spec) := by
  obtain ⟨q, hq⟩ := Option.isSome_iff_exists.1 hq
  exact .move h (turns_respecified (sound_of_run (sound_of_created h₀) h) hq hnodes)

theorem Run.deleted {time : String}
    (hq : (stored ns name s).any Quarantine.hasFinalizer = true) :
    Run others ns name s₀ (⟨s, .edited, deleted ns name s time⟩ :: ms)
      (deleted ns name s time) := by
  obtain ⟨q, hq, hheld⟩ := (Option.any_eq_true _ _).1 hq
  refine .move h (turns_deleted (sound_of_run (sound_of_created h₀) h) hq fun hnone => ?_)
  rw [Quarantine.hasFinalizer, hnone] at hheld
  cases hheld

end Peace

/-! ## A small cluster -/

/-- Nobody else uses the cluster. -/
def nobody : ClusterState → ClusterState → Prop := fun _ _ => False

theorem untouched_nobody (m : Mark) : Untouched nobody m := fun _ _ h => h.elim

namespace Sample

/-- A workload of the sample cluster. -/
def workload : ResourceRef := ⟨.deployment, "a", "prod", false⟩

/-- A workload that the sample cluster has not. -/
def missing : ResourceRef := ⟨.deployment, "b", "prod", false⟩

/-- A node that is open to scheduling and has no taint. -/
def node (name : String) : Kube.Node := ⟨{ Kube.ObjectMeta.blank with name := some name }, none⟩

/-- Two nodes and a workload. -/
def cluster : ClusterState :=
  ⟨[node "w1", node "w2"], [], [⟨workload.key, none, .empty, [], .empty⟩], false⟩

/-- Asks for a node, to be isolated or not, with the workloads to track. -/
def ask (name : String) (isolate : Bool) (resources : List ResourceRef) : NodeSpec :=
  ⟨name, isolate, false, none, resources⟩

/-- A request for nodes. -/
def request (nodes : List NodeSpec) : QuarantineSpec := ⟨nodes, .default, .unset, []⟩

/-- The sample cluster once a quarantine has been created. -/
def start (nodes : List NodeSpec) : Scene where
  cluster := cluster
  shelf := [⟨{ Kube.ObjectMeta.blank with name := some "m", namespaceName := some "ns" },
    request nodes, none⟩]
  flights := []
  own _ := false
  own_shows _ h := by cases h

theorem created {nodes : List NodeSpec} (hnodes : (nodes.map (·.name)).Nodup) :
    Created "ns" "m" (start nodes) where
  distinct := List.nodup_singleton _
  fresh := ⟨_, rfl, rfl, hnodes⟩
  own _ := rfl

/-- The limits of a sample reconcile. -/
def timing : Timing := ⟨1000, 1000⟩

/-- A reconcile of the sample quarantine. -/
def reconciled (s : Scene) : Scene := (undisturbed timing "ns" "m" s).2

/-- The sample quarantine asks for other nodes. -/
def asked (s : Scene) (nodes : List NodeSpec) : Scene := respecified "ns" "m" s (request nodes)

end Sample

end Cordon.Controller
