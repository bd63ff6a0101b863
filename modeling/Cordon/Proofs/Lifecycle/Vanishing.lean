import Cordon.Proofs.Lifecycle.Calm
import Cordon.Proofs.Lifecycle.Phases

/-! # Stopping while objects vanish

While a stop is under way, others may delete nodes, workloads and pods: before each of its calls any
of them may vanish, and a call that needs one of them fails.  Nothing else goes wrong.  `Endures`
says of a computation that it fails if and only if it comes upon a call that is foiled (`foils`),
and then for want of an object; it is closed under composition (`endures_bind`, `endures_forM`).

The calls that are foiled are those that write what has been read: the object was there when it was
read, so what matters is whether it vanishes right before the write (`endures_untaintNode`,
`endures_removeToleration`).  All other calls of a stop take an absent object for a success.
`stop_amid_deletions` puts it together.
-/

namespace Cordon

open Kube (Node Pod)

/-! ## Deletions by others -/

/-- An object that somebody deletes. -/
inductive Deletion where
  | node (name : String)
  | workload (key : ResourceKey)
  | pod (identity : String)
deriving DecidableEq

namespace ClusterState

def delete (s : ClusterState) : Deletion → ClusterState
  | .node name => s.dropNode name
  | .workload key => s.dropWorkload key
  | .pod identity => s.removePod identity

def without (s : ClusterState) (gone : List Deletion) : ClusterState := gone.foldl delete s

/-- Of items that are kept by their keys, each is found as before but one that is taken out. -/
theorem find?_filter_key {α β : Type} [DecidableEq β] {key : α → β} {k other : β}
    {p q : α → Bool} (hp : ∀ a, p a = true ↔ key a ≠ other) (hq : ∀ a, q a = true ↔ key a = k)
    (l : List α) : (l.filter p).find? q = if other = k then none else l.find? q := by
  rw [List.find?_filter]
  by_cases heq : other = k
  · rw [if_pos heq]
    refine List.find?_eq_none.2 fun a _ => ?_
    rw [decide_eq_true_iff, hp, hq, heq]
    exact fun h => h.1 h.2
  · rw [if_neg heq]
    refine congrArg (List.find? · l) (funext fun a => ?_)
    rw [Bool.eq_iff_iff, decide_eq_true_iff, hp, hq]
    exact and_iff_right_of_imp fun ha hother => heq (hother.symm.trans ha)

theorem findNode_delete (s : ClusterState) (d : Deletion) (name : String) :
    (s.delete d).findNode name = if d = .node name then none else s.findNode name := by
  cases d with
  | node other =>
    simp only [Deletion.node.injEq]
    exact find?_filter_key (fun _ => bne_iff_ne) (fun _ => beq_iff_eq) s.nodes
  | workload key => rfl
  | pod identity => rfl

theorem findWorkload_delete (s : ClusterState) (d : Deletion) (key : ResourceKey) :
    (s.delete d).findWorkload key = if d = .workload key then none else s.findWorkload key := by
  cases d with
  | node name => rfl
  | workload other =>
    simp only [Deletion.workload.injEq]
    exact find?_filter_key (fun _ => decide_eq_true_iff) (fun _ => decide_eq_true_iff) s.workloads
  | pod identity => rfl

/-- An object that one deletion alone takes away is found unless that is among the deletions. -/
theorem find_without {α : Type} (find : ClusterState → Option α) {d₀ : Deletion}
    (h : ∀ s d, find (delete s d) = if d = d₀ then none else find s) (s : ClusterState)
    (gone : List Deletion) : find (s.without gone) = if d₀ ∈ gone then none else find s := by
  induction gone generalizing s with
  | nil => rfl
  | cons d rest ih =>
    rw [without, List.foldl_cons, ← without, ih, h]
    by_cases hrest : d₀ ∈ rest
    · simp [hrest]
    · simp [hrest, eq_comm]

theorem findNode_without (s : ClusterState) (gone : List Deletion) (name : String) :
    (s.without gone).findNode name = if .node name ∈ gone then none else s.findNode name :=
  find_without (·.findNode name) (fun s d => findNode_delete s d name) s gone

theorem findWorkload_without (s : ClusterState) (gone : List Deletion) (key : ResourceKey) :
    (s.without gone).findWorkload key =
      if .workload key ∈ gone then none else s.findWorkload key :=
  find_without (·.findWorkload key) (fun s d => findWorkload_delete s d key) s gone

end ClusterState

/-! ## Calls among deletions -/

/-- A cluster, and the calls that it has had, each with what vanished right before it. -/
structure Eroding where
  cluster : ClusterState
  calls : List (List Deletion × ClusterCall)

/-- Whether a call writes an object that has vanished right before it. -/
def foils (gone : List Deletion) : ClusterCall → Bool
  | .setNodeTaints n _ => .node n.name ∈ gone
  | .setWorkloadTolerations w _ => .workload w.key ∈ gone
  | _ => false

/-- None of the calls is foiled. -/
def Smooth (calls : List (List Deletion × ClusterCall)) : Prop :=
  ∀ x ∈ calls, foils x.1 x.2 = false

/-- What is deleted before which call: the first, the second and so on. -/
abbrev Schedule : Type := ℕ → List Deletion

/-- Something vanishes, and then the call is answered. -/
def Eroding.answer (schedule : Schedule) (c : ClusterCall) (s : Eroding) :
    Except IsolationError c.Reply × Eroding :=
  let gone := schedule s.calls.length
  let (answer, cluster) := (s.cluster.without gone).perform c
  (answer, ⟨cluster, s.calls ++ [(gone, c)]⟩)

/-- A computation has ended: well if and only if no call was foiled, and otherwise with an error of
this kind. -/
structure Ended {ε α : Type} (kind : ε → Prop) (r : Except ε α)
    (calls : List (List Deletion × ClusterCall)) : Prop where
  ok_iff : (∃ a, r = .ok a) ↔ Smooth calls
  error : ∀ e, r = .error e → kind e

section Ended

variable {ε α β : Type} {kind : ε → Prop} {calls rest : List (List Deletion × ClusterCall)}

theorem smooth_append : Smooth (calls ++ rest) ↔ Smooth calls ∧ Smooth rest :=
  List.forall_mem_append

theorem ended_ok {a : α} : Ended kind (.ok a : Except ε α) calls ↔ Smooth calls := by
  constructor
  · exact fun h => h.ok_iff.1 ⟨a, rfl⟩
  · exact fun h => ⟨iff_of_true ⟨a, rfl⟩ h, nofun⟩

theorem ended_error {e : ε} :
    Ended kind (.error e : Except ε α) calls ↔ ¬ Smooth calls ∧ kind e := by
  constructor
  · exact fun h => ⟨fun hsmooth => by simpa using h.ok_iff.2 hsmooth, h.error e rfl⟩
  · rintro ⟨hnot, he⟩
    refine ⟨iff_of_false (by simp) hnot, fun e' he' => ?_⟩
    cases he'
    exact he

theorem Ended.after {r : Except ε α} (hbefore : Smooth calls) (h : Ended kind r rest) :
    Ended kind r (calls ++ rest) where
  ok_iff := h.ok_iff.trans ((and_iff_right hbefore).symm.trans smooth_append.symm)
  error := h.error

end Ended

/-- A call failed for want of its object. -/
def IsolationError.Absent (e : IsolationError) : Prop := e.isNotFound = true

namespace Clustered

variable {α β : Type} {schedule : Schedule} {p : Clustered α} {f : α → Clustered β}

/-- What a computation comes to while objects vanish. -/
def erode (schedule : Schedule) (p : Clustered α) (s : Eroding) :
    Except IsolationError α × Eroding :=
  p.run.run (Eroding.answer schedule) s

/-- From this cluster on, whatever vanishes, a computation fails if and only if one of its calls is
foiled, and then for want of an object. -/
def EnduresOn (schedule : Schedule) (cluster : ClusterState) (p : Clustered α) : Prop :=
  ∀ s r m, s.cluster = cluster → p.erode schedule s = (r, m) →
    ∃ calls, m.calls = s.calls ++ calls ∧ Ended IsolationError.Absent r calls

def Endures (schedule : Schedule) (p : Clustered α) : Prop :=
  ∀ cluster, EnduresOn schedule cluster p

theorem endures_pure (a : α) : Endures schedule (pure a : Clustered α) := by
  rintro _ s _ _ - ⟨⟩
  exact ⟨[], (List.append_nil _).symm, ended_ok.2 (by simp [Smooth])⟩

theorem endures_bind (hp : Endures schedule p) (hf : ∀ a, Endures schedule (f a)) :
    Endures schedule (p >>= f) := by
  intro _ s r m _ hrun
  obtain ⟨r', m', hp'⟩ : ∃ r' m', p.erode schedule s = (r', m') := ⟨_, _, rfl⟩
  obtain ⟨calls, hcalls, hended⟩ := hp _ s r' m' rfl hp'
  cases r' with
  | ok a =>
    have hrest := (Program.run_except_bind_ok hp' f).symm.trans hrun
    obtain ⟨rest, hrest, hended'⟩ := hf a _ m' r m rfl hrest
    refine ⟨calls ++ rest, ?_, hended'.after (ended_ok.1 hended)⟩
    rw [hrest, hcalls, List.append_assoc]
  | error e =>
    cases (Program.run_except_bind_error hp' f).symm.trans hrun
    exact ⟨calls, hcalls, ended_error.2 (ended_error.1 hended)⟩

theorem endures_forM {as : List α} {f : α → Clustered Unit} (hf : ∀ a, Endures schedule (f a)) :
    Endures schedule (as.forM f) := by
  induction as with
  | nil => exact endures_pure ()
  | cons a rest ih => exact endures_bind (hf a) fun _ => ih

end Clustered

/-! ## What a stop calls -/

namespace Isolation

open Clustered

variable {α : Type} {schedule : Schedule} {s : ClusterState} {c : ClusterCall}

/-- The calls of a stop that do not write what has been read, but for queries. -/
def isPlain : ClusterCall → Bool
  | .getNode _ | .getWorkload _ | .deletePod _ _ | .uncordonNode _ => true
  | _ => false

theorem foils_of_isPlain (hc : isPlain c = true) (gone : List Deletion) : foils gone c = false := by
  cases c with
  | setNodeTaints _ _ | setWorkloadTolerations _ _ => cases hc
  | _ => rfl

theorem absent_of_isPlain (hc : isPlain c = true) {e : IsolationError}
    (h : (s.perform c).1 = .error e) : e.Absent := by
  cases c with
  | getNode _ | getWorkload _ | deletePod _ _ | uncordonNode _ =>
    simp only [ClusterState.perform, ClusterState.onNode] at h
    split at h
    · cases h
    · cases h
      rfl
  | _ => cases hc

theorem smooth_single {gone : List Deletion} :
    Smooth [(gone, c)] ↔ foils gone c = false := List.forall_mem_singleton

/-- A removal takes an absent object for a success. -/
theorem endures_orAbsent {p : Clustered Unit} (hc : isPlain c = true)
    (hp : ∀ s, ∃ r cluster, p.erode schedule s =
      (r, ⟨cluster, s.calls ++ [(schedule s.calls.length, c)]⟩) ∧ ∀ e, r = .error e → e.Absent) :
    Endures schedule (orAbsent p) := by
  intro _ s r m _ hrun
  obtain ⟨r', cluster, hcall, herror⟩ := hp s
  refine ⟨[(schedule s.calls.length, c)], ?_⟩
  have hend : (r, m) = (.ok (), ⟨cluster, s.calls ++ [(schedule s.calls.length, c)]⟩) := by
    rw [← hrun]
    cases r' with
    | ok _ => exact run_orAbsent_ok hcall
    | error e => exact run_orAbsent_absent hcall (herror e rfl)
  cases hend
  exact ⟨rfl, ended_ok.2 (smooth_single.2 (foils_of_isPlain hc _))⟩

theorem endures_deletePod (ns name : String) :
    Endures schedule (orAbsent (call (.deletePod ns name))) :=
  endures_orAbsent (c := .deletePod ns name) rfl fun _ =>
    ⟨_, _, rfl, fun _ => absent_of_isPlain (c := .deletePod ns name) rfl⟩

theorem endures_enableScheduling (name : String) : Endures schedule (enableScheduling name) :=
  endures_orAbsent (c := .uncordonNode name) rfl fun _ =>
    ⟨_, _, rfl, fun _ => absent_of_isPlain (c := .uncordonNode name) rfl⟩

theorem endures_removeListed (f : PodFilter) :
    Endures schedule (call (.listPods f) >>= fun pods => pods.forM removePod) := by
  refine endures_bind ?_ fun pods => endures_forM fun p => endures_deletePod _ _
  rintro _ s _ _ - ⟨⟩
  exact ⟨_, rfl, ended_ok.2 (smooth_single.2 rfl)⟩

/-! ## What is read and then written -/

/-- What follows from a look-up begins with the cluster as it was looked at. -/
theorem endures_lookUp {f : Option c.Reply → Clustered Unit} (hc : isPlain c = true)
    (hread : ∀ s : ClusterState, (s.perform c).2 = s) (hnone : Endures schedule (f none))
    (hsome : ∀ s a, (s.perform c).1 = .ok a → EnduresOn schedule s (f (some a))) :
    Endures schedule (ifPresent (call c) >>= f) := by
  intro _ s r m _ hrun
  obtain ⟨found, hlook, hthen⟩ : ∃ found, (ifPresent (call c)).erode schedule s =
      (.ok found, (s.answer schedule c).2) ∧
        EnduresOn schedule (s.answer schedule c).2.cluster (f found) := by
    have hsame : (s.answer schedule c).2.cluster =
      s.cluster.without (schedule s.calls.length) := hread _
    cases hcall : ((s.cluster.without (schedule s.calls.length)).perform c).1 with
    | ok a =>
      refine ⟨some a, run_ifPresent_ok (Prod.ext hcall rfl), ?_⟩
      rw [hsame]
      exact hsome _ a hcall
    | error e =>
      have habsent := absent_of_isPlain hc hcall
      exact ⟨none, run_ifPresent_absent (Prod.ext hcall rfl) habsent, hnone _⟩
  have hrest := (Program.run_except_bind_ok hlook f).symm.trans hrun
  obtain ⟨calls, hcalls, hended⟩ := hthen _ r m rfl hrest
  have hsmooth := smooth_single.2 (foils_of_isPlain hc (schedule s.calls.length))
  exact ⟨_, hcalls.trans (List.append_assoc ..), hended.after hsmooth⟩

/-- A write of what was there fails if and only if its object has vanished right before. -/
theorem enduresOn_write {d : Deletion} {a : c.Reply} {e : IsolationError} (he : e.Absent)
    (hfoils : ∀ gone, foils gone c = decide (d ∈ gone))
    (hcall : ∀ gone, ((s.without gone).perform c).1 = if d ∈ gone then .error e else .ok a) :
    EnduresOn schedule s (call c) := by
  rintro m _ _ rfl ⟨⟩
  refine ⟨_, rfl, ?_⟩
  show Ended _ ((m.cluster.without (schedule m.calls.length)).perform c).1 _
  rw [hcall]
  by_cases hgone : d ∈ schedule m.calls.length
  · rw [if_pos hgone]
    exact ended_error.2 ⟨by simp [smooth_single, hfoils, hgone], he⟩
  · rw [if_neg hgone]
    exact ended_ok.2 (by simp [smooth_single, hfoils, hgone])

theorem enduresOn_setNodeTaints {n : Node} {taints : List Kube.Taint}
    (h : s.findNode n.name = some n) : EnduresOn schedule s (call (.setNodeTaints n taints)) := by
  refine enduresOn_write (d := .node n.name) (a := ())
    (e := .updateNodeTaints n.name (ClusterState.notFound "nodes" n.name)) rfl (fun _ => rfl)
    fun gone => ?_
  simp only [ClusterState.perform, ClusterState.onNode, ClusterState.findNode_without, h]
  by_cases hgone : .node n.name ∈ gone
  · simp only [if_pos hgone]
    rfl
  · simp only [if_neg hgone]

theorem enduresOn_setWorkloadTolerations {w : Workload} {tolerations : List Kube.Toleration}
    (h : s.findWorkload w.key = some w) :
    EnduresOn schedule s (call (.setWorkloadTolerations w tolerations)) := by
  refine enduresOn_write (d := .workload w.key) (a := ())
    (e := .updateWorkload w.key
      (ClusterState.notFound (ClusterState.workloadPlural w.key.kind) w.key.name)) rfl
    (fun _ => rfl) fun gone => ?_
  simp only [ClusterState.perform, ClusterState.onWorkload, ClusterState.findWorkload_without, h]
  by_cases hgone : .workload w.key ∈ gone
  · simp only [if_pos hgone]
    rfl
  · simp only [if_neg hgone]

theorem findNode_of_got {name : String} {n : Node} (h : (s.perform (.getNode name)).1 = .ok n) :
    s.findNode n.name = some n := by
  simp only [ClusterState.perform] at h
  split at h
  · next hfound =>
    cases h
    rw [ClusterState.name_of_findNode hfound, hfound]
  · cases h

theorem findWorkload_of_got {key : ResourceKey} {w : Workload}
    (h : (s.perform (.getWorkload key)).1 = .ok w) : s.findWorkload w.key = some w := by
  simp only [ClusterState.perform] at h
  split at h
  · next hfound =>
    cases h
    rw [ClusterState.key_of_findWorkload hfound, hfound]
  · cases h

theorem endures_untaintNode (name : String) : Endures schedule (untaintNode name) := by
  unfold untaintNode
  refine endures_lookUp (c := .getNode name) rfl (fun s => ?_) (endures_pure ()) fun s n hn => ?_
  · simp only [ClusterState.perform]
    split <;> rfl
  · dsimp only
    split
    · exact enduresOn_setNodeTaints (findNode_of_got hn)
    · exact endures_pure () s

theorem endures_removeToleration (r : ResourceRef) : Endures schedule (removeToleration r) := by
  refine endures_lookUp (c := .getWorkload r.key) rfl (fun s => ?_) (endures_pure ())
    fun s w hw => ?_
  · simp only [ClusterState.perform]
    split <;> rfl
  · show EnduresOn schedule s (stripToleration w)
    unfold stripToleration
    split
    · exact enduresOn_setWorkloadTolerations (findWorkload_of_got hw)
    · exact endures_pure () s

end Isolation

/-! ## Passes among deletions -/

/-- A world, and the calls that its cluster has had. -/
structure ErodingWorld where
  world : World
  calls : List (List Deletion × ClusterCall)

namespace ErodingWorld

variable {α : Type} {schedule : Schedule} {w : ErodingWorld}

def eroding (w : ErodingWorld) : Eroding := ⟨w.world.cluster, w.calls⟩

/-- Before each call to the cluster something vanishes; everything else is as in the world alone. -/
def answer (schedule : Schedule) : (r : Effects.Request) → ErodingWorld → r.Answer × ErodingWorld
  | .cluster (.call c), ⟨w, calls⟩ =>
    let gone := schedule calls.length
    let eroded := { w with cluster := w.cluster.without gone }
    let (a, w) := eroded.answerEffect (.cluster (.call c))
    (a, ⟨w, calls ++ [(gone, c)]⟩)
  | r, ⟨w, calls⟩ =>
    let (a, w) := w.answerEffect r
    (a, ⟨w, calls⟩)

def run (schedule : Schedule) (p : Program Effects α) (w : ErodingWorld) : α × ErodingWorld :=
  p.run (answer schedule) w

/-- A call comes to what it comes to while objects vanish, if no limit is past. -/
theorem answer_call (schedule : Schedule) (hfaults : w.world.faults = [])
    (htime : ∀ d, w.world.deadline = some d → w.world.clock ≤ d) (c : ClusterCall) :
    ∃ m, answer schedule (.cluster (.call c)) w = (some (w.eroding.answer schedule c).1, m) ∧
      m.eroding = (w.eroding.answer schedule c).2 ∧ m.world.faults = [] ∧
      m.world.clock = w.world.clock ∧ m.world.deadline = w.world.deadline := by
  obtain ⟨w, calls⟩ := w
  obtain ⟨m, hanswer, hm, hclock, hdeadline⟩ := World.answerInTime_call
    (w := { w with cluster := w.cluster.without (schedule calls.length) }) ⟨hfaults, rfl, rfl⟩
    htime c
  refine ⟨⟨m, calls ++ [(schedule calls.length, c)]⟩, ?_, ?_, hm.faults, hclock, hdeadline⟩
  · simp only [answer, World.answerEffect, hanswer]
    rfl
  · rw [eroding, hm.cluster]
    rfl

theorem run_interruptible (schedule : Schedule) {q : Program ClusterApi α}
    (hfaults : w.world.faults = []) (htime : ∀ d, w.world.deadline = some d → w.world.clock ≤ d) :
    ∃ m, w.run schedule (Effects.interruptible (q.interpret fun c =>
        Program.query (I := Drain.Api) (.call c))) =
      (some (q.run (Eroding.answer schedule) w.eroding).1, m) ∧
      m.eroding = (q.run (Eroding.answer schedule) w.eroding).2 ∧ m.world.faults = [] := by
  induction q generalizing w with
  | done a => exact ⟨w, rfl, rfl, hfaults⟩
  | ask c resume ih =>
    obtain ⟨d, hcall, hd, hfaults', hclock, hdeadline⟩ :=
      answer_call schedule hfaults htime c
    obtain ⟨m, hrun, hm⟩ := ih (w.eroding.answer schedule c).1 hfaults' fun d hd => by
      rw [hclock]
      exact htime d (hdeadline ▸ hd)
    rw [hd] at hrun hm
    refine ⟨m, ?_, hm⟩
    unfold run
    simp only [Program.interpret, Program.query, Program.ask_andThen, Program.done_andThen,
      Effects.interruptible, Program.run_ask, hcall]
    exact hrun

/-- A step that calls the cluster in turn comes to what its calls come to while objects vanish. -/
theorem run_within (schedule : Schedule) (p : Clustered α) (limit : Nat)
    (hfaults : w.world.faults = []) :
    ∃ m, w.run schedule (Effects.within limit (Drain.sequentially p).run) =
      (some (p.erode schedule w.eroding).1, m) ∧ m.eroding = (p.erode schedule w.eroding).2 ∧
      m.world.faults = [] := by
  let armed : ErodingWorld :=
    ⟨{ w.world with deadline := some (w.world.clock + limit), flights := [] }, w.calls⟩
  obtain ⟨m, hrun, hm, hfaults'⟩ := run_interruptible schedule (w := armed)
    (q := p.run) hfaults fun d hd => by
      cases hd
      exact Nat.le_add_right _ _
  refine ⟨⟨{ m.world with deadline := none, flights := [] }, m.calls⟩, ?_, hm, hfaults'⟩
  show Program.run (answer schedule) ((Effects.interruptible _).andThen _) armed = _
  have hrun' : Program.run (answer schedule) (Effects.interruptible (Drain.sequentially p).run)
      armed = (some (p.erode schedule w.eroding).1, m) := hrun
  rw [Program.run_bind, hrun']
  rfl

end ErodingWorld

/-- A step on a node failed for want of an object. -/
def ControllerError.Absent : ControllerError → Prop
  | .nodeStep _ _ e => e.Absent
  | _ => False

namespace Pass

open Lifecycle (stepInTurn)

variable {α β : Type} {schedule : Schedule} {p : Pass α} {f : α → Pass β}

/-- Where nothing else goes wrong, a pass fails if and only if one of its calls is foiled, and then
for want of an object. -/
def Endures (schedule : Schedule) (p : Pass α) : Prop :=
  ∀ (l : Lifecycle) (w : ErodingWorld), w.world.faults = [] →
    ∃ r l' m calls, w.run schedule (p.run.run l) = ((r, l'), m) ∧ m.world.faults = [] ∧
      m.calls = w.calls ++ calls ∧ Ended ControllerError.Absent r calls

theorem endures_of_silent {a : Lifecycle → α} {g : Lifecycle → Lifecycle}
    (hp : ∀ l, p.run.run l = .done (.ok (a l), g l)) : Endures schedule p := by
  intro l w hfaults
  refine ⟨.ok (a l), g l, w, [], ?_, hfaults, (List.append_nil _).symm,
    ended_ok.2 (by simp [Smooth])⟩
  rw [ErodingWorld.run, hp]
  rfl

theorem endures_bind (hp : Endures schedule p) (hf : ∀ a, Endures schedule (f a)) :
    Endures schedule (p >>= f) := by
  intro l w hfaults
  obtain ⟨r, k, m, calls, hrun, hfaults', hcalls, hended⟩ := hp l w hfaults
  unfold ErodingWorld.run at hrun ⊢
  rw [run_bind, Program.run_bind, hrun]
  cases r with
  | ok a =>
    obtain ⟨r, l', t, rest, hrun', hfaults'', hrest, hended'⟩ := hf a k m hfaults'
    refine ⟨r, l', t, calls ++ rest, hrun', hfaults'', ?_, hended'.after (ended_ok.1 hended)⟩
    rw [hrest, hcalls, List.append_assoc]
  | error e =>
    exact ⟨_, k, m, calls, rfl, hfaults', hcalls, ended_error.2 (ended_error.1 hended)⟩

theorem endures_get {f : Lifecycle → Pass β} (hf : ∀ l, Endures schedule (f l)) :
    Endures schedule (get >>= f) := fun l => hf l l

theorem endures_forM {as : List α} {f : α → Pass Unit} (hf : ∀ a, Endures schedule (f a)) :
    Endures schedule (as.forM f) := by
  induction as with
  | nil => exact endures_of_silent (a := fun _ => ()) (g := id) fun _ => rfl
  | cons a rest ih => exact endures_bind (hf a) fun _ => ih

theorem endures_step {label node : String} {q : Clustered α}
    (hq : Clustered.Endures schedule q) : Endures schedule (stepInTurn label node q) := by
  intro l w hfaults
  obtain ⟨m, hrun, hm, hfaults'⟩ :=
    ErodingWorld.run_within schedule q l.timeout hfaults
  obtain ⟨r, s, hq'⟩ : ∃ r s, q.erode schedule w.eroding = (r, s) := ⟨_, _, rfl⟩
  obtain ⟨calls, hcalls, hended⟩ := hq _ w.eroding r s rfl hq'
  rw [hq'] at hrun hm
  subst hm
  unfold ErodingWorld.run at hrun ⊢
  unfold stepInTurn
  rw [run_step, Program.run_bind, hrun]
  cases r with
  | ok a => exact ⟨.ok a, l, m, calls, rfl, hfaults', hcalls, ended_ok.2 (ended_ok.1 hended)⟩
  | error e =>
    obtain ⟨hnot, he⟩ := ended_error.1 hended
    exact ⟨.error (.nodeStep label node e), l, m, calls, rfl, hfaults', hcalls,
      ended_error.2 ⟨hnot, he⟩⟩

end Pass

namespace Lifecycle

open Pass

variable {schedule : Schedule} {l : Lifecycle} {w : World}

theorem endures_reverseNode (u : Target) : Endures schedule (reverseNode u) :=
  endures_bind (endures_step (Isolation.endures_untaintNode _)) fun _ =>
    endures_bind (endures_forM fun r => endures_step (Isolation.endures_removeToleration r))
      fun _ => endures_bind (endures_step (Isolation.endures_deletePod _ _)) fun _ =>
        endures_bind (endures_step (Isolation.endures_removeListed _)) fun _ =>
          endures_bind (endures_step (Isolation.endures_enableScheduling _)) fun _ =>
            endures_of_silent (a := fun _ => ()) (g := fun l => l.forgotten u) fun _ => rfl

/-- A stop once it has begun. -/
def unwind : Pass Unit := do
  let l ← get
  (l.nodes ++ l.marked).forM reverseNode
  stepInTurn "clean up quarantined pods on" "*" Isolation.cleanupIsolatedPods

theorem stop_eq : stop = advance .stopped >>= fun _ => unwind := rfl

theorem endures_unwind (schedule : Schedule) : Endures schedule unwind :=
  endures_get fun _ => endures_bind (endures_forM endures_reverseNode) fun _ =>
    endures_step (Isolation.endures_removeListed _)

/-- Objects may vanish before any call of a stop, and nothing else goes wrong.  The stop returns if
and only if no call that writes what has been read is foiled, that is, if no node vanishes between
the look-up of its taints and the write of them, and no workload between the look-up of its
tolerations and the write of them.  Otherwise it fails with a step, for want of that object. -/
theorem stop_amid_deletions (schedule : Schedule) (hphase : l.phase ≠ .stopped)
    (hfaults : w.faults = []) :
    ∃ r l' m, ErodingWorld.run schedule (stop.run.run l) ⟨w, []⟩ = ((r, l'), m) ∧
      (r = .ok () ↔ ∀ x ∈ m.calls, foils x.1 x.2 = false) ∧ ∀ e, r = .error e → e.Absent := by
  have hallows : l.phase.allows .stopped = true :=
    Bool.eq_true_of_not_eq_false (mt Phase.allows_stopped.1 hphase)
  have hmove : l.phase.transition .stopped = .ok .stopped := by
    rw [Phase.transition, Phase.move, if_pos hallows]
  have hstop : stop.run.run l = unwind.run.run (l.inPhase .stopped) := by
    rw [stop_eq, run_bind, run_advance, hmove]
    rfl
  obtain ⟨r, l', m, calls, hrun, -, hcalls, hended⟩ :=
    endures_unwind schedule (l.inPhase .stopped) ⟨w, []⟩ hfaults
  refine ⟨r, l', m, ?_, ?_, hended.error⟩
  · rw [hstop, hrun]
  · rw [show m.calls = calls from hcalls]
    exact ⟨fun h => hended.ok_iff.1 ⟨(), h⟩, fun h => (hended.ok_iff.2 h).elim fun _ h => h⟩

namespace Sample

def tracked : ResourceRef := ⟨.deployment, "a", "prod", false⟩

/-- A node that has been isolated, with a workload that tolerates the taint. -/
def isolated : World :=
  .new ⟨[⟨{ Kube.ObjectMeta.blank with name := some "w1" },
      some ⟨some true, some [Repelling.quarantineTaint]⟩⟩], [],
    [⟨tracked.key, none, .empty, [Repelling.quarantineToleration], .empty⟩], false⟩ [] []

/-- The quarantine that has isolated it. -/
def active : Lifecycle :=
  ⟨[⟨"w1", true, [], [tracked], ⟨false, false, false, true, false⟩, .default⟩], [], .empty, .active,
    true, 10⟩

/-- The workload vanishes before all, and the node once it has been untainted. -/
def unnoticed : Schedule
  | 0 => [.workload tracked.key]
  | 2 => [.node "w1"]
  | _ => []

/-- The node vanishes when its taints have been read. -/
def midway : Schedule
  | 1 => [.node "w1"]
  | _ => []

end Sample

open Sample in
/-- A stop does not notice that objects vanish before they are read or after they are written. -/
theorem stop_amid_deletions_unnoticed :
    ∃ l' m, ErodingWorld.run unnoticed (stop.run.run active) ⟨isolated, []⟩ = ((.ok (), l'), m) ∧
      m.world.cluster.nodes = [] ∧ m.world.cluster.workloads = [] := by
  obtain ⟨r, l', m, hrun, hok, -⟩ :=
    stop_amid_deletions (l := active) (w := isolated) unnoticed (by decide) rfl
  have hm : (ErodingWorld.run unnoticed (stop.run.run active) ⟨isolated, []⟩).2 = m := by rw [hrun]
  have hsmooth : ∀ x ∈ m.calls, foils x.1 x.2 = false := by
    rw [← hm]
    decide +kernel
  cases hok.2 hsmooth
  refine ⟨l', m, hrun, ?_⟩
  rw [← hm]
  decide +kernel

open Sample in
/-- A stop fails when a node vanishes between the look-up of its taints and the write of them. -/
theorem not_stop_amid_deletions :
    ¬ ∀ (schedule : Schedule) (l : Lifecycle) (w : World), l.phase ≠ .stopped → w.faults = [] →
      (ErodingWorld.run schedule (stop.run.run l) ⟨w, []⟩).1.1 = .ok () := by
  intro hall
  have hok := hall midway active isolated (by decide) rfl
  exact absurd hok (by decide +kernel)

end Lifecycle

end Cordon
