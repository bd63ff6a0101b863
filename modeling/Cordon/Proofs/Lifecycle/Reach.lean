import Cordon.Proofs.Lifecycle.Pass

/-! # Which marks the parts of a pass touch

A node with its workloads *reaches* the marks that isolation may leave for it: that the node is
closed, that it is tainted, and that the workloads tolerate the taint.

Preparing and starting a node only set marks that the node reaches.  Undoing a node only clears
such marks, and if it succeeds it has cleared all of them (`not_reached_of_undo`); so has a stop
(`not_reached_of_stop`).  A whole pass sets no mark but those that the nodes of the request reach
(`staysIn_settle`, `staysIn_stop`), so wherever it stops, what it leaves behind can be found again
from the request.
-/

namespace Cordon

/-! ## Marks of a node -/

/-- The marks that isolation may leave for a node of this name with these workloads. -/
def Mark.BelongsTo (name : String) (resources : List ResourceRef) : Mark → Prop
  | .closed n | .tainted n => name = n
  | .tolerating key => ∃ r ∈ resources, r.key = key

instance (name : String) (resources : List ResourceRef) :
    DecidablePred (Mark.BelongsTo name resources)
  | .closed n | .tainted n => inferInstanceAs (Decidable (name = n))
  | .tolerating key => inferInstanceAs (Decidable (∃ r ∈ resources, r.key = key))

/-- The marks that isolation may leave for a node with its workloads. -/
def Target.Reaches (t : Target) (m : Mark) : Prop := m.BelongsTo t.name t.resources

/-- The marks that isolation may have left for a node on record. -/
def ObservedNode.Reaches (o : ObservedNode) (m : Mark) : Prop := m.BelongsTo o.name o.resources

instance (t : Target) (m : Mark) : Decidable (t.Reaches m) :=
  inferInstanceAs (Decidable (m.BelongsTo t.name t.resources))

instance (o : ObservedNode) (m : Mark) : Decidable (o.Reaches m) :=
  inferInstanceAs (Decidable (m.BelongsTo o.name o.resources))

theorem Target.mem_resources_ofResources {name : String} {isolate : Bool}
    {resources : List ResourceRef} {flags : ResolvedFlags} {debug : DebugSpec} {r : ResourceRef} :
    r ∈ (ofResources name isolate resources flags debug).resources ↔ r ∈ resources := by
  simp only [Target.resources, ofResources, List.mem_append, List.mem_filter, decide_eq_true_eq]
  constructor
  · rintro (⟨h, -⟩ | ⟨h, -⟩) <;> exact h
  · intro h
    by_cases hk : r.kind = .daemonset
    · exact .inl ⟨h, hk⟩
    · exact .inr ⟨h, by simpa using hk⟩

/-- A node that is no longer named reaches what its record says. -/
theorem Target.reaches_ofObserved (o : ObservedNode) (spec : QuarantineSpec) (m : Mark) :
    (ofObserved o spec).Reaches m ↔ o.Reaches m := by
  cases m with
  | closed n | tainted n => exact Iff.rfl
  | tolerating key =>
    simp only [Reaches, ObservedNode.Reaches, Mark.BelongsTo, ofObserved,
      mem_resources_ofResources]

namespace Lifecycle

open Pass Isolation

variable {others : ClusterState → ClusterState → Prop} {J : Lifecycle → Prop} {t : Target}

/-! ## What the parts touch -/

/-- Everything done to a node is undone, with its record still there. -/
def undo (t : Target) : Pass Unit := do
  stepInTurn "untaint" t.name (untaintNode t.name)
  removeTolerations t.name t.resources
  stepInTurn "remove debug pod from" t.name (removeDebug t.debugPodName t.debug.namespaceName)
  stepInTurn "remove quarantined pods from" t.name (removeIsolatedPods t.name)
  stepInTurn "uncordon" t.name (enableScheduling t.name)

theorem reverseNode_eq (t : Target) : reverseNode t = undo t >>= fun _ => forget t := by
  simp only [reverseNode, undo, bind_assoc]

theorem staysIn_removeTolerations (node : String) (resources : List ResourceRef) :
    StaysIn (.tolerations resources false) J (removeTolerations node resources) :=
  staysIn_forM fun r hr => staysIn_stepInTurn <|
    (staysIn_removeToleration r).mono fun _ _ h => ⟨⟨r, hr, h.1⟩, h.2⟩

/-- Undoing a node clears marks that the node reaches, and sets none. -/
theorem staysIn_undo (t : Target) :
    StaysIn (fun m b => t.Reaches m ∧ b = false) J (undo t) := by
  refine staysIn_bind ?_ fun _ => staysIn_bind ?_ fun _ => staysIn_bind ?_ fun _ =>
    staysIn_bind ?_ fun _ => ?_
  · refine staysIn_stepInTurn ((staysIn_untaintNode t.name).mono ?_)
    rintro _ _ ⟨rfl, rfl⟩
    exact ⟨rfl, rfl⟩
  · refine (staysIn_removeTolerations t.name t.resources).mono ?_
    rintro _ _ ⟨⟨r, hr, rfl⟩, rfl⟩
    exact ⟨⟨r, hr, rfl⟩, rfl⟩
  · exact staysIn_stepInTurn (staysIn_removeDebug _ _)
  · exact staysIn_stepInTurn (staysIn_removeIsolatedPods _)
  · refine staysIn_stepInTurn ((staysIn_enableScheduling t.name).mono ?_)
    rintro _ _ ⟨rfl, rfl⟩
    exact ⟨rfl, rfl⟩

/-- A node gets its debug pod if one is asked for. -/
def deployIfAsked (t : Target) : Pass Unit :=
  if t.debug.enabled then stepInTurn "deploy debug pod on" t.name (deployDebug t) else pure ()

theorem prepareNode_eq (t : Target) :
    prepareNode t = deployIfAsked t >>= fun _ =>
      stepInTurn "check isolation of" t.name (isIsolated t.name) >>= fun isolated =>
        if isolated then pure ()
        else stepInTurn "cordon" t.name (disableScheduling t.name) >>= fun _ =>
          stepInTurn "isolate workloads on" t.name (isolate t t.isolate) := by
  unfold prepareNode deployIfAsked
  cases t.debug.enabled with
  | true => rfl
  | false => rfl

theorem staysIn_deployIfAsked {P : Footprint} (t : Target) : StaysIn P J (deployIfAsked t) := by
  unfold deployIfAsked
  split
  · exact staysIn_stepInTurn (staysIn_deployDebug t)
  · exact staysIn_pure ()

/-- Preparing a node closes it and, if it is to be isolated, lets its workloads stay there. -/
theorem staysIn_prepareNode (t : Target) :
    StaysIn (fun m b => b = true ∧
      (m = .closed t.name ∨ t.isolate = true ∧ ∃ r ∈ t.resources, m = .tolerating r.key)) J
      (prepareNode t) := by
  rw [prepareNode_eq]
  refine staysIn_bind (staysIn_deployIfAsked t) fun _ =>
    staysIn_bind (staysIn_stepInTurn (staysIn_isIsolated _)) fun isolated => ?_
  cases isolated with
  | true => exact staysIn_pure ()
  | false =>
    refine staysIn_bind ?_ fun _ => ?_
    · refine staysIn_stepInTurn ((staysIn_disableScheduling t.name).mono ?_)
      rintro _ _ ⟨rfl, rfl⟩
      exact ⟨rfl, .inl rfl⟩
    · refine staysIn_stepInTurn ((staysIn_isolate t t.isolate).mono ?_)
      rintro _ _ ⟨hiso, hmark, rfl⟩
      exact ⟨rfl, .inr ⟨hiso, hmark⟩⟩

/-- Starting a node taints it, if it is to be isolated. -/
theorem staysIn_startNode (t : Target)
    (hJ : ∀ l, J l → J { l with records := l.records.insert t.name t.observed }) :
    StaysIn (fun m b => b = true ∧ t.isolate = true ∧ m = .tainted t.name) J (startNode t) := by
  unfold startNode
  refine staysIn_bind (staysIn_step (Drain.obeys_deschedule t)) fun _ => ?_
  cases hiso : t.isolate with
  | true =>
    refine staysIn_bind (staysIn_stepInTurn ((staysIn_taintNode t.name).mono ?_)) fun _ =>
      staysIn_modify hJ
    rintro _ _ ⟨rfl, rfl⟩
    exact ⟨rfl, rfl, rfl⟩
  | false => exact staysIn_modify hJ

/-- The toleration is taken from the workloads that a node's record has and the node has not. -/
def removeDropped (t : Target) : Option ObservedNode → Pass Unit
  | some o => removeTolerations t.name (droppedResources t o)
  | none => pure ()

/-- What is left of isolation on a node that is not to be isolated any more is taken off. -/
def unisolate (t : Target) (previous : Option ObservedNode) : Pass Unit :=
  if !t.isolate && (previous.map (·.isolate)).getD false then do
    stepInTurn "untaint" t.name (untaintNode t.name)
    removeTolerations t.name t.resources
  else pure ()

/-- An isolated node is brought into line. -/
def adjust (t : Target) (previous : Option ObservedNode) : Pass Unit := do
  stepInTurn "isolate workloads on" t.name (isolate t t.isolate)
  unisolate t previous
  record t

theorem convergeNode_eq (t : Target) :
    convergeNode t = get >>= fun l => removeDropped t (l.records.get? t.name) >>= fun _ =>
      stepInTurn "check isolation of" t.name (isIsolated t.name) >>= fun isolated =>
        if isolated then adjust t (l.records.get? t.name)
        else prepareNode t >>= fun _ => startNode t := by
  unfold convergeNode
  refine congrArg _ (funext fun l => ?_)
  -- The two differ in the order of the branches, and `unisolate` joins what is done conditionally.
  have hrest : (fun isolated : Bool =>
      if (!isolated) = true then prepareNode t >>= fun _ => startNode t
      else stepInTurn "isolate workloads on" t.name (isolate t t.isolate) >>= fun _ =>
        if (!t.isolate && ((l.records.get? t.name).map (·.isolate)).getD false) = true then
          stepInTurn "untaint" t.name (untaintNode t.name) >>= fun _ =>
            removeTolerations t.name t.resources >>= fun _ => record t
        else record t) =
      fun isolated => if isolated then adjust t (l.records.get? t.name)
        else prepareNode t >>= fun _ => startNode t := by
    funext isolated
    cases isolated with
    | false => rfl
    | true =>
      simp only [Bool.not_true, Bool.false_eq_true, if_false, if_true, adjust, unisolate]
      split
      · simp only [bind_assoc]
      · simp only [pure_bind]
  rw [← hrest]
  cases l.records.get? t.name with
  | some o => rfl
  | none => simp only [removeDropped, pure_bind]

/-- Bringing a node into line touches marks that the node reaches, and takes the toleration from
workloads. -/
theorem staysIn_convergeNode (t : Target)
    (hJ : ∀ l, J l → J { l with records := l.records.insert t.name t.observed }) :
    StaysIn (fun m b => t.Reaches m ∨ b = false ∧ ∃ key, m = .tolerating key) J
      (convergeNode t) := by
  have hremove : ∀ resources, StaysIn
      (fun m b => t.Reaches m ∨ b = false ∧ ∃ key, m = .tolerating key) J
      (removeTolerations t.name resources) := fun resources =>
    (staysIn_removeTolerations t.name resources).mono fun m b h => by
      obtain ⟨⟨r, -, rfl⟩, hb⟩ := h
      exact .inr ⟨hb, r.key, rfl⟩
  rw [convergeNode_eq]
  refine staysIn_get fun l _ => staysIn_bind ?_ fun _ =>
    staysIn_bind (staysIn_stepInTurn (staysIn_isIsolated _)) fun isolated => ?_
  · cases l.records.get? t.name with
    | some o => exact hremove _
    | none => exact staysIn_pure ()
  cases isolated with
  | false =>
    refine staysIn_bind ?_ fun _ => ?_
    · refine (staysIn_prepareNode t).mono ?_
      rintro _ _ ⟨-, rfl | ⟨-, r, hr, rfl⟩⟩
      · exact .inl rfl
      · exact .inl ⟨r, hr, rfl⟩
    · refine (staysIn_startNode t hJ).mono ?_
      rintro _ _ ⟨-, -, rfl⟩
      exact .inl rfl
  | true =>
    refine staysIn_bind ?_ fun _ => staysIn_bind ?_ fun _ => staysIn_modify hJ
    · refine staysIn_stepInTurn ((staysIn_isolate t t.isolate).mono ?_)
      rintro _ _ ⟨-, ⟨r, hr, rfl⟩, -⟩
      exact .inl ⟨r, hr, rfl⟩
    · unfold unisolate
      split
      · refine staysIn_bind ?_ fun _ => hremove _
        refine staysIn_stepInTurn ((staysIn_untaintNode t.name).mono ?_)
        rintro _ _ ⟨rfl, -⟩
        exact .inl rfl
      · exact staysIn_pure ()

/-! ## What whole passes touch -/

theorem run_advance (next : Phase) (l : Lifecycle) :
    (advance next).run.run l = match l.phase.transition next with
      | .ok phase => .done (.ok (), { l with phase })
      | .error e => .done (.error e, l) := by
  unfold advance
  rw [run_bind]
  change (match l.phase.transition next with
    | .ok phase => set { l with phase }
    | .error e => throw e : Pass Unit).run.run l = _
  split
  · rfl
  · rfl

/-- A move to another phase leaves the scene alone and changes nothing but the phase. -/
theorem runs_advance {next : Phase} {l l' : Lifecycle} {s t : Scene}
    {r : Except ControllerError Unit} (h : Runs others (advance next) l s r l' t) :
    t = s ∧ ∃ phase, l' = { l with phase } := by
  unfold Runs at h
  rw [run_advance] at h
  split at h
  · obtain ⟨hr, rfl⟩ := h
    cases hr
    exact ⟨rfl, _, rfl⟩
  · obtain ⟨hr, rfl⟩ := h
    cases hr
    exact ⟨rfl, l.phase, rfl⟩

theorem runs_advance_bind {α : Type} {next : Phase} {f : Unit → Pass α} {l l' : Lifecycle}
    {s t : Scene} {a : α} (h : Runs others (advance next >>= f) l s (.ok a) l' t) :
    ∃ phase, Runs others (f ()) { l with phase } s (.ok a) l' t := by
  obtain ⟨_, k, d, hadvance, hf⟩ := runs_bind h
  obtain ⟨rfl, phase, rfl⟩ := runs_advance hadvance
  exact ⟨phase, hf⟩

theorem staysIn_advance {P : Footprint} (next : Phase)
    (hJ : ∀ l phase, J l → J { l with phase }) : StaysIn P J (advance next) := by
  intro l hl
  rw [run_advance]
  split
  · exact hJ l _ hl
  · exact hl

/-- A lifecycle that has these nodes to bring into shape and these to give up. -/
def Concerns (nodes marked : List Target) (l : Lifecycle) : Prop :=
  l.nodes = nodes ∧ l.marked = marked

/-- The marks that some node reaches are cleared. -/
def clears (nodes : List Target) : Footprint := fun m b => (∃ n ∈ nodes, n.Reaches m) ∧ b = false

/-- Nodes are closed, and the workloads of those to be isolated tolerate the taint. -/
def prepares (nodes : List Target) : Footprint := fun m b => b = true ∧ ∃ n ∈ nodes,
  m = .closed n.name ∨ n.isolate = true ∧ ∃ r ∈ n.resources, m = .tolerating r.key

/-- The nodes to be isolated are tainted. -/
def starts (nodes : List Target) : Footprint := fun m b => b = true ∧ ∃ n ∈ nodes,
  n.isolate = true ∧ m = .tainted n.name

/-- The marks that some node reaches are set or cleared, all others are only cleared. -/
def claims (nodes : List Target) : Footprint := fun m b => b = true → ∃ n ∈ nodes, n.Reaches m

theorem claims_of_prepares {nodes : List Target} {m : Mark} {b : Bool}
    (h : prepares nodes m b) : claims nodes m b := by
  obtain ⟨-, n, hn, rfl | ⟨-, r, hr, rfl⟩⟩ := h
  · exact fun _ => ⟨n, hn, rfl⟩
  · exact fun _ => ⟨n, hn, r, hr, rfl⟩

variable (nodes marked : List Target)

theorem staysIn_reverseAll (us : List Target)
    (hJ : ∀ u ∈ us, ∀ l, J l → J { l with records := l.records.erase u.name }) :
    StaysIn (clears us) J (us.forM reverseNode) := by
  refine staysIn_forM fun t ht => ?_
  rw [reverseNode_eq]
  refine staysIn_bind ((staysIn_undo t).mono ?_) fun _ => staysIn_modify (hJ t ht)
  exact fun m b h => ⟨⟨t, ht, h.1⟩, h.2⟩

theorem staysIn_reverseMarked :
    StaysIn (clears marked) (Concerns nodes marked) reverseMarked := by
  refine staysIn_get fun l hl => ?_
  rw [hl.2]
  exact staysIn_reverseAll marked fun _ _ _ h => h

theorem staysIn_prepareAll : StaysIn (prepares nodes) J (nodes.forM prepareNode) :=
  staysIn_forM fun n hn => (staysIn_prepareNode n).mono fun _ _ h => ⟨h.1, n, hn, h.2⟩

theorem staysIn_prepare :
    StaysIn (fun m b => clears marked m b ∨ prepares nodes m b) (Concerns nodes marked)
      prepare := by
  refine staysIn_bind (staysIn_advance _ fun _ _ h => h) fun _ => staysIn_bind ?_ fun _ =>
    staysIn_get fun l hl => ?_
  · exact (staysIn_reverseMarked nodes marked).mono fun _ _ => .inl
  · rw [hl.1]
    exact (staysIn_prepareAll nodes).mono fun _ _ => .inr

theorem staysIn_startAll (hJ : ∀ n ∈ nodes, ∀ l, J l →
      J { l with records := l.records.insert n.name n.observed }) :
    StaysIn (starts nodes) J (nodes.forM startNode) :=
  staysIn_forM fun n hn => (staysIn_startNode n (hJ n hn)).mono fun _ _ h => ⟨h.1, n, hn, h.2⟩

theorem staysIn_start : StaysIn (starts nodes) (Concerns nodes marked) start := by
  refine staysIn_bind (staysIn_advance _ fun _ _ h => h) fun _ => staysIn_get fun l hl => ?_
  rw [hl.1]
  exact staysIn_startAll nodes fun _ _ _ h => h

/-- The node that an update brings into line is the first one that has changed. -/
def firstChanged (l : Lifecycle) : Option Target := l.nodes.find? l.hasChanged

/-- Brings the first node that has changed into line, if there is one. -/
def convergeFirst (l : Lifecycle) : Pass Unit :=
  match l.firstChanged with
  | some t => convergeNode t
  | none => pure ()

theorem update_eq : update = advance .updating >>= fun _ => reverseMarked >>= fun _ =>
    get >>= fun l => convergeFirst l >>= fun _ => advance .active := by
  unfold update
  refine congrArg _ (funext fun _ => congrArg _ (funext fun _ => congrArg _ (funext fun l => ?_)))
  unfold convergeFirst firstChanged
  cases l.nodes.find? l.hasChanged with
  | some t => rfl
  | none => rfl

theorem staysIn_update : StaysIn (claims nodes) (Concerns nodes marked) update := by
  rw [update_eq]
  refine staysIn_bind (staysIn_advance _ fun _ _ h => h) fun _ => staysIn_bind ?_ fun _ =>
    staysIn_get fun l hl => staysIn_bind ?_ fun _ => staysIn_advance _ fun _ _ h => h
  -- Reversing sets nothing, and bringing a node into line sets only what the node reaches.
  · refine (staysIn_reverseMarked nodes marked).mono fun m b h hb => ?_
    rw [hb] at h
    cases h.2
  · unfold convergeFirst
    cases hfind : l.firstChanged with
    | none => exact staysIn_pure ()
    | some t =>
      have hmem : t ∈ nodes := hl.1 ▸ List.mem_of_find?_eq_some hfind
      refine (staysIn_convergeNode t fun _ h => h).mono fun m b h hb => ?_
      rcases h with hreach | ⟨hfalse, -⟩
      · exact ⟨t, hmem, hreach⟩
      · cases hb.symm.trans hfalse

/-- What a reconcile does to a quarantine that is not deleted: it is brought in place, or, if it is
in place, brought into line. -/
def settle (wasActive : Bool) : Pass Unit :=
  if wasActive then update else prepare >>= fun _ => start

theorem staysIn_settle (wasActive : Bool) :
    StaysIn (claims nodes) (Concerns nodes marked) (settle wasActive) := by
  cases wasActive with
  | true => exact staysIn_update nodes marked
  | false =>
    refine staysIn_bind ((staysIn_prepare nodes marked).mono ?_) fun _ =>
      (staysIn_start nodes marked).mono ?_
    · rintro m b (h | h)
      · intro hb
        rw [hb] at h
        cases h.2
      · exact claims_of_prepares h
    · rintro _ _ ⟨-, n, hn, -, rfl⟩ -
      exact ⟨n, hn, rfl⟩

theorem staysIn_stop : StaysIn (clears (nodes ++ marked)) (Concerns nodes marked) stop := by
  refine staysIn_bind (staysIn_advance _ fun _ _ h => h) fun _ =>
    staysIn_get fun l hl => staysIn_bind ?_ fun _ => ?_
  · rw [hl.1, hl.2]
    exact staysIn_reverseAll _ fun _ _ _ h => h
  · exact staysIn_stepInTurn staysIn_cleanupIsolatedPods

/-! ## What undoing achieves -/

variable {m : Mark} {R : Scene → Bool} {l l' : Lifecycle} {s t' : Scene}

/-- A workload that the toleration has been taken from does not tolerate the taint, and going on
with the list does not give it back. -/
theorem intolerant_of_removeTolerations {node : String} {resources : List ResourceRef}
    {r : ResourceRef} (hr : r ∈ resources) (hR : Reading others (.tolerating r.key) R)
    (h : Runs others (removeTolerations node resources) l s (.ok ()) l' t') : R t' = false := by
  -- Once a workload is clear it stays so, since the rest of the list only clears.
  induction resources generalizing l s with
  | nil => cases hr
  | cons a rest ih =>
    change Runs others (stepInTurn _ node (removeToleration a) >>= fun _ =>
      removeTolerations node rest) l s (.ok ()) l' t' at h
    obtain ⟨_, k, d, hhead, hrest⟩ := runs_bind h
    rcases List.mem_cons.1 hr with rfl | hr
    · have hclear := cleared_of_stepInTurn hR
        (fun _ _ => intolerant_of_removeToleration hR) hhead
      exact clear_of_runs (J := fun _ => True) hR (staysIn_removeTolerations node rest)
        (fun hP => by cases hP.2) trivial hrest hclear
    · exact ih hr hrest

/-- Undoing a node that succeeds has cleared every mark that the node reaches. -/
theorem not_reached_of_undo {n : Target} (hR : Reading others m R) (hm : n.Reaches m)
    (h : Runs others (undo n) l s (.ok ()) l' t') : R t' = false := by
  -- Five steps, each of which clears its own marks and sets none.
  obtain ⟨_, l₁, s₁, huntaint, h⟩ := runs_bind h
  obtain ⟨_, l₂, s₂, hremove, h⟩ := runs_bind h
  obtain ⟨_, l₃, s₃, hdebug, h⟩ := runs_bind h
  obtain ⟨_, l₄, s₄, hpods, hopen⟩ := runs_bind h
  -- What the debug pod, the marked pods and opening the node have to do with is never set.
  have hlast : R s₂ = false → R t' = false := by
    intro hs₂
    have hs₃ := clear_of_runs (J := fun _ => True) hR
      (staysIn_stepInTurn (P := .nothing) (staysIn_removeDebug _ _)) id trivial hdebug hs₂
    have hs₄ := clear_of_runs (J := fun _ => True) hR
      (staysIn_stepInTurn (P := .nothing) (staysIn_removeIsolatedPods _)) id trivial hpods hs₃
    exact clear_of_runs (J := fun _ => True) hR (staysIn_stepInTurn (staysIn_enableScheduling _))
      (fun hP => by cases hP.2) trivial hopen hs₄
  cases m with
  | closed name =>
    cases (hm : n.name = name)
    exact cleared_of_stepInTurn hR (fun _ _ => open_of_enableScheduling hR) hopen
  | tainted name =>
    cases (hm : n.name = name)
    have hs₁ := cleared_of_stepInTurn hR (fun _ _ => untainted_of_untaintNode hR) huntaint
    refine hlast (clear_of_runs (J := fun _ => True) hR
      (staysIn_removeTolerations n.name n.resources) (fun hP => by cases hP.2) trivial hremove hs₁)
  | tolerating key =>
    obtain ⟨r, hr, rfl⟩ := hm
    exact hlast (intolerant_of_removeTolerations hr hR hremove)

/-- Of the nodes that are reversed in turn, none has a mark left at the end. -/
theorem not_reached_of_reverseAll {us : List Target} (hR : Reading others m R)
    (hm : ∃ u ∈ us, u.Reaches m) (h : Runs others (us.forM reverseNode) l s (.ok ()) l' t') :
    R t' = false := by
  -- As for workloads: the nodes that are reversed later set no mark.
  induction us generalizing l s with
  | nil =>
    obtain ⟨u, hu, -⟩ := hm
    cases hu
  | cons u rest ih =>
    change Runs others (reverseNode u >>= fun _ => rest.forM reverseNode) l s (.ok ()) l' t' at h
    obtain ⟨_, k, d, hhead, hrest⟩ := runs_bind h
    obtain ⟨v, hv, hreach⟩ := hm
    rcases List.mem_cons.1 hv with rfl | hv
    · rw [reverseNode_eq] at hhead
      obtain ⟨_, k', d', hundo, hforget⟩ := runs_bind hhead
      have hclear : R d = false := by
        obtain ⟨-, -, rfl⟩ := runs_modify hforget
        exact not_reached_of_undo hR hreach hundo
      exact clear_of_runs (J := fun _ => True) hR (staysIn_reverseAll rest fun _ _ _ h => h)
        (fun hP => by cases hP.2) trivial hrest hclear
    · exact ih ⟨v, hv, hreach⟩ hrest

/-- A stop that succeeds has cleared every mark that a node reaches, named or dropped. -/
theorem not_reached_of_stop (hR : Reading others m R)
    (hm : ∃ u ∈ l.nodes ++ l.marked, u.Reaches m)
    (h : Runs others stop l s (.ok ()) l' t') : R t' = false := by
  obtain ⟨phase, hloop⟩ := runs_advance_bind h
  obtain ⟨_, k, d, hreverse, hpods⟩ := runs_bind (runs_get.1 hloop)
  have hclear := not_reached_of_reverseAll hR hm hreverse
  exact clear_of_runs (J := fun _ => True) hR
    (staysIn_stepInTurn (P := .nothing) staysIn_cleanupIsolatedPods) id trivial hpods hclear

end Lifecycle

end Cordon
