import Cordon.Proofs.Isolation.Ends

/-! # Edits of taints and tolerations

Our entries in a list of taints or tolerations are told by key and value.  `Repelling.Edits` says
how one is put in and how all are taken out, and both kinds of lists are edited so
(`edits_taints`, `edits_tolerations`).

On a cluster an edit of one object is all or nothing (`Isolation.Mends`), whatever calls fail.
Bringing a node into shape edits several workloads and may stop in between: some of them have been
lent the toleration by then (`Isolation.Lent`, `meets_isolate`).
-/

namespace Cordon

open Kube (Node Pod)

/-! ## Lists with entries of our own -/

namespace Repelling

variable {α : Type}

/-- How entries of our own are put into a list and taken out of it.  Nothing is answered where there
is nothing to do; else all other entries stay as they stand. -/
structure Edits (ours : α → Prop) [DecidablePred ours] (mark : α)
    (put take : List α → Option (List α)) : Prop where
  mark_ours : ours mark
  put_eq_none : ∀ l, put l = none ↔ ∃ a ∈ l, ours a
  put_eq_some : ∀ l l', put l = some l' ↔ (∀ a ∈ l, ¬ ours a) ∧ l' = l ++ [mark]
  take_eq_none : ∀ l, take l = none ↔ ∀ a ∈ l, ¬ ours a
  take_eq_some : ∀ l l', take l = some l' ↔ (∃ a ∈ l, ours a) ∧ l' = l.filter (¬ ours ·)

/-- A taint with the key and the value of the quarantine taint. -/
def OurTaint (t : Kube.Taint) : Prop :=
  t.key = Convention.taintKey ∧ t.value = some Convention.taintValue

/-- A toleration with the key and the value of the quarantine taint. -/
def OurToleration (t : Kube.Toleration) : Prop :=
  t.key = some Convention.taintKey ∧ t.value = some Convention.taintValue

instance : DecidablePred OurTaint := fun t =>
  inferInstanceAs (Decidable (t.key = Convention.taintKey ∧ t.value = some Convention.taintValue))

instance : DecidablePred OurToleration := fun t =>
  inferInstanceAs
    (Decidable (t.key = some Convention.taintKey ∧ t.value = some Convention.taintValue))

theorem isQuarantineTaint_iff {t : Kube.Taint} : isQuarantineTaint t = true ↔ OurTaint t := by
  simp [isQuarantineTaint, OurTaint]

theorem isQuarantineToleration_iff {t : Kube.Toleration} :
    isQuarantineToleration t = true ↔ OurToleration t := by
  simp [isQuarantineToleration, OurToleration]

section Edits

variable {ours : α → Prop} [DecidablePred ours] {mark : α} {put take : List α → Option (List α)}
  {l l' : List α}

theorem Edits.put_ne (h : Edits ours mark put take) (hput : put l = some l') : l' ≠ l := by
  obtain ⟨-, rfl⟩ := (h.put_eq_some l l').1 hput
  simp

theorem Edits.take_ne (h : Edits ours mark put take) (htake : take l = some l') : l' ≠ l := by
  obtain ⟨⟨a, ha, hours⟩, rfl⟩ := (h.take_eq_some l l').1 htake
  intro hsame
  simpa [hours] using List.filter_eq_self.1 hsame a ha

end Edits

theorem edits_of_iff {ours : α → Prop} [DecidablePred ours] {mark : α} {is : α → Bool}
    (his : ∀ a, is a = true ↔ ours a) (hmark : ours mark) :
    Edits ours mark (fun l => if l.any is then none else some (l ++ [mark]))
      fun l => if l.any is then some (l.filter fun a => !is a) else none := by
  have hany : ∀ l : List α, l.any is = true ↔ ∃ a ∈ l, ours a := fun l => by simp [his]
  have hnone : ∀ l : List α, ¬ l.any is = true ↔ ∀ a ∈ l, ¬ ours a := fun l => by simp [hany]
  have hothers : ∀ l : List α, (l.filter fun a => !is a) = l.filter (¬ ours ·) := fun l =>
    List.filter_congr fun a _ => by simp [← his]
  refine ⟨hmark, fun l => ?_, fun l l' => ?_, fun l => ?_, fun l l' => ?_⟩
  · rw [← hany]
    split <;> simp [*]
  · rw [← hnone]
    split <;> simp [*, eq_comm]
  · rw [← hnone]
    split <;> simp [*]
  · rw [← hany, ← hothers]
    split <;> simp [*, eq_comm]

theorem edits_taints : Edits OurTaint quarantineTaint withTaint withoutTaint :=
  edits_of_iff (fun _ => isQuarantineTaint_iff) (by decide)

theorem edits_tolerations :
    Edits OurToleration quarantineToleration withToleration withoutToleration :=
  edits_of_iff (fun _ => isQuarantineToleration_iff) (by decide)

end Repelling

/-- Calls that replace taints or tolerations. -/
def ClusterCall.replaces : ClusterCall → Bool
  | setNodeTaints _ _ | setWorkloadTolerations _ _ => true
  | _ => false

theorem ClusterCall.not_replaces_of_looksUp {c : ClusterCall} (hc : Controller.LooksUp c) :
    c.replaces = false := by
  cases c with
  | setNodeTaints _ _ | setWorkloadTolerations _ _ => exact hc.elim
  | _ => rfl

/-! ## What is put on -/

def Kube.Node.tainted (n : Node) : Node :=
  if Repelling.hasTaint n.taints then n
  else n.withTaints (n.taints ++ [Repelling.quarantineTaint])

theorem Kube.Node.name_tainted (n : Node) : n.tainted.name = n.name := by
  unfold tainted
  split <;> rfl

def Workload.tolerant (w : Workload) : Workload :=
  if Repelling.hasToleration w.tolerations then w
  else { w with tolerations := w.tolerations ++ [Repelling.quarantineToleration] }

namespace Workload

theorem hasToleration_tolerant (w : Workload) :
    Repelling.hasToleration w.tolerant.tolerations = true := by
  unfold tolerant
  split
  · next h => exact h
  · simp [Repelling.hasToleration, Repelling.isQuarantineToleration,
      Repelling.quarantineToleration]

theorem tolerant_tolerant (w : Workload) : w.tolerant.tolerant = w.tolerant := by
  rw [tolerant, if_pos w.hasToleration_tolerant]

theorem key_tolerant (w : Workload) : w.tolerant.key = w.key := by
  unfold tolerant
  split <;> rfl

theorem claims_tolerant (w : Workload) (p : Pod) : w.tolerant.claims p = w.claims p := by
  unfold tolerant
  split <;> rfl

end Workload

/-! ## Nodes and workloads without entries of ours -/

open Repelling

namespace Kube.Node

/-- The node with its quarantine taints left out. -/
def bare (n : Node) : Node := n.withTaints (n.taints.filter (¬ OurTaint ·))

theorem tainted_eq (n : Node) : n.tainted = (withTaint n.taints).elim n n.withTaints := by
  unfold tainted withTaint
  split <;> rfl

theorem untainted_eq (n : Node) : n.untainted = (withoutTaint n.taints).elim n n.withTaints := by
  unfold untainted withoutTaint
  split <;> rfl

theorem hasTaint_tainted (n : Node) : hasTaint n.tainted.taints = true := by
  unfold tainted
  split
  · next h => exact h
  · simp [hasTaint, isQuarantineTaint, quarantineTaint]

theorem tainted_tainted (n : Node) : n.tainted.tainted = n.tainted := by
  rw [tainted, if_pos n.hasTaint_tainted]

theorem taints_untainted (n : Node) : n.untainted.taints = n.taints.filter (¬ OurTaint ·) := by
  unfold untainted
  split
  · refine List.filter_congr fun t _ => ?_
    simp [← isQuarantineTaint_iff]
  · next h =>
    refine (List.filter_eq_self.2 fun t ht => ?_).symm
    simpa [← isQuarantineTaint_iff] using fun htaint => h (List.any_eq_true.2 ⟨t, ht, htaint⟩)

theorem untainted_untainted (n : Node) : n.untainted.untainted = n.untainted := by
  have htaint : hasTaint n.untainted.taints = false := by
    rw [taints_untainted, hasTaint, List.any_filter, List.any_eq_false]
    intro t _
    simp [← isQuarantineTaint_iff]
  rw [untainted, htaint, if_neg Bool.false_ne_true]

theorem withTaints_withTaints (n : Node) (l l' : List Kube.Taint) :
    (n.withTaints l).withTaints l' = n.withTaints l' := rfl

theorem bare_tainted (n : Node) : n.tainted.bare = n.bare := by
  unfold tainted
  split
  · rfl
  · have hmark : OurTaint quarantineTaint := edits_taints.mark_ours
    simp [bare, withTaints_withTaints, hmark]

theorem bare_untainted (n : Node) : n.untainted.bare = n.bare := by
  have hfilter : n.untainted.bare = n.untainted.withTaints (n.taints.filter (¬ OurTaint ·)) := by
    rw [bare, taints_untainted, List.filter_filter]
    simp
  rw [hfilter, bare]
  unfold untainted
  split
  · rfl
  · rfl

end Kube.Node

namespace Workload

theorem tolerant_eq (w : Workload) : w.tolerant =
    (withToleration w.tolerations).elim w fun l => { w with tolerations := l } := by
  unfold tolerant withToleration
  split <;> rfl

theorem stripped_eq (w : Workload) : w.stripped =
    (withoutToleration w.tolerations).elim w fun l => { w with tolerations := l } := by
  unfold withoutToleration
  split
  · rfl
  · next h => exact w.stripped_of_intolerant (by simpa using h)

theorem key_stripped (w : Workload) : w.stripped.key = w.key := rfl

theorem stripped_tolerant (w : Workload) : w.tolerant.stripped = w.stripped := by
  unfold tolerant
  split
  · rfl
  · simp [stripped, isQuarantineToleration, quarantineToleration]

end Workload

namespace Isolation

open Clustered ClusterState

variable {s t m : ClusterState} {keys : List ResourceKey} {key : ResourceKey}

/-! ## Edits of one object -/

/-- A change is made, or an error is returned and there is none. -/
def AllOrNothing (f : ClusterState → ClusterState) (s : ClusterState)
    (r : Except IsolationError Unit) (t : ClusterState) : Prop :=
  (r = .ok () ∧ t = f s) ∨ (t = s ∧ ∃ e, r = .error e)

/-- One change is made at most, and only look-ups if it would change nothing. -/
def Mends (p : Clustered Unit) (s : ClusterState) (f : ClusterState → ClusterState) : Prop :=
  p.Meets s (fun c => Controller.LooksUp c ∨ f s ≠ s) (AllOrNothing f s)

theorem Mends.inspects {p : Clustered Unit} {f : ClusterState → ClusterState} (h : Mends p s f)
    (hf : f s = s) : Controller.Inspects s p := by
  intro d r t hs hfollows
  obtain ⟨hcalls, ht⟩ := h d r t hs hfollows
  refine ⟨?_, fun e he => (hcalls e he).resolve_right fun hne => hne hf⟩
  obtain ⟨-, rfl⟩ | ⟨rfl, -⟩ := ht
  · exact hf
  · rfl

/-- An edit that has succeeded has been made in full. -/
theorem eq_of_mends {p : Clustered Unit} {f : ClusterState → ClusterState}
    (hp : Mends p s f) (h : p.run.Attains Documented s (.ok ()) t) : t = f s := by
  obtain ⟨-, rfl⟩ | ⟨-, e, he⟩ := hp.of_attains h
  · rfl
  · cases he

theorem mends_setNodeTaints {edit : List Kube.Taint → Option (List Kube.Taint)} {f : Node → Node}
    (hf : ∀ n, f n = (edit n.taints).elim n n.withTaints)
    (hedit : ∀ l l', edit l = some l' → l' ≠ l) {n : Node} {name : String}
    (hn : s.findNode name = some n) :
    Mends (match edit n.taints with
      | some taints => call (.setNodeTaints n taints)
      | none => pure ()) s (·.changeNode name f) := by
  obtain rfl := name_of_findNode hn
  have hname : ∀ n, (f n).name = n.name := by
    intro n
    rw [hf]
    cases edit n.taints <;> rfl
  cases hl : edit n.taints with
  | none =>
    refine meets_pure (.inl ⟨rfl, (changeNode_of_fixed fun n' hn' => ?_).symm⟩)
    cases hn.symm.trans hn'
    rw [hf, hl]
    rfl
  | some l =>
    refine meets_call (by simp) (.inr fun hsame => ?_) (.inl ?_) fun e _ => .inr ⟨rfl, e, rfl⟩
    -- The list that is written is another one than the node has, so that the cluster changes.
    · have hfound : (s.changeNode n.name f).findNode n.name = s.findNode n.name :=
        congrArg (·.findNode n.name) hsame
      rw [findNode_changeNode s hname, if_pos rfl, hn, Option.map_some, Option.some.injEq, hf,
        hl] at hfound
      exact hedit _ _ hl (congrArg Node.taints hfound)
    · simp only [perform, onNode, hn, true_and]
      refine changeNode_congr fun n' hn' => ?_
      cases hn.symm.trans hn'
      rw [hf, hl]
      rfl

theorem mends_setWorkloadTolerations
    {edit : List Kube.Toleration → Option (List Kube.Toleration)} {f : Workload → Workload}
    (hf : ∀ w, f w = (edit w.tolerations).elim w fun l => { w with tolerations := l })
    (hedit : ∀ l l', edit l = some l' → l' ≠ l) {w : Workload} {key : ResourceKey}
    (hw : s.findWorkload key = some w) :
    Mends (match edit w.tolerations with
      | some tolerations => call (.setWorkloadTolerations w tolerations)
      | none => pure ()) s (·.changeWorkload key f) := by
  obtain rfl := key_of_findWorkload hw
  have hkey : ∀ w, (f w).key = w.key := by
    intro w
    rw [hf]
    cases edit w.tolerations <;> rfl
  cases hl : edit w.tolerations with
  | none =>
    refine meets_pure (.inl ⟨rfl, (changeWorkload_of_fixed fun w' hw' => ?_).symm⟩)
    cases hw.symm.trans hw'
    rw [hf, hl]
    rfl
  | some l =>
    refine meets_call (by simp) (.inr fun hsame => ?_) (.inl ?_) fun e _ => .inr ⟨rfl, e, rfl⟩
    · have hfound : (s.changeWorkload w.key f).findWorkload w.key = s.findWorkload w.key :=
        congrArg (·.findWorkload w.key) hsame
      rw [findWorkload_changeWorkload s hkey, if_pos rfl, hw, Option.map_some, Option.some.injEq,
        hf, hl] at hfound
      exact hedit _ _ hl (congrArg Workload.tolerations hfound)
    · simp only [perform, onWorkload, hw, true_and]
      refine changeWorkload_congr fun w' hw' => ?_
      cases hw.symm.trans hw'
      rw [hf, hl]
      rfl

theorem mends_taintNode (s : ClusterState) (name : String) :
    Mends (taintNode name) s (·.changeNode name Node.tainted) := by
  refine meets_bind (meets_lookUp (finds_getNode s name) (.inl trivial) (fun n hn => ?_)
    fun e _ => .inr ⟨rfl, e, rfl⟩)
  exact mends_setNodeTaints Node.tainted_eq (fun _ _ => edits_taints.put_ne) hn

theorem mends_untaintNode (s : ClusterState) (name : String) :
    Mends (untaintNode name) s (·.changeNode name Node.untainted) := by
  refine meets_bind (meets_ifPresent (finds_getNode s name) (.inl trivial) ?_
    fun e => .inr ⟨rfl, e, rfl⟩)
  cases hn : s.findNode name with
  | none => exact meets_pure (.inl ⟨rfl, (changeNode_of_absent hn).symm⟩)
  | some n => exact mends_setNodeTaints Node.untainted_eq (fun _ _ => edits_taints.take_ne) hn

theorem mends_addToleration {w : Workload} (hw : s.findWorkload key = some w) :
    Mends (addToleration w) s (·.changeWorkload key Workload.tolerant) :=
  mends_setWorkloadTolerations Workload.tolerant_eq (fun _ _ => edits_tolerations.put_ne) hw

theorem mends_removeToleration (s : ClusterState) (r : ResourceRef) :
    Mends (removeToleration r) s (·.changeWorkload r.key Workload.stripped) := by
  refine meets_bind (meets_ifPresent (finds_getWorkload s r.key) (.inl trivial) ?_
    fun e => .inr ⟨rfl, e, rfl⟩)
  cases hw : s.findWorkload r.key with
  | none => exact meets_pure (.inl ⟨rfl, (changeWorkload_of_absent hw).symm⟩)
  | some w =>
    exact mends_setWorkloadTolerations Workload.stripped_eq
      (fun _ _ => edits_tolerations.take_ne) hw

/-! ## Workloads that are lent the toleration -/

/-- Nodes are as they were, and so are workloads, but that some have been lent the toleration. -/
structure Lent (keys : List ResourceKey) (s t : ClusterState) : Prop where
  nodes : t.nodes = s.nodes
  others : t.workloads.map Workload.stripped = s.workloads.map Workload.stripped
  workloads : ∀ key, t.findWorkload key =
    (s.findWorkload key).map fun w => if key ∈ keys then w.tolerant else w

theorem lent_nothing (hnodes : t.nodes = s.nodes) (hworkloads : t.workloads = s.workloads) :
    Lent [] s t where
  nodes := hnodes
  others := by rw [hworkloads]
  workloads key := by simp [findWorkload, hworkloads]

theorem lent_changeWorkload (s : ClusterState) (key : ResourceKey) :
    Lent [key] s (s.changeWorkload key Workload.tolerant) where
  nodes := rfl
  others := Shelf.map_changeFirst Workload.stripped_tolerant _ _
  workloads key' := by
    rw [findWorkload_changeWorkload s Workload.key_tolerant]
    by_cases h : key = key'
    · simp [h]
    · simp [h, Ne.symm h]

theorem Lent.trans {keys' : List ResourceKey} (h : Lent keys s m) (h' : Lent keys' m t) :
    Lent (keys ++ keys') s t where
  nodes := h'.nodes.trans h.nodes
  others := h'.others.trans h.others
  workloads key := by
    rw [h'.workloads, h.workloads, Option.map_map]
    refine Option.map_congr fun w _ => ?_
    by_cases hkey : key ∈ keys
    · by_cases hkey' : key ∈ keys'
      · simp [hkey, hkey', Workload.tolerant_tolerant]
      · simp [hkey, hkey']
    · simp [hkey]

/-- Whether a workload is there and has no quarantine toleration. -/
def Lacks (s : ClusterState) (key : ResourceKey) : Prop :=
  ∃ w, s.findWorkload key = some w ∧ hasToleration w.tolerations = false

theorem Lent.lacks (h : Lent keys s t) (hlacks : Lacks t key) : Lacks s key ∧ key ∉ keys := by
  obtain ⟨w', hw', hintolerant⟩ := hlacks
  rw [h.workloads] at hw'
  obtain ⟨w, hw, rfl⟩ := Option.map_eq_some_iff.1 hw'
  by_cases hkey : key ∈ keys
  · simp [hkey, Workload.hasToleration_tolerant] at hintolerant
  · rw [if_neg hkey] at hintolerant
    exact ⟨⟨w, hw, hintolerant⟩, hkey⟩

/-- The workloads that are lent the toleration when a node is brought into shape. -/
def lends (isolated : Bool) (resources : List ResourceRef) : List ResourceKey :=
  if isolated then resources.map (·.key) else []

/-- Tolerations are replaced only if one of these workloads lacks ours. -/
def Spares (s : ClusterState) (keys : List ResourceKey) (c : ClusterCall) : Prop :=
  c.replaces = true → ∃ key ∈ keys, Lacks s key

/-- Some of these workloads have been lent the toleration, and after a success all of them are there
and have been lent it. -/
def Lends (keys : List ResourceKey) (s : ClusterState) (r : Except IsolationError Unit)
    (t : ClusterState) : Prop :=
  ∃ lent, Lent lent s t ∧ lent ⊆ keys ∧
    (r = .ok () → lent = keys ∧ ∀ key ∈ keys, (s.findWorkload key).isSome = true)

theorem lends_nothing {e : IsolationError} (h : Lent [] s t) : Lends keys s (.error e) t :=
  ⟨[], h, by simp, by simp⟩

theorem meets_markPods (node : String) (w : Workload) (s : ClusterState) :
    (markPods node w).Meets s (·.replaces = false) fun _ t => Lent [] s t := by
  have hrefl : Lent [] s s := lent_nothing rfl rfl
  unfold markPods
  split
  · exact meets_pure hrefl
  · refine meets_bind (meets_call (by simp) rfl ?_ fun e _ => hrefl)
    refine meets_forM (fun p _ m hm => ?_) hrefl
    unfold markPod
    split
    · split
      · next patch _ =>
        refine meets_call (by simp) rfl ?_ fun e _ => hm
        have hsame : Lent [] m (m.perform (.patchPodLabels p patch)).2 := by
          simp only [perform]
          split
          · exact lent_nothing rfl rfl
          · exact lent_nothing rfl rfl
        exact hm.trans hsame
      · exact meets_pure hm
    · exact meets_pure hm

theorem meets_isolateWorkload (node : String) (isolated : Bool) (r : ResourceRef)
    (s : ClusterState) :
    (isolateWorkload node isolated r).Meets s (Spares s (lends isolated [r]))
      (Lends (lends isolated [r]) s) := by
  have hrefl : Lent [] s s := lent_nothing rfl rfl
  have hlookUp : Spares s (lends isolated [r]) (.getWorkload r.key) := fun h => by cases h
  refine meets_bind (meets_lookUp (finds_getWorkload s r.key) hlookUp (fun w hw => ?_)
    fun e _ => lends_nothing hrefl)
  refine meets_bind ((meets_markPods node w s).mono (fun c hc h => by simp [hc] at h)
    fun res m hm => ?_)
  cases res with
  | error e => exact lends_nothing hm
  | ok _ =>
    cases isolated with
    | false => exact meets_pure ⟨[], hm, by simp, fun _ => ⟨rfl, by simp [lends]⟩⟩
    | true =>
      have hw' : m.findWorkload r.key = some w := by
        rw [hm.workloads, hw]
        rfl
      refine (mends_addToleration hw').mono (fun c hc h => ?_) fun res t ht => ?_
      · rcases hc with hc | hchanges
        · rw [ClusterCall.not_replaces_of_looksUp hc] at h
          cases h
        · refine ⟨r.key, by simp [lends], w, hw, Bool.eq_false_iff.2 fun htolerant => ?_⟩
          refine hchanges (changeWorkload_of_fixed fun w' hfound => ?_)
          cases hw'.symm.trans hfound
          rw [Workload.tolerant, if_pos htolerant]
      · obtain ⟨rfl, rfl⟩ | ⟨rfl, e, rfl⟩ := ht
        · exact ⟨[r.key], hm.trans (lent_changeWorkload m r.key), by simp [lends],
            fun _ => ⟨rfl, by simp [lends, hw]⟩⟩
        · exact lends_nothing hm

theorem meets_isolate (u : Target) (isolated : Bool) (s : ClusterState) :
    (isolate u isolated).Meets s (Spares s (lends isolated u.resources))
      (Lends (lends isolated u.resources) s) := by
  unfold isolate
  generalize u.resources = resources
  induction resources generalizing s with
  | nil => exact meets_pure ⟨[], lent_nothing rfl rfl, by simp, fun _ => by simp [lends]⟩
  | cons r rest ih =>
    have hlends : lends isolated (r :: rest) = lends isolated [r] ++ lends isolated rest := by
      cases isolated <;> simp [lends]
    show (isolateWorkload u.name isolated r >>= fun _ =>
      rest.forM (isolateWorkload u.name isolated)).Meets s _ _
    rw [hlends]
    refine meets_bind ((meets_isolateWorkload u.name isolated r s).mono (fun c hc h => ?_)
      fun res m hm => ?_)
    · obtain ⟨key, hkey, hlacks⟩ := hc h
      exact ⟨key, List.mem_append_left _ hkey, hlacks⟩
    · obtain ⟨lent, hlent, hsub, hall⟩ := hm
      cases res with
      | error e => exact ⟨lent, hlent, fun k hk => List.mem_append_left _ (hsub hk), by simp⟩
      | ok _ =>
        -- A workload that lacks the toleration by now has lacked it from the start.
        refine (ih m).mono (fun c hc h => ?_) fun res t ht => ?_
        · obtain ⟨key, hkey, hlacks⟩ := hc h
          exact ⟨key, List.mem_append_right _ hkey, (hlent.lacks hlacks).1⟩
        · obtain ⟨lent', hlent', hsub', hall'⟩ := ht
          refine ⟨lent ++ lent', hlent.trans hlent', ?_, fun h => ?_⟩
          · exact List.append_subset.2 ⟨fun k hk => List.mem_append_left _ (hsub hk),
              fun k hk => List.mem_append_right _ (hsub' hk)⟩
          · obtain ⟨rfl, hthere⟩ := hall rfl
            obtain ⟨rfl, hthere'⟩ := hall' h
            refine ⟨rfl, fun key hkey => ?_⟩
            rcases List.mem_append.1 hkey with hkey | hkey
            · exact hthere key hkey
            · simpa [hlent.workloads] using hthere' key hkey

end Isolation

end Cordon
