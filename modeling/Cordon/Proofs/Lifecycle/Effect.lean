import Cordon.Proofs.Lifecycle.Coverage

/-! # What the parts of a pass make of marks

A part of a pass that succeeds determines what becomes of the marks that the others leave alone.
A workload tolerates the taint after it if it has been lent the toleration, or did before and has
not lost it; a node is tainted after it if it was before and has not been untainted.

A pass looks at a node to see whether it is isolated, and others may open or close the node until
then.  If they leave the node alone, what the pass finds is what there was at the start.
-/

namespace Cordon

/-- Whether a node is closed and tainted. -/
def Scene.isolates (s : Scene) (node : String) : Bool :=
  s.cluster.shows (.closed node) && s.cluster.shows (.tainted node)

/-- The others leave it as it is whether a node is isolated. -/
def NodeUntouched (others : ClusterState → ClusterState → Prop) (node : String) : Prop :=
  Untouched others (.closed node) ∧ Untouched others (.tainted node)

namespace Lifecycle

open Pass Isolation

section Effect

variable {others : ClusterState → ClusterState → Prop} {α : Type} {P : Footprint} {p : Pass α}
  {r : Except ControllerError α} {l l' : Lifecycle} {s t : Scene} {n : Target}
  {node : String} {m : Mark} {key : ResourceKey}

/-! ## Steps -/

/-- What a pass does not touch stays as it is. -/
theorem shows_eq (hm : Untouched others m) (hp : StaysIn P (fun _ => True) p)
    (hP : ∀ b, ¬ P m b) (h : Runs others p l s r l' t) :
    t.cluster.shows m = s.cluster.shows m :=
  eq_of_runs (steady_shows hm) hp hP trivial h

/-- A pass that neither opens, closes, taints nor untaints a node leaves it isolated or not. -/
theorem isolates_eq (hnode : NodeUntouched others node) (hp : StaysIn P (fun _ => True) p)
    (hclosed : ∀ b, ¬ P (.closed node) b) (htainted : ∀ b, ¬ P (.tainted node) b)
    (h : Runs others p l s r l' t) : t.isolates node = s.isolates node := by
  rw [Scene.isolates, Scene.isolates, shows_eq hnode.1 hp hclosed h,
    shows_eq hnode.2 hp htainted h]

theorem isolates_of_check {label : String} {b : Bool} (hnode : NodeUntouched others node)
    (h : Runs others (stepInTurn label node (isIsolated node)) l s (.ok b) l' t) :
    b = s.isolates node := by
  obtain ⟨-, d, hd, -⟩ := runs_stepInTurn h
  have hb : b = (s.withFlights []).isolates node := eq_of_isIsolated hnode.1 hnode.2 hd
  exact hb

/-- Isolating the workloads of a node lends them the toleration if the node is to be isolated. -/
theorem tolerating_of_isolate {label : String} (hkey : Untouched others (.tolerating key))
    (h : Runs others (stepInTurn label n.name (isolate n n.isolate)) l s (.ok ()) l' t) :
    t.cluster.shows (.tolerating key) = true ↔
      s.cluster.shows (.tolerating key) = true ∨
        n.isolate = true ∧ n.Reaches (.tolerating key) := by
  have hstays : StaysIn _ (fun _ => True) (stepInTurn label n.name (isolate n n.isolate)) :=
    staysIn_stepInTurn (staysIn_isolate n n.isolate)
  constructor
  · intro ht
    rcases gained_of_runs (steady_shows hkey).toReading hstays trivial h ht with
      hs | ⟨hiso, ⟨r, hr, heq⟩, -⟩
    · exact .inl hs
    · cases heq
      exact .inr ⟨hiso, r, hr, rfl⟩
  · rintro (hs | ⟨hiso, r, hr, rfl⟩)
    · refine (lost_of_runs (steady_shows hkey) hstays trivial h hs).resolve_right ?_
      rintro ⟨-, -, hb⟩
      cases hb
    · rw [hiso] at h
      obtain ⟨-, d, hd, rfl⟩ := runs_stepInTurn h
      show d.cluster.shows (.tolerating r.key) = true
      exact tolerant_of_isolate hr hkey hd

/-- A pass that only clears marks, and clears all of some, leaves the others that were there. -/
theorem shows_of_clearing (hm : Untouched others m) (hp : StaysIn P (fun _ => True) p)
    (hclears : ∀ b, P m b → b = false) (hgone : P m false → t.cluster.shows m = false)
    (h : Runs others p l s r l' t) :
    t.cluster.shows m = true ↔ s.cluster.shows m = true ∧ ¬ P m false := by
  constructor
  · intro ht
    refine ⟨?_, fun hP => ?_⟩
    · refine (gained_of_runs (steady_shows hm).toReading hp trivial h ht).resolve_right fun hP => ?_
      cases hclears true hP
    · rw [hgone hP] at ht
      cases ht
  · rintro ⟨hs, hnot⟩
    exact (lost_of_runs (steady_shows hm) hp trivial h hs).resolve_right hnot

/-- Taking tolerations away leaves all other workloads as they are. -/
theorem tolerating_of_removeTolerations {resources : List ResourceRef}
    (hkey : Untouched others (.tolerating key))
    (h : Runs others (removeTolerations node resources) l s (.ok ()) l' t) :
    t.cluster.shows (.tolerating key) = true ↔
      s.cluster.shows (.tolerating key) = true ∧ ¬ ∃ r ∈ resources, r.key = key := by
  have hiff : Footprint.tolerations resources false (.tolerating key) false ↔
      ∃ r ∈ resources, r.key = key := by
    constructor
    · rintro ⟨⟨r, hr, heq⟩, -⟩
      cases heq
      exact ⟨r, hr, rfl⟩
    · rintro ⟨r, hr, rfl⟩
      exact ⟨⟨r, hr, rfl⟩, rfl⟩
  rw [← hiff]
  refine shows_of_clearing hkey (staysIn_removeTolerations node resources) (fun b hb => hb.2)
    (fun hP => ?_) h
  obtain ⟨r, hr, rfl⟩ := hiff.1 hP
  exact intolerant_of_removeTolerations hr (steady_shows hkey).toReading h

/-- Reversing dropped nodes clears what they reach and leaves the rest. -/
theorem shows_of_reverseMarked (hm : Untouched others m)
    (h : Runs others reverseMarked l s (.ok ()) l' t) :
    t.cluster.shows m = true ↔
      s.cluster.shows m = true ∧ ¬ ∃ u ∈ l.marked, u.Reaches m := by
  have hall := runs_get.1 h
  have hiff : clears l.marked m false ↔ ∃ u ∈ l.marked, u.Reaches m :=
    ⟨fun h => h.1, fun h => ⟨h, rfl⟩⟩
  rw [← hiff]
  refine shows_of_clearing hm (staysIn_reverseAll l.marked fun _ _ _ h => h) (fun b hb => hb.2)
    (fun hP => ?_) hall
  exact not_reached_of_reverseAll (steady_shows hm).toReading hP.1 hall

/-! ## Nodes -/

/-- Preparing a node lends its workloads the toleration, unless it finds the node isolated. -/
theorem tolerating_of_prepareNode (h : Runs others (prepareNode n) l s (.ok ()) l' t) :
    ∃ b, (NodeUntouched others n.name → b = s.isolates n.name) ∧
      ∀ key, Untouched others (.tolerating key) →
        (t.cluster.shows (.tolerating key) = true ↔ s.cluster.shows (.tolerating key) = true ∨
          n.isolate = true ∧ n.Reaches (.tolerating key) ∧ b = false) := by
  rw [prepareNode_eq] at h
  obtain ⟨_, l₁, s₁, hdeploy, hrest⟩ := runs_bind h
  obtain ⟨b, l₂, s₂, hcheck, hrest⟩ := runs_bind hrest
  have hfirst : ∀ {m}, Untouched others m → s₂.cluster.shows m = s.cluster.shows m := by
    intro m hm
    rw [shows_eq hm (staysIn_stepInTurn (P := .nothing) (staysIn_isIsolated _)) (fun _ => id)
      hcheck, shows_eq hm (staysIn_deployIfAsked (P := .nothing) n) (fun _ => id) hdeploy]
  -- The debug pod and the look at the node leave all marks as they are.
  refine ⟨b, fun hnode => ?_, fun key hkey => ?_⟩
  · rw [isolates_of_check hnode hcheck]
    exact isolates_eq hnode (staysIn_deployIfAsked (P := .nothing) n) (fun _ => id) (fun _ => id)
      hdeploy
  · cases b with
    | true =>
      obtain ⟨-, rfl, rfl⟩ := runs_pure hrest
      rw [hfirst hkey]
      simp
    | false =>
      obtain ⟨_, l₃, s₃, hcordon, hisolate⟩ := runs_bind hrest
      have hs₃ : s₃.cluster.shows (.tolerating key) = s₂.cluster.shows (.tolerating key) :=
        shows_eq hkey (staysIn_stepInTurn (staysIn_disableScheduling n.name))
          (fun _ hP => by cases hP.1) hcordon
      rw [tolerating_of_isolate hkey hisolate, hs₃, hfirst hkey]
      simp

/-- Preparing several nodes: what is done to one of them leaves open whether the others are
isolated. -/
theorem tolerating_of_prepareAll {ns : List Target} (hnames : (ns.map (·.name)).Nodup)
    (h : Runs others (ns.forM prepareNode) l s (.ok ()) l' t) :
    ∃ skipped : String → Bool,
      (∀ n ∈ ns, NodeUntouched others n.name → skipped n.name = s.isolates n.name) ∧
      ∀ key, Untouched others (.tolerating key) →
        (t.cluster.shows (.tolerating key) = true ↔ s.cluster.shows (.tolerating key) = true ∨
          ∃ n ∈ ns, n.isolate = true ∧ n.Reaches (.tolerating key) ∧ skipped n.name = false) := by
  induction ns generalizing l s with
  | nil =>
    obtain ⟨-, rfl, rfl⟩ := runs_pure h
    exact ⟨fun _ => false, by simp, fun key _ => by simp⟩
  | cons a rest ih =>
    change Runs others (prepareNode a >>= fun _ => rest.forM prepareNode) l s (.ok ()) l' t at h
    rw [List.map_cons, List.nodup_cons] at hnames
    obtain ⟨_, k, d, hhead, hrest⟩ := runs_bind h
    obtain ⟨b, hb, hd⟩ := tolerating_of_prepareNode hhead
    obtain ⟨skipped, hskipped, ht⟩ := ih hnames.2 hrest
    have hne : ∀ n ∈ rest, n.name ≠ a.name := fun n hn heq =>
      hnames.1 (heq ▸ List.mem_map_of_mem (f := (·.name)) hn)
    refine ⟨Function.update skipped a.name b, fun n hn hnode => ?_, fun key hkey => ?_⟩
    -- Preparing the first node closes no other node, so the later looks find what was there before.
    · rcases List.mem_cons.1 hn with rfl | hn
      · rw [Function.update_self]
        exact hb hnode
      · rw [Function.update_of_ne (hne n hn), hskipped n hn hnode]
        refine isolates_eq hnode (staysIn_prepareNode a) ?_ ?_ hhead
        · rintro b ⟨-, heq | ⟨-, r, -, heq⟩⟩
          · exact hne n hn (Mark.closed.inj heq)
          · cases heq
        · rintro b ⟨-, heq | ⟨-, r, -, heq⟩⟩
          · cases heq
          · cases heq
    · rw [ht key hkey, hd key hkey]
      constructor
      · rintro ((hs | ⟨hiso, hreach, hfree⟩) | ⟨n, hn, hiso, hreach, hfree⟩)
        · exact .inl hs
        · exact .inr ⟨a, by simp, hiso, hreach, by rw [Function.update_self]; exact hfree⟩
        · refine .inr ⟨n, by simp [hn], hiso, hreach, ?_⟩
          rw [Function.update_of_ne (hne n hn)]
          exact hfree
      · rintro (hs | ⟨n, hn, hiso, hreach, hfree⟩)
        · exact .inl (.inl hs)
        · rcases List.mem_cons.1 hn with rfl | hn
          · rw [Function.update_self] at hfree
            exact .inl (.inr ⟨hiso, hreach, hfree⟩)
          · rw [Function.update_of_ne (hne n hn)] at hfree
            exact .inr ⟨n, hn, hiso, hreach, hfree⟩

/-- A workload is on record for a node that does not track it any more. -/
def Drops (n : Target) (previous : Option ObservedNode) (key : ResourceKey) : Prop :=
  ∃ o ∈ previous, ∃ r ∈ droppedResources n o, r.key = key

instance (n : Target) (previous : Option ObservedNode) (key : ResourceKey) :
    Decidable (Drops n previous key) := inferInstanceAs (Decidable (∃ o ∈ previous, _))

/-- A node that is not to be isolated any more is on record as isolated. -/
def WasIsolated (n : Target) (previous : Option ObservedNode) : Prop :=
  n.isolate = false ∧ ∃ o ∈ previous, o.isolate = true

instance (n : Target) (previous : Option ObservedNode) : Decidable (WasIsolated n previous) :=
  inferInstanceAs (Decidable (_ ∧ ∃ o ∈ previous, _))

section Converge

variable {previous : Option ObservedNode}

theorem staysIn_removeDropped {J : Lifecycle → Prop} (n : Target)
    (previous : Option ObservedNode) :
    StaysIn (fun m b => b = false ∧ ∃ key, m = .tolerating key) J (removeDropped n previous) := by
  cases previous with
  | some o =>
    refine (staysIn_removeTolerations n.name _).mono fun m b h => ?_
    obtain ⟨⟨r, -, rfl⟩, hb⟩ := h
    exact ⟨hb, r.key, rfl⟩
  | none => exact staysIn_pure ()

theorem tolerating_of_removeDropped (hkey : Untouched others (.tolerating key))
    (h : Runs others (removeDropped n previous) l s (.ok ()) l' t) :
    t.cluster.shows (.tolerating key) = true ↔
      s.cluster.shows (.tolerating key) = true ∧ ¬ Drops n previous key := by
  unfold Drops
  cases previous with
  | some o =>
    rw [tolerating_of_removeTolerations hkey h]
    simp
  | none =>
    obtain ⟨-, -, rfl⟩ := runs_pure h
    simp

/-- Bringing a node into line takes the toleration from dropped workloads, looks whether the node
is isolated, and goes on from there. -/
theorem runs_convergeNode (h : Runs others (convergeNode n) l s (.ok ()) l' t) :
    ∃ b d e, Runs others (removeDropped n (l.records.get? n.name)) l s (.ok ()) l d ∧
      (NodeUntouched others n.name → b = s.isolates n.name ∧
        e.isolates n.name = s.isolates n.name) ∧
      (∀ m, Untouched others m → e.cluster.shows m = d.cluster.shows m) ∧
      Runs others (if b then adjust n (l.records.get? n.name)
        else prepareNode n >>= fun _ => startNode n) l e (.ok ()) l' t := by
  rw [convergeNode_eq] at h
  obtain ⟨_, l₁, d, hremove, hrest⟩ := runs_bind (runs_get.1 h)
  obtain ⟨b, l₂, e, hcheck, hrest⟩ := runs_bind hrest
  cases kept_of_runs (J := (· = l)) (staysIn_removeDropped n _) rfl hremove
  cases (runs_stepInTurn hcheck).1
  have hstays : StaysIn .nothing (fun _ => True)
      (stepInTurn "check isolation of" n.name (isIsolated n.name)) :=
    staysIn_stepInTurn (staysIn_isIsolated n.name)
  refine ⟨b, d, e, hremove, fun hnode => ?_, fun m hm => shows_eq hm hstays (fun _ => id) hcheck,
    hrest⟩
  have hd : d.isolates n.name = s.isolates n.name := by
    refine isolates_eq hnode (staysIn_removeDropped n _) ?_ ?_ hremove
    · rintro b ⟨-, key, heq⟩
      cases heq
    · rintro b ⟨-, key, heq⟩
      cases heq
  refine ⟨(isolates_of_check hnode hcheck).trans hd, Eq.trans ?_ hd⟩
  exact isolates_eq hnode hstays (fun _ => id) (fun _ => id) hcheck

/-- What is left of isolation is taken off exactly if the node was isolated. -/
theorem runs_unisolate (h : Runs others (unisolate n previous) l s (.ok ()) l' t) :
    (WasIsolated n previous ∧ ∃ k d,
      Runs others (stepInTurn "untaint" n.name (untaintNode n.name)) l s (.ok ()) k d ∧
      Runs others (removeTolerations n.name n.resources) k d (.ok ()) l' t) ∨
    ¬ WasIsolated n previous ∧ l' = l ∧ t = s := by
  have hwas : (!n.isolate && (previous.map (·.isolate)).getD false) = true ↔
      WasIsolated n previous := by
    unfold WasIsolated
    cases previous <;> simp
  unfold unisolate at h
  split at h
  · next hcond =>
    obtain ⟨_, k, d, huntaint, hremove⟩ := runs_bind h
    exact .inl ⟨hwas.1 hcond, k, d, huntaint, hremove⟩
  · next hcond =>
    obtain ⟨-, rfl, rfl⟩ := runs_pure h
    exact .inr ⟨fun hw => hcond (hwas.2 hw), rfl, rfl⟩

/-- Bringing an isolated node into line lends its workloads the toleration, or takes it from them if
the node is not to be isolated any more; then its taint goes as well. -/
theorem runs_adjust (h : Runs others (adjust n previous) l s (.ok ()) l' t) :
    l' = { l with records := l.records.insert n.name n.observed } ∧
    (∀ key, Untouched others (.tolerating key) → (t.cluster.shows (.tolerating key) = true ↔
      n.isolate = true ∧ n.Reaches (.tolerating key) ∨ s.cluster.shows (.tolerating key) = true ∧
        ¬ (WasIsolated n previous ∧ n.Reaches (.tolerating key)))) ∧
    (Untouched others (.tainted n.name) → (t.cluster.shows (.tainted n.name) = true ↔
      s.cluster.shows (.tainted n.name) = true ∧ ¬ WasIsolated n previous)) := by
  obtain ⟨_, l₁, d, hisolate, hrest⟩ := runs_bind h
  obtain ⟨_, l₂, e, hunisolate, hrecord⟩ := runs_bind hrest
  obtain ⟨-, rfl, rfl⟩ := runs_modify hrecord
  obtain ⟨rfl, -⟩ := runs_stepInTurn hisolate
  have hd : Untouched others (.tainted n.name) →
      d.cluster.shows (.tainted n.name) = s.cluster.shows (.tainted n.name) := by
    intro hnode
    refine shows_eq hnode (staysIn_stepInTurn (staysIn_isolate n n.isolate)) ?_ hisolate
    rintro b ⟨-, ⟨r, -, heq⟩, -⟩
    cases heq
  -- Marking and lending come first, so what is taken off then is taken from all workloads.
  rcases runs_unisolate hunisolate with ⟨hwas, k, f, huntaint, hremove⟩ | ⟨hnot, rfl, rfl⟩
  · cases (runs_stepInTurn huntaint).1
    cases kept_of_runs (J := (· = l₁)) (staysIn_removeTolerations n.name n.resources) rfl hremove
    refine ⟨rfl, fun key hkey => ?_, fun hnode => ?_⟩
    · have hf : f.cluster.shows (.tolerating key) = d.cluster.shows (.tolerating key) :=
        shows_eq hkey (staysIn_stepInTurn (staysIn_untaintNode n.name))
          (fun _ hP => by cases hP.1) huntaint
      have hreach : (∃ r ∈ n.resources, r.key = key) ↔ n.Reaches (.tolerating key) := Iff.rfl
      rw [tolerating_of_removeTolerations hkey hremove, hf, tolerating_of_isolate hkey hisolate,
        hreach, hwas.1]
      simp [hwas]
    · have hR := (steady_shows hnode).toReading
      have hf : f.cluster.shows (.tainted n.name) = false :=
        cleared_of_stepInTurn hR (fun _ _ => untainted_of_untaintNode hR) huntaint
      have ht : t.cluster.shows (.tainted n.name) = f.cluster.shows (.tainted n.name) := by
        refine shows_eq hnode (staysIn_removeTolerations n.name n.resources) ?_ hremove
        rintro b ⟨⟨r, -, heq⟩, -⟩
        cases heq
      rw [ht, hf]
      simp [hwas]
  · refine ⟨rfl, fun key hkey => ?_, fun hnode => ?_⟩
    · rw [tolerating_of_isolate hkey hisolate]
      simp only [hnot, false_and, not_false_eq_true, and_true]
      exact or_comm
    · rw [hd hnode]
      simp [hnot]

/-- Starting a node leaves tolerations as they are, and records the node. -/
theorem runs_startNode (h : Runs others (startNode n) l s (.ok ()) l' t) :
    l' = { l with records := l.records.insert n.name n.observed } ∧
    ∀ m, Untouched others m → (n.isolate = true → m ≠ .tainted n.name) →
      t.cluster.shows m = s.cluster.shows m := by
  refine ⟨?_, fun m hm hne => ?_⟩
  · obtain ⟨_, l₁, d, hdeschedule, hrest⟩ := runs_bind h
    cases (runs_step hdeschedule).1
    cases hiso : n.isolate with
    | true =>
      simp only [hiso, if_true] at hrest
      obtain ⟨_, l₂, e, htaint, hrecord⟩ := runs_bind hrest
      cases (runs_stepInTurn htaint).1
      exact (runs_modify hrecord).2.1
    | false =>
      simp only [hiso, Bool.false_eq_true, if_false] at hrest
      exact (runs_modify hrest).2.1
  · refine shows_eq hm (staysIn_startNode n fun _ h => h) ?_ h
    rintro b ⟨-, hiso, rfl⟩
    exact hne hiso rfl

/-- What becomes of the marks of a node that is brought into line: `b` says whether it is found
isolated, and `c` whether it is found isolated when it is then prepared. -/
theorem effect_of_convergeNode (h : Runs others (convergeNode n) l s (.ok ()) l' t) :
    ∃ b c, l' = { l with records := l.records.insert n.name n.observed } ∧
      (NodeUntouched others n.name → b = s.isolates n.name ∧ c = s.isolates n.name) ∧
      (∀ key, Untouched others (.tolerating key) → (t.cluster.shows (.tolerating key) = true ↔
        n.isolate = true ∧ n.Reaches (.tolerating key) ∧ (b = true ∨ c = false) ∨
          s.cluster.shows (.tolerating key) = true ∧ ¬ (Drops n (l.records.get? n.name) key ∨
            b = true ∧ WasIsolated n (l.records.get? n.name) ∧ n.Reaches (.tolerating key)))) ∧
      (n.isolate = false → Untouched others (.tainted n.name) →
        (t.cluster.shows (.tainted n.name) = true ↔ s.cluster.shows (.tainted n.name) = true ∧
          ¬ (b = true ∧ WasIsolated n (l.records.get? n.name)))) := by
  obtain ⟨b, d, e, hremove, hb, he, hrest⟩ := runs_convergeNode h
  have htolerating : ∀ key, Untouched others (.tolerating key) →
      (e.cluster.shows (.tolerating key) = true ↔ s.cluster.shows (.tolerating key) = true ∧
        ¬ Drops n (l.records.get? n.name) key) := by
    intro key hkey
    rw [he _ hkey]
    exact tolerating_of_removeDropped hkey hremove
  have htainted : Untouched others (.tainted n.name) →
      e.cluster.shows (.tainted n.name) = s.cluster.shows (.tainted n.name) := by
    intro hnode
    rw [he _ hnode]
    refine shows_eq hnode (staysIn_removeDropped n _) ?_ hremove
    rintro b ⟨-, key, heq⟩
    cases heq
  -- A node that is found isolated is brought into line where it stands, any other is started anew.
  cases b with
  | true =>
    obtain ⟨hl, ht, htaint⟩ := runs_adjust hrest
    refine ⟨true, true, hl, fun hnode => ⟨(hb hnode).1, (hb hnode).1⟩, fun key hkey => ?_,
      fun _ hnode => ?_⟩
    · rw [ht key hkey, htolerating key hkey]
      simp only [true_or, and_true, true_and, not_or, and_assoc]
    · rw [htaint hnode, htainted hnode]
      simp
  | false =>
    obtain ⟨_, k, f, hprepare, hstart⟩ := runs_bind hrest
    cases kept_of_runs (J := (· = l)) (staysIn_prepareNode n) rfl hprepare
    obtain ⟨c, hc, hf⟩ := tolerating_of_prepareNode hprepare
    obtain ⟨hl, ht⟩ := runs_startNode hstart
    refine ⟨false, c, hl, fun hnode => ⟨(hb hnode).1, ?_⟩, fun key hkey => ?_,
      fun hiso hnode => ?_⟩
    · rw [hc hnode, (hb hnode).2]
    · rw [ht _ hkey (fun _ heq => by cases heq), hf key hkey, htolerating key hkey]
      simp only [Bool.false_eq_true, false_and, false_or, or_false]
      exact or_comm
    · have hprepared : f.cluster.shows (.tainted n.name) = e.cluster.shows (.tainted n.name) := by
        refine shows_eq hnode (staysIn_prepareNode n) ?_ hprepare
        rintro b ⟨-, heq | ⟨-, r, -, heq⟩⟩
        · cases heq
        · cases heq
      rw [ht _ hnode (fun htrue => by rw [hiso] at htrue; cases htrue), hprepared, htainted hnode]
      simp

end Converge

end Effect

end Lifecycle

end Cordon
