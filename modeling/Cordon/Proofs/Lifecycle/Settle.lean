import Cordon.Proofs.Lifecycle.Effect
import Mathlib.Data.List.Find

/-! # What a quarantine comes to when it is settled

`Lifecycle.settle` brings a quarantine in place, or brings its first changed node into line if it
is in place.  The main statement, `outcome_of_settle`, says what a success has made of the records
and of the marks that the others leave alone.

It also shows how nodes get in each other's way.  A workload that several nodes track loses its
toleration with the first of them that is dropped (`Strips`), and gets it back only from a node
that the pass brings into shape and does not find isolated already (`Lends`).  A taint is taken off
only where an update meets a node that is isolated, and on record as such (`Unisolates`).

What a pass finds when it looks at nodes is its `Sight`.  Of a node that the others leave alone, it
finds what there was at the start (`Outcome.sight`).
-/

namespace Cordon

/-- The nodes that a pass finds isolated when it looks at them. -/
structure Sight where
  /-- At the first look, when a node is to be brought into line. -/
  met : String → Bool
  /-- When a node is to be prepared; if it is isolated then it is left as it is. -/
  prepared : String → Bool

/-- Two sights are the same for a node. -/
def Sight.Agrees (v w : Sight) (n : Target) : Prop :=
  v.met n.name = w.met n.name ∧ v.prepared n.name = w.prepared n.name

/-- What there is to see in a scene. -/
def Scene.sight (s : Scene) : Sight := ⟨s.isolates, s.isolates⟩

namespace Lifecycle

open Pass Isolation

/-! ## What a pass brings into shape -/

variable (l : Lifecycle) (v : Sight)

/-- The nodes of the request that a pass brings into shape: all of them, or, if the quarantine is in
place, the first one that has changed. -/
def Attends (n : Target) : Prop := l.wasActive = true → l.firstChanged = some n

/-- A pass lets a workload onto a node to be isolated.  It does not if it finds the node isolated
only when it prepares it. -/
def Lends (key : ResourceKey) : Prop :=
  ∃ n ∈ l.nodes, l.Attends n ∧ n.isolate = true ∧ n.Reaches (.tolerating key) ∧
    (l.wasActive = true ∧ v.met n.name = true ∨ v.prepared n.name = false)

/-- A pass finds a node isolated that is on record as isolated, and is not to be isolated any more.
-/
def Unisolates (n : Target) : Prop :=
  l.wasActive = true ∧ l.firstChanged = some n ∧ v.met n.name = true ∧
    WasIsolated n (l.records.get? n.name)

/-- A pass takes the toleration from a workload: with a dropped node, because a node does not track
it any more, or with a node that is not to be isolated any more. -/
def Strips (key : ResourceKey) : Prop :=
  (∃ u ∈ l.marked, u.Reaches (.tolerating key)) ∨
  l.wasActive = true ∧ ∃ n ∈ l.firstChanged, Drops n (l.records.get? n.name) key ∨
    l.Unisolates v n ∧ n.Reaches (.tolerating key)

instance (n : Target) : Decidable (l.Attends n) := inferInstanceAs (Decidable (_ → _))

instance (key : ResourceKey) : Decidable (l.Lends v key) :=
  inferInstanceAs (Decidable (∃ n ∈ _, _))

instance (n : Target) : Decidable (l.Unisolates v n) := inferInstanceAs (Decidable (_ ∧ _))

instance (key : ResourceKey) : Decidable (l.Strips v key) := inferInstanceAs (Decidable (_ ∨ _))

/-- What a pass that succeeds has made of records and marks. -/
structure Outcome (others : ClusterState → ClusterState → Prop) (s : Scene) (l' : Lifecycle)
    (t : Scene) : Prop where
  sight : ∀ n ∈ l.nodes, NodeUntouched others n.name → v.Agrees s.sight n
  records : ∀ n ∈ l.nodes, (l.Attends n → l'.records.get? n.name = some n.observed) ∧
    (¬ l.Attends n → l'.records.get? n.name = l.records.get? n.name)
  tolerating : ∀ key, Untouched others (.tolerating key) →
    (t.cluster.shows (.tolerating key) = true ↔
      l.Lends v key ∨ s.cluster.shows (.tolerating key) = true ∧ ¬ l.Strips v key)
  tainted : ∀ n ∈ l.nodes, (l.Attends n → n.isolate = false) →
    Untouched others (.tainted n.name) → (t.cluster.shows (.tainted n.name) = true ↔
      s.cluster.shows (.tainted n.name) = true ∧ ¬ l.Unisolates v n)

variable {l v}

/-! Only what is seen of the nodes of the request matters. -/

section Agree

variable {w : Sight} (hagree : ∀ n ∈ l.nodes, v.Agrees w n)

include hagree

theorem lends_congr {key : ResourceKey} : l.Lends v key ↔ l.Lends w key := by
  refine exists_congr fun n => and_congr_right fun hn => ?_
  rw [(hagree n hn).1, (hagree n hn).2]

theorem unisolates_congr {n : Target} : l.Unisolates v n ↔ l.Unisolates w n := by
  refine and_congr_right fun _ => and_congr_right fun hn => ?_
  rw [(hagree n (List.mem_of_find?_eq_some hn)).1]

theorem strips_congr {key : ResourceKey} : l.Strips v key ↔ l.Strips w key := by
  refine or_congr_right (and_congr_right fun _ => exists_congr fun n => ?_)
  rw [unisolates_congr hagree]

end Agree

section Settle

variable {others : ClusterState → ClusterState → Prop} {l' : Lifecycle} {s t : Scene} {n : Target}
  {m : Mark} {key : ResourceKey}

/-! ## Dropped nodes -/

/-- A lifecycle that differs at most in the phase and in the records of dropped nodes. -/
structure Alike (l k : Lifecycle) : Prop where
  concerns : Concerns l.nodes l.marked k
  wasActive : k.wasActive = l.wasActive
  records : ∀ n ∈ l.nodes, k.records.get? n.name = l.records.get? n.name

theorem Alike.firstChanged {k : Lifecycle} (h : Alike l k) : k.firstChanged = l.firstChanged := by
  unfold Lifecycle.firstChanged
  rw [h.concerns.1]
  refine List.find?_congr fun n hn => ?_
  rw [hasChanged, hasChanged, h.records n hn]

/-- What the dropped nodes reach is gone, and all else is as it was. -/
def Reversed (others : ClusterState → ClusterState → Prop) (l : Lifecycle) (s t : Scene) : Prop :=
  ∀ m, Untouched others m → (t.cluster.shows m = true ↔
    s.cluster.shows m = true ∧ ¬ ∃ u ∈ l.marked, u.Reaches m)

/-- Once dropped nodes are reversed, the pass goes on from a lifecycle that is alike. -/
theorem runs_reverseMarked {k : Lifecycle} (hnames : Apart l.nodes l.marked) (hk : Alike l k)
    (h : Runs others reverseMarked k s (.ok ()) l' t) :
    Alike l l' ∧ Reversed others l s t := by
  have hstays : StaysIn (clears l.marked) (Alike l) reverseMarked := by
    refine staysIn_get fun k hk => ?_
    rw [hk.concerns.2]
    refine staysIn_reverseAll l.marked fun u hu j hj => ⟨hj.concerns, hj.wasActive, fun n hn => ?_⟩
    have hne : ¬ u.name = n.name := hnames.apart u hu n hn
    rw [← hj.records n hn, Dict.get?_erase, if_neg hne]
  refine ⟨kept_of_runs hstays hk h, fun m hm => ?_⟩
  rw [← hk.concerns.2]
  exact shows_of_reverseMarked hm h

/-- Reversing dropped nodes leaves the nodes of the request open or closed, tainted or not. -/
theorem Reversed.node {d : Scene} (h : Reversed others l s d) (hnames : Apart l.nodes l.marked)
    (hn : n ∈ l.nodes) (hm : Untouched others m)
    (hname : m = .closed n.name ∨ m = .tainted n.name) :
    d.cluster.shows m = s.cluster.shows m := by
  have hnot : ¬ ∃ u ∈ l.marked, u.Reaches m := by
    rintro ⟨u, hu, hreach⟩
    rcases hname with rfl | rfl
    · exact hnames.apart u hu n hn hreach
    · exact hnames.apart u hu n hn hreach
  exact Bool.eq_iff_iff.2 ((h m hm).trans (and_iff_left hnot))

theorem Reversed.isolates {d : Scene} (h : Reversed others l s d)
    (hnames : Apart l.nodes l.marked) (hn : n ∈ l.nodes) (hnode : NodeUntouched others n.name) :
    d.isolates n.name = s.isolates n.name := by
  rw [Scene.isolates, Scene.isolates, h.node hnames hn hnode.1 (.inl rfl),
    h.node hnames hn hnode.2 (.inr rfl)]

/-! ## Updates -/

section Update

variable (hactive : l.wasActive = true)

include hactive

theorem attends_iff : l.Attends n ↔ l.firstChanged = some n :=
  ⟨fun h => h hactive, fun h _ => h⟩

theorem lends_iff {a : Target} (hfirst : l.firstChanged = some a) : l.Lends v key ↔
    a.isolate = true ∧ a.Reaches (.tolerating key) ∧
      (v.met a.name = true ∨ v.prepared a.name = false) := by
  have ha : a ∈ l.nodes := List.mem_of_find?_eq_some hfirst
  unfold Lends
  simp only [attends_iff hactive, hfirst, Option.some.injEq, hactive, true_and]
  constructor
  · rintro ⟨n, -, rfl, h⟩
    exact h
  · exact fun h => ⟨a, ha, rfl, h⟩

/-- An update that finds no node changed has only reversed the dropped nodes. -/
theorem outcome_of_unchanged (hnames : Apart l.nodes l.marked) (hfirst : l.firstChanged = none)
    (hl : Alike l l') (ht : Reversed others l s t) :
    Outcome l s.sight others s l' t where
  sight n _ _ := ⟨rfl, rfl⟩
  records n hn := by
    have hnot : ¬ l.Attends n := fun h => by
      rw [attends_iff hactive, hfirst] at h
      cases h
    exact ⟨fun h => absurd h hnot, fun _ => hl.records n hn⟩
  tolerating key hkey := by
    rw [ht _ hkey]
    simp [Lends, Strips, Unisolates, attends_iff hactive, hfirst]
  tainted n hn _ hnode := by
    rw [ht.node hnames hn hnode (.inr rfl)]
    simp [Unisolates, hfirst]

/-- What an update comes to that brings a node into line. -/
theorem outcome_of_converged {a : Target} {k : Lifecycle} {d : Scene}
    (hnodes : (l.nodes.map (·.name)).Nodup) (hnames : Apart l.nodes l.marked)
    (hfirst : l.firstChanged = some a) (hk : Alike l k)
    (hd : Reversed others l s d) (h : Runs others (convergeNode a) k d (.ok ()) l' t) :
    ∃ v, Outcome l v others s l' t := by
  obtain ⟨b, c, rfl, hsight, htolerating, htainted⟩ := effect_of_convergeNode h
  have ha : a ∈ l.nodes := List.mem_of_find?_eq_some hfirst
  rw [hk.records a ha] at htolerating htainted
  -- The pass has looked at this node only; all others it may as well have seen as they were.
  refine ⟨⟨Function.update s.isolates a.name b, Function.update s.isolates a.name c⟩,
    ⟨fun n hn hnode => ?_, fun n hn => ?_, fun key hkey => ?_, fun n hn hiso hnode => ?_⟩⟩
  · by_cases hname : n.name = a.name
    · cases List.inj_on_of_nodup_map hnodes hn ha hname
      obtain ⟨hb, hc⟩ := hsight hnode
      simp [Sight.Agrees, Scene.sight, hb, hc, hd.isolates hnames ha hnode]
    · simp [Sight.Agrees, Scene.sight, Function.update_of_ne hname]
  · rw [attends_iff hactive, hfirst]
    constructor
    · rintro h
      cases h
      rw [Dict.get?_insert, if_pos rfl]
    · intro hne
      have hname : ¬ a.name = n.name := fun heq =>
        hne (congrArg some (List.inj_on_of_nodup_map hnodes ha hn heq))
      rw [Dict.get?_insert, if_neg hname]
      exact hk.records n hn
  · rw [htolerating key hkey, hd _ hkey]
    simp only [lends_iff hactive hfirst, Strips, Unisolates, hfirst, Option.mem_some_iff,
      hactive, true_and, and_assoc, exists_eq_left', Function.update_self, not_or]
  -- Of the nodes of the request only the one that has changed is touched.
  · by_cases hname : n.name = a.name
    · cases List.inj_on_of_nodup_map hnodes hn ha hname
      rw [htainted (hiso ((attends_iff hactive).2 hfirst)) hnode,
        hd.node hnames hn hnode (.inr rfl)]
      simp [Unisolates, hactive, hfirst]
    · have hkept : t.cluster.shows (.tainted n.name) = d.cluster.shows (.tainted n.name) := by
        refine shows_eq hnode (staysIn_convergeNode a fun _ h => h) ?_ h
        rintro b (heq | ⟨-, key, heq⟩)
        · exact hname heq.symm
        · cases heq
      have hne : ¬ l.firstChanged = some n := fun heq => by
        rw [hfirst] at heq
        cases heq
        exact hname rfl
      rw [hkept, hd.node hnames hn hnode (.inr rfl)]
      simp [Unisolates, hne]

end Update

/-- What an update comes to: the first node that has changed is brought into line. -/
theorem outcome_of_update (hactive : l.wasActive = true) (hnodes : (l.nodes.map (·.name)).Nodup)
    (hnames : Apart l.nodes l.marked) (h : Runs others update l s (.ok ()) l' t) :
    ∃ v, Outcome l v others s l' t := by
  rw [update_eq] at h
  obtain ⟨phase, h⟩ := runs_advance_bind h
  obtain ⟨_, k, d, hreverse, hrest⟩ := runs_bind h
  obtain ⟨_, j, e, hconverge, hadvance⟩ := runs_bind (runs_get.1 hrest)
  obtain ⟨rfl, phase', rfl⟩ := runs_advance hadvance
  have hsame : Alike l { l with phase } := ⟨⟨rfl, rfl⟩, rfl, fun _ _ => rfl⟩
  obtain ⟨hk, hd⟩ := runs_reverseMarked hnames hsame hreverse
  unfold convergeFirst at hconverge
  rw [hk.firstChanged] at hconverge
  cases hfirst : l.firstChanged with
  | none =>
    rw [hfirst] at hconverge
    obtain ⟨-, rfl, rfl⟩ := runs_pure hconverge
    exact ⟨_, outcome_of_unchanged hactive hnames hfirst ⟨hk.concerns, hk.wasActive, hk.records⟩ hd⟩
  | some a =>
    rw [hfirst] at hconverge
    obtain ⟨v, hv⟩ := outcome_of_converged hactive hnodes hnames hfirst hk hd hconverge
    exact ⟨v, ⟨hv.sight, hv.records, hv.tolerating, hv.tainted⟩⟩

/-! ## Quarantines that are not in place -/

/-- Starting nodes records each of them. -/
theorem records_of_startAll {ns : List Target} (hnodes : (ns.map (·.name)).Nodup)
    (h : Runs others (ns.forM startNode) l s (.ok ()) l' t) :
    (∀ n ∈ ns, l'.records.get? n.name = some n.observed) ∧
      ∀ x, (∀ n ∈ ns, n.name ≠ x) → l'.records.get? x = l.records.get? x := by
  induction ns generalizing l s with
  | nil =>
    obtain ⟨-, rfl, rfl⟩ := runs_pure h
    exact ⟨by simp, fun _ _ => rfl⟩
  | cons a rest ih =>
    change Runs others (startNode a >>= fun _ => rest.forM startNode) l s (.ok ()) l' t at h
    rw [List.map_cons, List.nodup_cons] at hnodes
    obtain ⟨_, k, d, hhead, hrest⟩ := runs_bind h
    obtain ⟨rfl, -⟩ := runs_startNode hhead
    obtain ⟨hmem, hother⟩ := ih hnodes.2 hrest
    refine ⟨fun n hn => ?_, fun x hx => ?_⟩
    -- The record of the first node is not overwritten, since names are distinct.
    · rcases List.mem_cons.1 hn with rfl | hn
      · rw [hother n.name fun m hm heq => hnodes.1 (heq ▸ List.mem_map_of_mem (f := (·.name)) hm),
          Dict.get?_insert, if_pos rfl]
      · exact hmem n hn
    · rw [hother x fun n hn => hx n (List.mem_cons_of_mem _ hn), Dict.get?_insert,
        if_neg (hx a (by simp))]

/-- What it comes to that a quarantine is brought in place: nodes that are isolated already are not
isolated again, and no taint is taken off. -/
theorem outcome_of_placed (hactive : l.wasActive = false) (hnodes : (l.nodes.map (·.name)).Nodup)
    (hnames : Apart l.nodes l.marked)
    (h : Runs others (prepare >>= fun _ => start) l s (.ok ()) l' t) :
    ∃ v, Outcome l v others s l' t := by
  obtain ⟨_, j, e, hprepare, hstart⟩ := runs_bind h
  obtain ⟨phase, hprepare⟩ := runs_advance_bind hprepare
  obtain ⟨_, k, d, hreverse, hprepare⟩ := runs_bind hprepare
  obtain ⟨phase', hstart⟩ := runs_advance_bind hstart
  have hsame : Alike l { l with phase } := ⟨⟨rfl, rfl⟩, rfl, fun _ _ => rfl⟩
  obtain ⟨hk, hd⟩ := runs_reverseMarked hnames hsame hreverse
  have hall := runs_get.1 hprepare
  rw [hk.concerns.1] at hall
  have hj : Alike l j := kept_of_runs (staysIn_prepareAll l.nodes) hk hall
  obtain ⟨prepared, hprepared, he⟩ := tolerating_of_prepareAll hnodes hall
  have hstarts := runs_get.1 hstart
  rw [hj.concerns.1] at hstarts
  have hattends : ∀ n, l.Attends n := by
    intro n htrue
    rw [hactive] at htrue
    cases htrue
  -- Nodes are only looked at when they are prepared.
  refine ⟨⟨s.isolates, prepared⟩, ⟨fun n hn hnode => ⟨rfl, ?_⟩, fun n hn => ⟨fun _ => ?_, ?_⟩,
    fun key hkey => ?_, fun n hn hiso hnode => ?_⟩⟩
  · exact (hprepared n hn hnode).trans (hd.isolates hnames hn hnode)
  · exact (records_of_startAll hnodes hstarts).1 n hn
  · exact fun hnot => absurd (hattends n) hnot
  · have ht : t.cluster.shows (.tolerating key) = e.cluster.shows (.tolerating key) := by
      refine shows_eq hkey (staysIn_startAll l.nodes fun _ _ _ h => h) ?_ hstarts
      rintro b ⟨-, m, -, -, heq⟩
      cases heq
    rw [ht, he key hkey, hd _ hkey]
    simp only [Lends, Strips, hattends, hactive, Bool.false_eq_true, true_and, false_and,
      false_or, or_false]
    exact or_comm
  · have ht : t.cluster.shows (.tainted n.name) = e.cluster.shows (.tainted n.name) := by
      refine shows_eq hnode (staysIn_startAll l.nodes fun _ _ _ h => h) ?_ hstarts
      rintro b ⟨-, m, hm, htrue, heq⟩
      cases List.inj_on_of_nodup_map hnodes hn hm (Mark.tainted.inj heq)
      rw [hiso (hattends n)] at htrue
      cases htrue
    have htainted : e.cluster.shows (.tainted n.name) = d.cluster.shows (.tainted n.name) := by
      refine shows_eq hnode (staysIn_prepareAll l.nodes) ?_ hall
      rintro b ⟨-, m, -, heq | ⟨-, r, -, heq⟩⟩
      · cases heq
      · cases heq
    rw [ht, htainted, hd.node hnames hn hnode (.inr rfl)]
    simp [Unisolates, hactive]

/-- What a quarantine comes to that has been settled. -/
theorem outcome_of_settle (hnodes : (l.nodes.map (·.name)).Nodup) (hnames : Apart l.nodes l.marked)
    (h : Runs others (settle l.wasActive) l s (.ok ()) l' t) :
    ∃ v, Outcome l v others s l' t := by
  cases hactive : l.wasActive with
  | true =>
    rw [hactive] at h
    exact outcome_of_update hactive hnodes hnames h
  | false =>
    rw [hactive] at h
    exact outcome_of_placed hactive hnodes hnames h

end Settle

end Lifecycle

end Cordon
