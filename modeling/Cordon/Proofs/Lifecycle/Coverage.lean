import Cordon.Proofs.Lifecycle.Reach
import Mathlib.Data.List.Nodup

/-! # What a pass can find again

A lifecycle *accounts* for a mark if a node of the request reaches it, or a node on record does
that the request no longer names.  These are the marks that a later pass will take off.

The main statements, `keeps_settle` and `keeps_stop`, say that every own mark that the lifecycle
accounts for before a pass is accounted for after it, or is gone, wherever the pass stops and
whatever fails.  A node is recorded only at its end, but then a node of the request needs no
record; and the record of a dropped node goes only after everything on the node has been undone
(`keeps_reverseNode`), which is where success matters.
-/

namespace Cordon.Lifecycle

open Pass Isolation

/-- Each record stands under its own name, and says of a dropped node what the node reaches. -/
structure Tidy (l : Lifecycle) : Prop where
  named : ∀ name o, l.records.get? name = some o → o.name = name
  same : ∀ u ∈ l.marked, ∀ o, l.records.get? u.name = some o → ∀ m, u.Reaches m ↔ o.Reaches m

/-- Whether a mark can be found again from the request and the records. -/
def Accounts (l : Lifecycle) (m : Mark) : Prop :=
  (∃ n ∈ l.nodes, n.Reaches m) ∨
    ∃ u ∈ l.marked, ∃ o, l.records.get? u.name = some o ∧ o.Reaches m

/-- Names tell the nodes apart that have been dropped, from each other and from those that are
named. -/
structure Apart (nodes marked : List Target) : Prop where
  apart : ∀ u ∈ marked, ∀ n ∈ nodes, u.name ≠ n.name
  nodup : (marked.map (·.name)).Nodup

/-- A lifecycle that concerns these nodes and accounts for those of some marks that are the
controller's. -/
structure Covers (nodes marked : List Target) (M : Mark → Prop) (l : Lifecycle) (s : Scene) :
    Prop where
  concerns : Concerns nodes marked l
  tidy : l.Tidy
  accounts : ∀ m, M m → s.own m = true → l.Accounts m

section Keeps

variable {others : ClusterState → ClusterState → Prop} {nodes marked : List Target}
  {M : Mark → Prop} {α : Type}

/-- A pass that leaves the lifecycle alone and sets only what nodes of the request reach. -/
theorem keeps_of_quiet {P : Footprint} {p : Pass α} (hp : ∀ l, StaysIn P (· = l) p)
    (hP : ∀ m, P m true → ∃ n ∈ nodes, n.Reaches m) : Keeps others (Covers nodes marked M) p := by
  intro l s r l' t h hr
  have hl : l' = l := kept_of_runs (J := (· = l)) (hp l) rfl hr
  rw [hl]
  refine ⟨h.concerns, h.tidy, fun m hm hown => ?_⟩
  rcases gained_of_runs (reading_own others m) (hp l) (Eq.refl l) hr hown with hown | hset
  · exact h.accounts m hm hown
  · obtain ⟨n, hn, hreach⟩ := hP m hset
    exact .inl ⟨n, h.concerns.1 ▸ hn, hreach⟩

theorem keeps_advance (next : Phase) : Keeps others (Covers nodes marked M) (advance next) := by
  intro l s r l' t h hr
  obtain ⟨rfl, phase, rfl⟩ := runs_advance hr
  exact ⟨h.concerns, ⟨h.tidy.named, h.tidy.same⟩, h.accounts⟩

/-- A new record of a node of the request says nothing of a dropped node. -/
theorem keeps_record (hnames : Apart nodes marked) {n : Target} (hn : n ∈ nodes) :
    Keeps others (Covers nodes marked M) (record n) := by
  refine keeps_modify fun l s h => ?_
  obtain ⟨hnodes, hmarked⟩ := h.concerns
  -- The record is that of a named node, and names tell it from dropped ones.
  have hother : ∀ u ∈ l.marked,
      (l.records.insert n.name n.observed).get? u.name = l.records.get? u.name := by
    intro u hu
    have hne : ¬ n.name = u.name := fun heq => hnames.apart u (hmarked ▸ hu) n hn heq.symm
    rw [Dict.get?_insert, if_neg hne]
  refine ⟨⟨hnodes, hmarked⟩, ⟨fun name o ho => ?_, fun u hu o ho => ?_⟩, fun m hm hown => ?_⟩
  · rw [Dict.get?_insert] at ho
    split at ho
    · next heq => cases ho; exact heq
    · exact h.tidy.named name o ho
  · rw [hother u hu] at ho
    exact h.tidy.same u hu o ho
  · rcases h.accounts m hm hown with hreach | ⟨u, hu, o, ho, hreach⟩
    · exact .inl hreach
    · exact .inr ⟨u, hu, o, (hother u hu).trans ho, hreach⟩

/-- A node is forgotten only when everything it reaches is gone. -/
theorem keeps_reverseNode (hnames : Apart nodes marked) {n : Target} (hn : n ∈ nodes ++ marked) :
    Keeps others (Covers nodes marked M) (reverseNode n) := by
  have hundo : Keeps others (Covers nodes marked M) (undo n) :=
    keeps_of_quiet (fun l => staysIn_undo n) fun _ h => by cases h.2
  intro l s r l' t h hr
  rw [reverseNode_eq] at hr
  -- If the undoing fails then the record stays, and that is all there is to show.
  rcases runs_bind_iff.1 hr with ⟨_, k, d, hfirst, hforget⟩ | ⟨e, -, hfirst⟩
  · have hk := hundo l s _ k d h hfirst
    obtain ⟨-, rfl, rfl⟩ := runs_modify hforget
    obtain ⟨hnodes, hmarked⟩ := hk.concerns
    have hkept : ∀ name o, (k.records.erase n.name).get? name = some o →
        k.records.get? name = some o := by
      intro name o ho
      rw [Dict.get?_erase] at ho
      split at ho
      · cases ho
      · exact ho
    refine ⟨⟨hnodes, hmarked⟩, ⟨fun name o ho => hk.tidy.named name o (hkept name o ho),
      fun u hu o ho => hk.tidy.same u hu o (hkept _ o ho)⟩, fun m hm hown => ?_⟩
    -- A record that accounts for a mark is not the one that goes: if it were, the node would be
    -- undone, and the mark would be gone.
    rcases hk.accounts m hm hown with hreach | ⟨u, hu, o, ho, hreach⟩
    · exact .inl hreach
    · have hne : ¬ n.name = u.name := by
        intro heq
        rcases List.mem_append.1 hn with hn | hn
        · exact hnames.apart u (hmarked ▸ hu) n hn heq.symm
        · have hsame : n = u := List.inj_on_of_nodup_map hnames.nodup hn (hmarked ▸ hu) heq
          subst hsame
          have hgone := not_reached_of_undo (reading_own others m)
            ((hk.tidy.same n hu o ho m).2 hreach) hfirst
          rw [hgone] at hown
          cases hown
      refine .inr ⟨u, hu, o, ?_, hreach⟩
      rw [Dict.get?_erase, if_neg hne]
      exact ho
  · exact hundo l s _ l' t h hfirst

/-! ## Parts of passes -/

theorem keeps_prepareNode {n : Target} (hn : n ∈ nodes) :
    Keeps others (Covers nodes marked M) (prepareNode n) :=
  keeps_of_quiet (fun l => staysIn_prepareNode n) fun _ h => by
    rcases h.2 with rfl | ⟨-, r, hr, rfl⟩
    · exact ⟨n, hn, rfl⟩
    · exact ⟨n, hn, r, hr, rfl⟩

theorem keeps_removeTolerations (node : String) (resources : List ResourceRef) :
    Keeps others (Covers nodes marked M) (removeTolerations node resources) :=
  keeps_of_quiet (fun l => staysIn_removeTolerations node resources) fun _ h => by cases h.2

theorem keeps_startNode (hnames : Apart nodes marked) {n : Target} (hn : n ∈ nodes) :
    Keeps others (Covers nodes marked M) (startNode n) := by
  refine keeps_bind (keeps_of_quiet (P := .nothing)
    (fun l => staysIn_step (Drain.obeys_deschedule n)) fun _ => False.elim) fun _ => ?_
  split
  · refine keeps_bind (keeps_of_quiet (fun l => staysIn_stepInTurn
      (staysIn_taintNode n.name)) fun _ h => ?_) fun _ => keeps_record hnames hn
    exact ⟨n, hn, by rw [h.1]; rfl⟩
  · exact keeps_record hnames hn

theorem keeps_convergeNode (hnames : Apart nodes marked) {n : Target} (hn : n ∈ nodes) :
    Keeps others (Covers nodes marked M) (convergeNode n) := by
  rw [convergeNode_eq]
  refine keeps_get fun l s r l' t h hr => ?_
  suffices hkeeps : Keeps others (Covers nodes marked M) _ from hkeeps l s r l' t h hr
  refine keeps_bind ?_ fun _ => keeps_bind ?_ fun isolated => ?_
  · cases l.records.get? n.name with
    | some o => exact keeps_removeTolerations n.name _
    | none => exact keeps_pure ()
  · exact keeps_of_quiet (P := .nothing)
      (fun l => staysIn_stepInTurn (staysIn_isIsolated n.name)) fun _ => False.elim
  · cases isolated with
    | false => exact keeps_bind (keeps_prepareNode hn) fun _ => keeps_startNode hnames hn
    | true =>
      refine keeps_bind ?_ fun _ => keeps_bind ?_ fun _ => keeps_record hnames hn
      · refine keeps_of_quiet (fun l => staysIn_stepInTurn (staysIn_isolate n n.isolate))
          fun _ h => ?_
        obtain ⟨-, ⟨r, hr, rfl⟩, -⟩ := h
        exact ⟨n, hn, r, hr, rfl⟩
      · unfold unisolate
        split
        · refine keeps_bind ?_ fun _ => keeps_removeTolerations n.name n.resources
          exact keeps_of_quiet (fun l => staysIn_stepInTurn (staysIn_untaintNode n.name))
            fun _ h => by cases h.2
        · exact keeps_pure ()

/-! ## Passes -/

theorem keeps_reverseMarked (hnames : Apart nodes marked) :
    Keeps others (Covers nodes marked M) reverseMarked := by
  refine keeps_get fun l s r l' t h hr => ?_
  suffices hkeeps : Keeps others (Covers nodes marked M) (l.marked.forM reverseNode) from
    hkeeps l s r l' t h hr
  refine keeps_forM fun n hn => keeps_reverseNode hnames ?_
  exact List.mem_append_right nodes (h.concerns.2 ▸ hn)

theorem keeps_prepare (hnames : Apart nodes marked) :
    Keeps others (Covers nodes marked M) prepare := by
  refine keeps_bind (keeps_advance _) fun _ => keeps_bind (keeps_reverseMarked hnames) fun _ =>
    keeps_get fun l s r l' t h hr => ?_
  suffices hkeeps : Keeps others (Covers nodes marked M) (l.nodes.forM prepareNode) from
    hkeeps l s r l' t h hr
  exact keeps_forM fun n hn => keeps_prepareNode (h.concerns.1 ▸ hn)

theorem keeps_start (hnames : Apart nodes marked) :
    Keeps others (Covers nodes marked M) start := by
  refine keeps_bind (keeps_advance _) fun _ => keeps_get fun l s r l' t h hr => ?_
  suffices hkeeps : Keeps others (Covers nodes marked M) (l.nodes.forM startNode) from
    hkeeps l s r l' t h hr
  exact keeps_forM fun n hn => keeps_startNode hnames (h.concerns.1 ▸ hn)

theorem keeps_update (hnames : Apart nodes marked) :
    Keeps others (Covers nodes marked M) update := by
  rw [update_eq]
  refine keeps_bind (keeps_advance _) fun _ => keeps_bind (keeps_reverseMarked hnames) fun _ =>
    keeps_get fun l s r l' t h hr => ?_
  suffices hkeeps : Keeps others (Covers nodes marked M)
      (convergeFirst l >>= fun _ => advance .active) from hkeeps l s r l' t h hr
  refine keeps_bind ?_ fun _ => keeps_advance _
  unfold convergeFirst
  cases hfind : l.firstChanged with
  | none => exact keeps_pure ()
  | some n =>
    exact keeps_convergeNode hnames (h.concerns.1 ▸ List.mem_of_find?_eq_some hfind)

theorem keeps_settle (hnames : Apart nodes marked) (wasActive : Bool) :
    Keeps others (Covers nodes marked M) (settle wasActive) := by
  cases wasActive with
  | true => exact keeps_update hnames
  | false => exact keeps_bind (keeps_prepare hnames) fun _ => keeps_start hnames

theorem keeps_stop (hnames : Apart nodes marked) :
    Keeps others (Covers nodes marked M) stop := by
  refine keeps_bind (keeps_advance _) fun _ => keeps_get fun l s r l' t h hr => ?_
  suffices hkeeps : Keeps others (Covers nodes marked M)
      ((l.nodes ++ l.marked).forM reverseNode >>= fun _ =>
        stepInTurn "clean up quarantined pods on" "*" cleanupIsolatedPods) from
    hkeeps l s r l' t h hr
  refine keeps_bind (keeps_forM fun n hn => keeps_reverseNode hnames ?_) fun _ => ?_
  · rw [h.concerns.1, h.concerns.2] at hn
    exact hn
  · exact keeps_of_quiet (P := .nothing)
      (fun l => staysIn_stepInTurn staysIn_cleanupIsolatedPods) fun _ => False.elim

end Keeps

end Cordon.Lifecycle
