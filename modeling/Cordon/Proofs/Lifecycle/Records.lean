import Cordon.Proofs.Lifecycle.Conduct
import Cordon.Proofs.Lifecycle.Settle

/-! # The records that a pass leaves

`records_settled` says what a pass over a quarantine that is to be in place makes of the records
when it succeeds, and `countP_hasChanged_settled` what this does to the number of nodes that differ
from their records: a quarantine in place has one less of them, and one that was not in place has
none.
-/

namespace Cordon.Lifecycle

open Pass

variable {l : Lifecycle}

def settled (l : Lifecycle) : Lifecycle := if l.wasActive then l.updated else l.placed

theorem get?_records_undropped (l : Lifecycle) (name : String) :
    l.undropped.records.get? name =
      if name ∈ l.marked.map (·.name) then none else l.records.get? name := by
  rw [undropped_eq]
  exact get?_foldl_erase l.marked l.records name

theorem concerns_settled : Concerns l.nodes l.marked l.settled := by
  have hundropped : ∀ phase, Concerns l.nodes l.marked (l.inPhase phase).undropped := by
    intro phase
    rw [undropped_eq]
    exact ⟨rfl, rfl⟩
  unfold settled
  split
  · have hconverged : ∀ k : Lifecycle, Concerns k.nodes k.marked k.converged := by
      intro k
      unfold converged
      cases k.firstChanged <;> exact ⟨rfl, rfl⟩
    obtain ⟨hnodes, hmarked⟩ := hconverged (l.inPhase .updating).undropped
    obtain ⟨hnodes', hmarked'⟩ := hundropped .updating
    exact ⟨hnodes.trans hnodes', hmarked.trans hmarked'⟩
  · unfold placed
    rw [foldl_recorded]
    exact hundropped .preparing

section Names

variable (hnames : ∀ u ∈ l.marked, ∀ n ∈ l.nodes, u.name ≠ n.name)

include hnames

theorem alike_undropped (phase : Phase) : Alike l (l.inPhase phase).undropped where
  concerns := by
    rw [undropped_eq]
    exact ⟨rfl, rfl⟩
  wasActive := by
    rw [undropped_eq]
    rfl
  records n hn := by
    have hnot : n.name ∉ l.marked.map (·.name) := by
      intro hmem
      obtain ⟨u, hu, hname⟩ := List.mem_map.1 hmem
      exact hnames u hu n hn hname
    rw [get?_records_undropped]
    exact if_neg hnot

variable (hnodes : (l.nodes.map (·.name)).Nodup)

include hnodes

theorem records_updated : (∀ n ∈ l.nodes, l.updated.records.get? n.name =
      if l.firstChanged = some n then some n.observed else l.records.get? n.name) ∧
    ∀ u ∈ l.marked, l.updated.records.get? u.name = none := by
  have halike := alike_undropped hnames .updating
  have hmarked : ∀ u ∈ l.marked, (l.inPhase .updating).undropped.records.get? u.name = none := by
    intro u hu
    rw [get?_records_undropped]
    exact if_pos (List.mem_map_of_mem (f := (·.name)) hu)
  unfold updated converged
  rw [halike.firstChanged]
  cases hfirst : l.firstChanged with
  | none =>
    refine ⟨fun n hn => ?_, hmarked⟩
    rw [if_neg (by simp)]
    exact halike.records n hn
  | some a =>
    have ha : a ∈ l.nodes := List.mem_of_find?_eq_some hfirst
    refine ⟨fun n hn => ?_, fun u hu => ?_⟩
    · show (Dict.insert _ _ _).get? n.name = _
      rw [Dict.get?_insert]
      by_cases heq : a = n
      · rw [heq, if_pos rfl, if_pos rfl]
      · have hname : a.name ≠ n.name := fun h => heq (List.inj_on_of_nodup_map hnodes ha hn h)
        rw [if_neg hname, if_neg (by simpa using heq)]
        exact halike.records n hn
    · show (Dict.insert _ _ _).get? u.name = _
      rw [Dict.get?_insert, if_neg fun h => hnames u hu a ha h.symm]
      exact hmarked u hu

theorem records_placed : (∀ n ∈ l.nodes, l.placed.records.get? n.name = some n.observed) ∧
    ∀ u ∈ l.marked, l.placed.records.get? u.name = none := by
  unfold placed
  obtain ⟨hmem, hother⟩ := get?_foldl_recorded
    (l := (l.inPhase .preparing).undropped.inPhase .active) hnodes
  refine ⟨hmem, fun u hu => ?_⟩
  rw [hother u.name fun hname => ?_]
  · show (l.inPhase .preparing).undropped.records.get? u.name = none
    rw [get?_records_undropped]
    exact if_pos (List.mem_map_of_mem (f := (·.name)) hu)
  · obtain ⟨n, hn, heq⟩ := List.mem_map.1 hname
    exact hnames u hu n hn heq.symm

/-- The nodes that a pass brings into shape are recorded, and the dropped nodes are forgotten. -/
theorem records_settled : (∀ n ∈ l.nodes,
      (l.Attends n → l.settled.records.get? n.name = some n.observed) ∧
        (¬ l.Attends n → l.settled.records.get? n.name = l.records.get? n.name)) ∧
    ∀ u ∈ l.marked, l.settled.records.get? u.name = none := by
  unfold settled Attends
  cases hactive : l.wasActive with
  | true =>
    obtain ⟨hmem, hmarked⟩ := records_updated hnames hnodes
    refine ⟨fun n hn => ⟨fun h => ?_, fun h => ?_⟩, hmarked⟩
    · exact (hmem n hn).trans (if_pos (h rfl))
    · exact (hmem n hn).trans (if_neg fun hfirst => h fun _ => hfirst)
  | false =>
    obtain ⟨hmem, hmarked⟩ := records_placed hnames hnodes
    exact ⟨fun n hn => ⟨fun _ => hmem n hn, fun h => absurd (by simp) h⟩, hmarked⟩

theorem observedNodes_settled :
    l.settled.observedNodes = l.nodes.filterMap fun n => l.settled.records.get? n.name := by
  obtain ⟨-, hmarked⟩ := records_settled hnames hnodes
  have hnone : l.marked.filterMap (fun u => l.settled.records.get? u.name) = [] :=
    List.filterMap_eq_nil_iff.2 hmarked
  rw [observedNodes, concerns_settled.1, concerns_settled.2, hnone, List.append_nil]

/-- One less node differs from its record, if the quarantine was in place; else none does any more.
-/
theorem countP_hasChanged_settled
    (hrecorded : ∀ n ∈ l.nodes, ∀ k : Lifecycle, k.records.get? n.name = some n.observed →
      k.hasChanged n = false) :
    l.nodes.countP l.settled.hasChanged =
      if l.wasActive then l.nodes.countP l.hasChanged - 1 else 0 := by
  obtain ⟨hmem, -⟩ := records_settled hnames hnodes
  have hattended : ∀ n ∈ l.nodes, l.Attends n → l.settled.hasChanged n = false :=
    fun n hn h => hrecorded n hn _ ((hmem n hn).1 h)
  have hleft : ∀ n ∈ l.nodes, ¬ l.Attends n → l.settled.hasChanged n = l.hasChanged n := by
    intro n hn h
    rw [hasChanged, hasChanged, (hmem n hn).2 h]
  cases hactive : l.wasActive with
  | false =>
    rw [if_neg Bool.false_ne_true, List.countP_eq_zero]
    intro n hn
    rw [hattended n hn fun h => absurd (hactive.symm.trans h) Bool.false_ne_true]
    exact Bool.false_ne_true
  | true =>
    rw [if_pos rfl]
    have hattends : ∀ n, l.Attends n ↔ l.firstChanged = some n := fun n =>
      ⟨fun h => h hactive, fun h _ => h⟩
    cases hfirst : l.firstChanged with
    | none =>
      have hzero : l.nodes.countP l.hasChanged = 0 := List.countP_eq_zero.2 fun n hn hchanged =>
        absurd hchanged (List.find?_eq_none.1 hfirst n hn)
      have hsame : l.nodes.countP l.settled.hasChanged = l.nodes.countP l.hasChanged := by
        refine List.countP_congr fun n hn => ?_
        rw [hleft n hn (by simp [hattends, hfirst])]
      omega
    | some a =>
      -- The first node that has changed is the only one whose record becomes another.
      obtain ⟨hchanged, before, after, heq, hbefore⟩ := List.find?_eq_some_iff_append.1 hfirst
      have hnodup : (before ++ a :: after).Nodup := heq ▸ .of_map _ hnodes
      have hother : ∀ n ∈ l.nodes, n ≠ a → l.settled.hasChanged n = l.hasChanged n := by
        intro n hn hne
        refine hleft n hn ?_
        rw [hattends, hfirst]
        exact fun h => hne (Option.some.inj h).symm
      have ha : l.settled.hasChanged a = false :=
        hattended a (heq ▸ by simp) ((hattends a).2 hfirst)
      have hsame : ∀ part : List Target, (∀ n ∈ part, n ∈ l.nodes ∧ n ≠ a) →
          part.countP l.settled.hasChanged = part.countP l.hasChanged := fun part hpart =>
        List.countP_congr fun n hn => by rw [hother n (hpart n hn).1 (hpart n hn).2]
      rw [List.nodup_append] at hnodup
      obtain ⟨-, hbehind, hapart⟩ := hnodup
      have h₁ := hsame before fun n hn => ⟨heq ▸ by simp [hn], fun h => hapart n hn a (by simp) h⟩
      have h₂ := hsame after fun n hn => ⟨heq ▸ by simp [hn], fun h =>
        (List.nodup_cons.1 hbehind).1 (h ▸ hn)⟩
      rw [heq]
      simp [List.countP_append, ha, hchanged, h₁, h₂]

end Names

/-- If nothing has been dropped and nothing has changed then an update asks nothing and keeps the
records. -/
theorem says_update_unchanged {h : Dialogue Effects} {l' : Lifecycle} (hphase : l.phase = .active)
    (hmarked : l.marked = []) (hfirst : l.firstChanged = none)
    (hs : update.Says l h (.ok ()) l') : h = [] ∧ l'.observedNodes = l.observedNodes := by
  have hbegin : l.phase.allows .updating = true := by rw [hphase]; rfl
  rw [update_eq] at hs
  obtain ⟨_, k, _, _, rfl, hadvance, hs⟩ := says_bind_ok hs
  obtain ⟨rfl, -, rfl⟩ := says_advance hbegin hadvance
  obtain ⟨_, k, _, _, rfl, hreverse, hs⟩ := says_bind_ok hs
  have hreverse := says_get.1 hreverse
  rw [show (l.inPhase .updating).marked = [] from hmarked] at hreverse
  obtain ⟨rfl, -, rfl⟩ := says_pure hreverse
  obtain ⟨_, k, _, _, rfl, hconverge, hs⟩ := says_bind_ok (says_get.1 hs)
  unfold convergeFirst at hconverge
  rw [show (l.inPhase .updating).firstChanged = none from hfirst] at hconverge
  obtain ⟨rfl, -, rfl⟩ := says_pure hconverge
  obtain ⟨rfl, -, rfl⟩ := says_advance (l := l.inPhase .updating) rfl hs
  exact ⟨rfl, rfl⟩

end Cordon.Lifecycle
