import Cordon.Quarantine.Spec
import Mathlib.Data.List.Nodup

/-! # Node names

The nodes of a request are looked at in their order, with the names of those that have been passed
at hand.  `FaultAt` says without them what is wrong with a name: there is none, or an earlier node
has the same.  The nodes that have been passed are well named, so the check stops at the first fault
and reports it (`firstFault_of_checkNamesFrom`), and there is only one fault to report there
(`FirstFault.unique`).

`checkNames_reports_first` puts this together: a list passes exactly if it is well named, and is
refused with its first fault.
-/

namespace Cordon

variable {nodes before rest : List NodeSpec} {n m : NodeSpec} {i j : Nat}
  {fault other : NameFault} {seen : List String}

/-- The names of nodes are there and differ from one another. -/
def WellNamed (nodes : List NodeSpec) : Prop :=
  (∀ n ∈ nodes, n.name ≠ "") ∧ (nodes.map (·.name)).Nodup

/-- What is wrong with the name at a position. -/
inductive FaultAt (nodes : List NodeSpec) (i : Nat) : NameFault → Prop
  | empty {n : NodeSpec} (hn : nodes[i]? = some n) (hname : n.name = "") : FaultAt nodes i .empty
  | duplicate {n m : NodeSpec} {j : Nat} (hn : nodes[i]? = some n) (hearlier : j < i)
      (hm : nodes[j]? = some m) (hname : m.name = n.name) : FaultAt nodes i (.duplicate n.name)

/-- The first position at which a name is wrong, and what is wrong with it. -/
structure FirstFault (nodes : List NodeSpec) (i : Nat) (fault : NameFault) : Prop where
  here : FaultAt nodes i fault
  first : ∀ j < i, ∀ other, ¬ FaultAt nodes j other

/-! ## Faults -/

theorem not_faultAt_of_wellNamed (h : WellNamed nodes) : ¬ FaultAt nodes i fault := by
  intro hfault
  cases hfault with
  | empty hn hname => exact h.1 _ (List.mem_of_getElem? hn) hname
  | @duplicate n m j hn hearlier hm hname =>
    -- Distinct names of which two are the same stand at the same position.
    have hat : (nodes.map (·.name))[i]? = (nodes.map (·.name))[j]? := by
      simp [hn, hm, hname]
    have hbound : i < (nodes.map (·.name)).length := by
      simpa using (List.getElem?_eq_some_iff.1 hn).1
    have hsame : i = j := (List.getElem?_inj hbound h.2).1 hat
    omega

/-- What is behind a position is no matter for the faults there. -/
theorem FaultAt.of_append (h : FaultAt (before ++ rest) i fault) (hi : i < before.length) :
    FaultAt before i fault := by
  cases h with
  | empty hn hname => exact .empty (by rwa [List.getElem?_append_left hi] at hn) hname
  | duplicate hn hearlier hm hname =>
    rw [List.getElem?_append_left hi] at hn
    rw [List.getElem?_append_left (Nat.lt_trans hearlier hi)] at hm
    exact .duplicate hn hearlier hm hname

/-- A first fault is the only one: a name that is empty and is that of an earlier node would have
been a fault there. -/
theorem FirstFault.unique (h : FirstFault nodes i fault) (h' : FirstFault nodes j other) :
    fault = other := by
  have hsame : i = j := by
    rcases Nat.lt_trichotomy i j with hlt | heq | hlt
    · exact absurd h.here (h'.first i hlt fault)
    · exact heq
    · exact absurd h'.here (h.first j hlt other)
  subst hsame
  cases h.here with
  | empty hn hname =>
    cases h'.here with
    | empty => rfl
    | duplicate hn' hearlier hm hsame =>
      cases hn.symm.trans hn'
      exact absurd (.empty hm (hsame.trans hname)) (h.first _ hearlier _)
  | duplicate hn hearlier hm hsame =>
    cases h'.here with
    | empty hn' hname =>
      cases hn.symm.trans hn'
      exact absurd (.empty hm (hsame.trans hname)) (h.first _ hearlier _)
    | duplicate hn' =>
      cases hn.symm.trans hn'
      rfl

/-! ## The check -/

/-- The nodes that have been passed are well named, and it is their names that have been seen. -/
structure Passed (seen : List String) (before : List NodeSpec) : Prop where
  wellNamed : WellNamed before
  names : ∀ name, name ∈ seen ↔ ∃ n ∈ before, n.name = name

theorem passed_nil : Passed [] [] := ⟨by simp [WellNamed], by simp⟩

/-- A node with a new name is passed. -/
theorem Passed.next (h : Passed seen before) (hname : n.name ≠ "") (hnew : n.name ∉ seen) :
    Passed (n.name :: seen) (before ++ [n]) := by
  rw [h.names] at hnew
  refine ⟨⟨?_, ?_⟩, fun name => ?_⟩
  · intro m hm
    rcases List.mem_append.1 hm with hm | hm
    · exact h.wellNamed.1 m hm
    · rwa [List.mem_singleton.1 hm]
  · simpa [List.nodup_append, h.wellNamed.2] using hnew
  · simp [h.names, or_comm, eq_comm]

theorem Passed.not_faultAt (h : Passed seen before) (hi : i < before.length) :
    ¬ FaultAt (before ++ rest) i fault :=
  fun hfault => not_faultAt_of_wellNamed h.wellNamed (hfault.of_append hi)

/-- What is reported is the first fault of all nodes, those passed included. -/
theorem firstFault_of_checkNamesFrom (h : Passed seen before)
    (hcheck : checkNamesFrom seen rest = some fault) :
    ∃ i, FirstFault (before ++ rest) i fault := by
  induction rest generalizing seen before with
  | nil => simp [checkNamesFrom] at hcheck
  | cons n rest ih =>
    have hn : (before ++ n :: rest)[before.length]? = some n := by simp
    rw [checkNamesFrom] at hcheck
    split_ifs at hcheck with hname hseen
    · cases hcheck
      exact ⟨before.length, .empty hn hname, fun j hj _ => h.not_faultAt hj⟩
    · cases hcheck
      obtain ⟨m, hm, hsame⟩ := (h.names _).1 hseen
      obtain ⟨j, hj⟩ := List.mem_iff_getElem?.1 hm
      have hearlier : j < before.length := (List.getElem?_eq_some_iff.1 hj).1
      rw [← List.getElem?_append_left hearlier] at hj
      exact ⟨before.length, .duplicate hn hearlier hj hsame, fun j hj _ => h.not_faultAt hj⟩
    · simpa using ih (h.next hname hseen) hcheck

theorem wellNamed_of_checkNamesFrom (h : Passed seen before)
    (hcheck : checkNamesFrom seen rest = none) : WellNamed (before ++ rest) := by
  induction rest generalizing seen before with
  | nil => simpa using h.wellNamed
  | cons n rest ih =>
    rw [checkNamesFrom] at hcheck
    split_ifs at hcheck with hname hseen
    simpa using ih (h.next hname hseen) hcheck

theorem checkNames_eq_none : checkNames nodes = none ↔ WellNamed nodes := by
  constructor
  · intro hcheck
    exact wellNamed_of_checkNamesFrom passed_nil hcheck
  · intro h
    cases hcheck : checkNames nodes with
    | none => rfl
    | some fault =>
      obtain ⟨i, hfirst⟩ := firstFault_of_checkNamesFrom passed_nil hcheck
      exact absurd hfirst.here (not_faultAt_of_wellNamed h)

theorem checkNames_eq_some : checkNames nodes = some fault ↔ ∃ i, FirstFault nodes i fault := by
  constructor
  · intro hcheck
    exact firstFault_of_checkNamesFrom passed_nil hcheck
  · rintro ⟨i, hfirst⟩
    cases hcheck : checkNames nodes with
    | none => exact absurd hfirst.here (not_faultAt_of_wellNamed (checkNames_eq_none.1 hcheck))
    | some other =>
      obtain ⟨j, hfirst'⟩ := firstFault_of_checkNamesFrom passed_nil hcheck
      rw [hfirst'.unique hfirst]

/-- A list of nodes passes exactly if its names are there and differ from one another; else the
first position is reported at which a name is empty, or is that of an earlier node. -/
theorem checkNames_reports_first (nodes : List NodeSpec) :
    (checkNames nodes = none ↔
      (∀ n ∈ nodes, n.name ≠ "") ∧ (nodes.map (·.name)).Nodup) ∧
    (∀ fault, checkNames nodes = some fault ↔
      ∃ i, FaultAt nodes i fault ∧ ∀ j < i, ∀ other, ¬ FaultAt nodes j other) ∧
    NameFault.empty.code = "empty_node_name" ∧
    ∀ name, (NameFault.duplicate name).code = "duplicate_node_name" := by
  refine ⟨checkNames_eq_none, fun fault => ?_, rfl, fun _ => rfl⟩
  rw [checkNames_eq_some]
  exact exists_congr fun i => ⟨fun h => ⟨h.here, h.first⟩, fun h => ⟨h.1, h.2⟩⟩

end Cordon
