import Cordon.Proofs.Cluster.Mark
import Cordon.Quarantine.Shelf

/-! # The store after a call

Quarantines are told apart by namespace and name.  On a shelf on which no two have the same, a
change of a stored quarantine is what its next look-up finds (`lookup_changeStored`), unless the
quarantine may leave then; in that case the look-up finds nothing, and not another one of the same
name that has been hidden behind it.
-/

namespace Cordon.Shelf

/-- No two quarantines have the same namespace and name. -/
def Distinct (s : Shelf) : Prop := (s.map (·.requestName)).Nodup

theorem map_changeFirst {α β : Type} {key : α → β} {change : α → α}
    (hkey : ∀ a, key (change a) = key a) (p : α → Bool) (l : List α) :
    (ClusterState.changeFirst p change l).map key = l.map key := by
  induction l with
  | nil => rfl
  | cons a rest ih =>
    rw [ClusterState.changeFirst]
    split
    · rw [List.map_cons, List.map_cons, hkey]
    · rw [List.map_cons, List.map_cons, ih]

/-- Of items with different keys, the look-up of a key finds the one with that key if it is still
there. -/
theorem find?_filter_of_nodup {α : Type} {key : α → String} {p : α → Bool} {k : String}
    {l : List α} (hl : (l.map key).Nodup) :
    (l.filter p).find? (key · == k) = (l.find? (key · == k)).filter p := by
  induction l with
  | nil => rfl
  | cons a rest ih =>
    rw [List.map_cons, List.nodup_cons] at hl
    -- If this is the item then no later one has its key, so nothing is found once it is gone.
    by_cases hk : key a = k
    · have hrest : (rest.filter p).find? (key · == k) = none := by
        rw [List.find?_eq_none]
        intro b hb hbk
        have hmem : key b ∈ rest.map key := List.mem_map_of_mem (List.mem_filter.1 hb).1
        rw [beq_iff_eq] at hbk
        rw [hbk, ← hk] at hmem
        exact hl.1 hmem
      cases hp : p a with
      | true => simp [hp, hk, Option.filter]
      | false => simp [hp, hk, hrest, Option.filter]
    · cases hp : p a with
      | true => simp [hp, hk, ih hl.2]
      | false => simp [hp, hk, ih hl.2]

section Change

variable {s : Shelf} {c : StoreCall} {name : String} {q : Quarantine} {f : Quarantine → Quarantine}

theorem requestName_of_lookup (h : s.lookup name = some q) : q.requestName = name := by
  simpa using List.find?_some h

theorem lookup_staying (hs : s.Distinct) (name : String) :
    (staying s).lookup name = (s.lookup name).filter (!mayLeave ·) :=
  find?_filter_of_nodup hs

/-- A quarantine that may not leave is found as before. -/
theorem lookup_staying_of_stays (hq : s.lookup name = some q) (hstays : mayLeave q = false) :
    (staying s).lookup name = some q := by
  obtain ⟨hname, before, after, rfl, hbefore⟩ := List.find?_eq_some_iff_append.1 hq
  refine List.find?_eq_some_iff_append.2 ⟨hname, before.filter (!mayLeave ·),
    after.filter (!mayLeave ·), ?_, fun a ha => hbefore a (List.mem_filter.1 ha).1⟩
  simp [staying, hstays]

theorem distinct_staying (hs : s.Distinct) : (staying s).Distinct :=
  hs.sublist (List.filter_sublist.map _)

/-- What is found after a change of a stored quarantine. -/
theorem lookup_changeStored (hs : s.Distinct) (hf : ∀ q, (f q).requestName = q.requestName)
    (hq : s.lookup name = some q) :
    (s.changeStored c name f).1 = .ok () ∧
      (s.changeStored c name f).2.lookup name = if mayLeave (f q) then none else some (f q) := by
  have hchanged : lookup (ClusterState.changeFirst (·.requestName == name) f s) name =
      some (f q) := by
    have h := ClusterState.find?_changeFirst hf (fun q => beq_iff_eq (a := q.requestName))
      (fun q => beq_iff_eq (a := q.requestName)) s (a := name) (b := name)
    rw [if_pos rfl, show s.find? (·.requestName == name) = some q from hq] at h
    exact h
  have hdistinct : Distinct (ClusterState.changeFirst (·.requestName == name) f s) := by
    unfold Distinct
    rw [map_changeFirst hf]
    exact hs
  simp only [changeStored, hq]
  refine ⟨trivial, ?_⟩
  rw [lookup_staying hdistinct, hchanged]
  cases h : mayLeave (f q) <;> simp [Option.filter, h]

/-- What is found after a change that lets the quarantine stay, whatever else is stored. -/
theorem lookup_changeStored_of_stays (hf : ∀ q, (f q).requestName = q.requestName)
    (hq : s.lookup name = some q) (hstays : mayLeave (f q) = false) :
    (s.changeStored c name f).1 = .ok () ∧
      (s.changeStored c name f).2.lookup name = some (f q) := by
  have hfind := ClusterState.find?_changeFirst hf (fun q => beq_iff_eq (a := q.requestName))
    (fun q => beq_iff_eq (a := q.requestName)) s (a := name) (b := name)
  rw [if_pos rfl, show s.find? (·.requestName == name) = some q from hq] at hfind
  simp only [changeStored, hq]
  exact ⟨trivial, lookup_staying_of_stays hfind hstays⟩

theorem distinct_changeStored (hs : s.Distinct) (hf : ∀ q, (f q).requestName = q.requestName) :
    (s.changeStored c name f).2.Distinct := by
  unfold changeStored
  split
  · refine distinct_staying ?_
    unfold Distinct
    rw [map_changeFirst hf]
    exact hs
  · exact hs

theorem distinct_perform (hs : s.Distinct) (c : StoreCall) : (s.perform c).2.Distinct := by
  cases c with
  | getQuarantine ns name => exact hs
  | addFinalizer q | removeFinalizer q | updateStatus q status =>
    exact distinct_changeStored hs fun _ => rfl

/-! Edits change every quarantine of a name. -/

theorem distinct_edited (name : String) (hs : s.Distinct)
    (hf : ∀ q, (f q).requestName = q.requestName) :
    Distinct (s.map fun q => if q.requestName == name then f q else q) := by
  have hkeep : (Quarantine.requestName ∘ fun q => if q.requestName == name then f q else q) =
      Quarantine.requestName := by
    funext q
    simp only [Function.comp_apply]
    split
    · exact hf q
    · rfl
  unfold Distinct
  rw [List.map_map, hkeep]
  exact hs

theorem lookup_edited (hf : ∀ q, (f q).requestName = q.requestName)
    (hq : s.lookup name = some q) :
    lookup (s.map fun q => if q.requestName == name then f q else q) name = some (f q) := by
  induction s with
  | nil => cases hq
  | cons a rest ih =>
    unfold lookup at hq ih ⊢
    by_cases ha : a.requestName = name
    · simp only [List.find?_cons, ha, beq_self_eq_true, Option.some.injEq] at hq
      cases hq
      simp [hf, ha]
    · have hne : (a.requestName == name) = false := beq_eq_false_iff_ne.2 ha
      rw [List.find?_cons, hne] at hq
      simp only [List.map_cons, hne, Bool.false_eq_true, if_false, List.find?_cons]
      exact ih hq

end Change

end Cordon.Shelf
