import Cordon.Cluster.State

/-! # Marked pods

To mark a pod is to give it the sentinel label and to move each of its other labels to a key with
the mark (`isQuarantined_marked`).  All keys of a marked pod are the sentinel or have the mark, so
there is nothing left to move, and a pod that is marked twice is marked once (`marked_marked`).
-/

namespace Cordon.Marking

open Kube (Pod)

/-! ## Keys -/

theorem not_mem_name (key : List Char) : '/' ∉ (splitKey key).2 := by
  induction key with
  | nil => simp [splitKey]
  | cons c rest ih =>
    rw [splitKey]
    by_cases hc : ((splitKey rest).1.isEmpty && c != '/') = true
    · have hne : '/' ≠ c := fun h => by simp [← h] at hc
      simp [hc, hne, ih]
    · simp [hc, ih]

theorem splitKey_of_not_mem {name : List Char} (hname : '/' ∉ name) :
    splitKey name = ([], name) := by
  induction name with
  | nil => rfl
  | cons c rest ih =>
    rw [List.mem_cons, not_or] at hname
    simp [splitKey, ih hname.2, Ne.symm hname.1]

theorem splitKey_append (key : List Char) {name : List Char} (hname : '/' ∉ name) :
    splitKey ((splitKey key).1 ++ name) = ((splitKey key).1, name) := by
  induction key with
  | nil => exact splitKey_of_not_mem hname
  | cons c rest ih =>
    rw [splitKey]
    by_cases hc : ((splitKey rest).1.isEmpty && c != '/') = true
    · simp [hc, splitKey_of_not_mem hname]
    · simp only [hc, Bool.false_eq_true, if_false, List.cons_append]
      rw [splitKey, ih]
      simp [hc]

theorem isOrphanKey_orphanKey (key : String) : isOrphanKey (orphanKey key) = true := by
  have hmark : '/' ∉ mark := by decide
  have hname : '/' ∉ mark ++ (splitKey key.toList).2 := by
    simp [hmark, not_mem_name]
  rw [isOrphanKey, orphanKey, String.toList_ofList, List.append_assoc, splitKey_append _ hname]
  simp

theorem orphanKey_ne_sentinelKey (key : String) : orphanKey key ≠ Convention.sentinelKey := by
  intro h
  have horphan := isOrphanKey_orphanKey key
  rw [h] at horphan
  exact absurd horphan (by decide)

/-! ## Changes of labels -/

theorem get?_applyChange (labels : Labels) (change : String × Option String) (key : String) :
    (applyChange labels change).get? key =
      if change.1 = key then change.2 else labels.get? key := by
  obtain ⟨k, value⟩ := change
  cases value with
  | some v => simp [applyChange]
  | none => simp [applyChange]

/-- A label is what the change says of its key, and is as before where it says nothing. -/
theorem get?_applyPatch (labels : Labels) (patch : LabelPatch) (key : String) :
    (applyPatch labels patch).get? key = (patch.get? key).getD (labels.get? key) := by
  obtain ⟨entries, hentries⟩ := patch
  unfold applyPatch Dict.get? at *
  simp only
  induction entries generalizing labels with
  | nil => simp [Dict.findEntry]
  | cons change rest ih =>
    rw [List.pairwise_cons] at hentries
    have hchange := get?_applyChange labels change key
    unfold Dict.get? at hchange
    rw [List.foldl_cons, ih _ hentries.2, hchange]
    obtain ⟨k, value⟩ := change
    by_cases hk : k = key
    · subst hk
      have hrest : Dict.findEntry k rest = none := by
        refine Dict.findEntry_eq_none fun e he heq => ?_
        have hlt := hentries.1 e he
        rw [heq] at hlt
        exact String.lt_irrefl _ hlt
      simp [Dict.findEntry, hrest]
    · simp [Dict.findEntry, hk]

/-- What a change is made of while labels are moved: the sentinel is left alone, every new key has
the mark, and a label that has been moved is taken away. -/
structure Orphans (labels : Labels) (moved : List (String × String)) (patch : LabelPatch) :
    Prop where
  sentinel : patch.get? Convention.sentinelKey =
    (sentinelPatch labels).get? Convention.sentinelKey
  set : ∀ key value, patch.get? key = some (some value) →
    key = Convention.sentinelKey ∨ isOrphanKey key = true
  taken : ∀ e ∈ moved, e.1 = Convention.sentinelKey ∨ isOrphanKey e.1 = true ∨
    (patch.get? e.1).isSome = true

variable {labels : Labels} {moved : List (String × String)} {patch : LabelPatch}

theorem orphans_sentinelPatch : Orphans labels [] (sentinelPatch labels) where
  sentinel := rfl
  set key value h := by
    unfold sentinelPatch at h
    split at h
    · simp at h
    · by_cases hkey : Convention.sentinelKey = key
      · exact .inl hkey.symm
      · simp [Dict.singleton, hkey] at h
  taken := by simp

theorem orphans_orphan (h : Orphans labels moved patch) (label : String × String) :
    Orphans labels (moved ++ [label]) (orphan patch label) := by
  unfold orphan
  by_cases hstays : (label.1 = Convention.sentinelKey || isOrphanKey label.1) = true
  · rw [if_pos hstays]
    refine ⟨h.sentinel, h.set, fun e he => ?_⟩
    rcases List.mem_append.1 he with he | he
    · exact h.taken e he
    · rw [List.mem_singleton.1 he]
      simpa [or_assoc] using Or.inl (b := (patch.get? label.1).isSome = true) hstays
  · rw [if_neg hstays]
    simp only [Bool.or_eq_true, decide_eq_true_eq, not_or] at hstays
    have hne := orphanKey_ne_sentinelKey label.1
    -- The change gets two entries: the new key is set and the old one is taken away.
    refine ⟨?_, fun key value hset => ?_, fun e he => ?_⟩
    · rw [Dict.get?_insert, if_neg hne, Dict.get?_insert, if_neg hstays.1, h.sentinel]
    · rw [Dict.get?_insert] at hset
      by_cases horphan : orphanKey label.1 = key
      · exact .inr (horphan ▸ isOrphanKey_orphanKey label.1)
      · rw [if_neg horphan, Dict.get?_insert] at hset
        by_cases hkey : label.1 = key
        · simp [hkey] at hset
        · exact h.set key value (by simpa [hkey] using hset)
    · have hkept : ∀ key, (patch.get? key).isSome = true ∨ key = label.1 →
          (((patch.insert label.1 none).insert (orphanKey label.1) (some label.2)).get?
            key).isSome = true := by
        intro key hkey
        rw [Dict.get?_insert, Dict.get?_insert]
        by_cases horphan : orphanKey label.1 = key
        · simp [horphan]
        · by_cases heq : label.1 = key
          · rw [if_neg horphan, if_pos heq]
            rfl
          · simpa [horphan, heq] using hkey.resolve_right (Ne.symm heq)
      rcases List.mem_append.1 he with he | he
      · rcases h.taken e he with hkey | hkey | hkey
        · exact .inl hkey
        · exact .inr (.inl hkey)
        · exact .inr (.inr (hkept e.1 (.inl hkey)))
      · rw [List.mem_singleton.1 he]
        exact .inr (.inr (hkept label.1 (.inr rfl)))

theorem orphans_foldl (h : Orphans labels moved patch) (l : List (String × String)) :
    Orphans labels (moved ++ l) (l.foldl orphan patch) := by
  induction l generalizing moved patch with
  | nil => simpa using h
  | cons label rest ih => simpa using ih (orphans_orphan h label)

/-- The change that marks a pod, empty if the pod is marked. -/
def markChange (labels : Labels) : LabelPatch := labels.entries.foldl orphan (sentinelPatch labels)

theorem orphans_markChange (labels : Labels) :
    Orphans labels labels.entries (markChange labels) :=
  orphans_foldl orphans_sentinelPatch labels.entries

theorem markPatch_eq (labels : Labels) : markPatch labels =
    if (markChange labels).isEmpty then none else some (markChange labels) := rfl

def markedLabels (labels : Labels) : Labels := applyPatch labels (markChange labels)

theorem sentinel_markedLabels (labels : Labels) :
    (markedLabels labels).get? Convention.sentinelKey = some Convention.sentinelValue := by
  rw [markedLabels, get?_applyPatch, (orphans_markChange labels).sentinel, sentinelPatch]
  by_cases hmarked : labels.get? Convention.sentinelKey = some Convention.sentinelValue
  · simp [hmarked]
  · simp [hmarked, Dict.singleton]

theorem key_of_mem_markedLabels {e : String × String} (he : e ∈ (markedLabels labels).entries) :
    e.1 = Convention.sentinelKey ∨ isOrphanKey e.1 = true := by
  have horphans := orphans_markChange labels
  have hget : (markedLabels labels).get? e.1 = some e.2 := Dict.get?_eq_some_iff.2 he
  rw [markedLabels, get?_applyPatch] at hget
  cases hpatch : (markChange labels).get? e.1 with
  | some change =>
    rw [hpatch, Option.getD_some] at hget
    exact horphans.set e.1 e.2 (hpatch.trans (congrArg some hget))
  | none =>
    rw [hpatch, Option.getD_none] at hget
    rcases horphans.taken e (Dict.get?_eq_some_iff.1 hget) with hkey | hkey | hkey
    · exact .inl hkey
    · exact .inr hkey
    · rw [hpatch] at hkey
      cases hkey

/-- There is nothing to change on a pod that is marked. -/
theorem markPatch_markedLabels (labels : Labels) : markPatch (markedLabels labels) = none := by
  have hsentinel : sentinelPatch (markedLabels labels) = .empty :=
    if_pos (sentinel_markedLabels labels)
  -- Every key is the sentinel or has the mark, so that the fold passes over all of them.
  have hstays : ∀ l : List (String × String), l ⊆ (markedLabels labels).entries →
      l.foldl orphan .empty = (.empty : LabelPatch) := by
    intro l hl
    induction l with
    | nil => rfl
    | cons e rest ih =>
      have hkey := key_of_mem_markedLabels (hl List.mem_cons_self)
      have horphan : orphan .empty e = .empty := by
        rw [orphan, if_pos (by simpa using hkey)]
      rw [List.foldl_cons, horphan]
      exact ih fun x hx => hl (by simp [hx])
  have hnone : markChange (markedLabels labels) = .empty := by
    rw [markChange, hsentinel]
    exact hstays _ fun _ h => h
  rw [markPatch_eq, hnone]
  rfl

end Cordon.Marking

/-! ## Pods -/

namespace Cordon.Kube.Pod

open Marking ClusterState

def marked (p : Pod) : Pod :=
  match markPatch p.labels with
  | some patch => relabel patch p
  | none => p

theorem labels_marked (p : Pod) : p.marked.labels = markedLabels p.labels := by
  rw [marked, markPatch_eq]
  by_cases hempty : (markChange p.labels).isEmpty = true
  · have hnone : (markChange p.labels).entries = [] := List.isEmpty_iff.1 hempty
    rw [if_pos hempty, markedLabels, applyPatch, hnone]
    rfl
  · rw [if_neg hempty]
    rfl

theorem isQuarantined_marked (p : Pod) : isQuarantined p.marked = true := by
  simp [isQuarantined, labels_marked, sentinel_markedLabels]

theorem marked_marked (p : Pod) : p.marked.marked = p.marked := by
  rw [marked, labels_marked, markPatch_markedLabels]

theorem marked_frame (p : Pod) : p.marked.identity = p.identity ∧
    p.marked.nodeName = p.nodeName ∧ p.marked.spec = p.spec ∧ p.marked.status = p.status ∧
    { p.marked.metadata with labels := p.metadata.labels } = p.metadata := by
  unfold marked
  split
  · exact ⟨rfl, rfl, rfl, rfl, rfl⟩
  · exact ⟨rfl, rfl, rfl, rfl, rfl⟩

end Cordon.Kube.Pod
