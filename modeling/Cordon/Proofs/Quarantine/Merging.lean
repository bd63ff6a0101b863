import Cordon.Quarantine.Resource
import Mathlib.Data.List.Nodup

/-! # Merging lists of workloads

A merge goes through two lists in turn and remembers which workloads it has met.  What it takes
from a list depends on these workloads only as a set (`firsts_congr`): it takes the first mention
of each workload that it has not met (`mem_firsts`), in the order of the first mentions
(`positions_firsts`).

A list behind another one is taken with the workloads of the other one met (`firsts_append`), and
what has been merged once is merged again without a change (`firsts_firsts`).  From these two all
laws of `merge` follow.
-/

namespace Cordon.ResourceRef

variable {l m : List ResourceRef} {r : ResourceRef} {k : ResourceKey} {seen met : List ResourceKey}

/-- The workloads that a list mentions, in its order. -/
def keys (l : List ResourceRef) : List ResourceKey := l.map (·.key)

/-- What a list says of a workload where it mentions it first. -/
def firstMention (l : List ResourceRef) (k : ResourceKey) : Option ResourceRef :=
  l.find? (·.key = k)

/-- Where a list mentions a workload first. -/
def position (l : List ResourceRef) (k : ResourceKey) : Nat := (keys l).idxOf k

@[simp] theorem keys_nil : keys [] = [] := rfl

@[simp] theorem keys_cons : keys (r :: l) = r.key :: keys l := rfl

@[simp] theorem keys_append : keys (l ++ m) = keys l ++ keys m := List.map_append

theorem firstMention_cons :
    firstMention (r :: l) k = if r.key = k then some r else firstMention l k := by
  by_cases h : r.key = k <;> simp [firstMention, h]

theorem position_cons_self : position (r :: l) r.key = 0 := List.idxOf_cons_self

theorem position_cons_of_ne (h : r.key ≠ k) : position (r :: l) k = position l k + 1 :=
  List.idxOf_cons_ne _ h

/-! ## What is taken from a list -/

theorem firsts_cons_of_mem (h : r.key ∈ seen) : firsts seen (r :: l) = firsts seen l := if_pos h

theorem firsts_cons_of_not_mem (h : r.key ∉ seen) :
    firsts seen (r :: l) = r :: firsts (r.key :: seen) l := if_neg h

/-- The workloads met count as a set. -/
theorem firsts_congr (h : ∀ k, k ∈ seen ↔ k ∈ met) : firsts seen l = firsts met l := by
  induction l generalizing seen met with
  | nil => rfl
  | cons r rest ih =>
    by_cases hr : r.key ∈ seen
    · rw [firsts_cons_of_mem hr, firsts_cons_of_mem ((h _).1 hr), ih h]
    · have hrest : ∀ k, k ∈ r.key :: seen ↔ k ∈ r.key :: met := fun k => by
        rw [List.mem_cons, List.mem_cons, h]
      rw [firsts_cons_of_not_mem hr, firsts_cons_of_not_mem (fun hr' => hr ((h _).2 hr')), ih hrest]

/-- A mention is taken if it is the first one of a workload that has not been met. -/
theorem mem_firsts : r ∈ firsts seen l ↔ r.key ∉ seen ∧ firstMention l r.key = some r := by
  induction l generalizing seen with
  | nil => simp [firsts, firstMention]
  | cons a rest ih =>
    rw [firstMention_cons]
    by_cases ha : a.key ∈ seen
    · rw [firsts_cons_of_mem ha, ih]
      refine and_congr_right fun hr => ?_
      have hne : a.key ≠ r.key := fun heq => hr (heq ▸ ha)
      rw [if_neg hne]
    · rw [firsts_cons_of_not_mem ha, List.mem_cons, ih, List.mem_cons, not_or]
      by_cases heq : a.key = r.key
      · rw [if_pos heq, Option.some.injEq]
        constructor
        · rintro (rfl | ⟨⟨hne, -⟩, -⟩)
          · exact ⟨ha, rfl⟩
          · exact absurd heq.symm hne
        · exact fun h => .inl h.2.symm
      · have hne : r ≠ a := fun h => heq (h ▸ rfl)
        simp [heq, hne, Ne.symm heq]

theorem mem_keys_iff : k ∈ keys l ↔ ∃ r, firstMention l k = some r := by
  rw [← Option.isSome_iff_exists, firstMention, List.find?_isSome]
  simp [keys]

theorem key_of_firstMention (h : firstMention l k = some r) : r.key = k := by
  simpa using List.find?_some h

theorem firstMention_append :
    firstMention (l ++ m) k = (firstMention l k).or (firstMention m k) := List.find?_append

theorem mem_keys_firsts : k ∈ keys (firsts seen l) ↔ k ∉ seen ∧ k ∈ keys l := by
  rw [mem_keys_iff (l := l)]
  constructor
  · intro h
    obtain ⟨r, hr, rfl⟩ := List.mem_map.1 h
    obtain ⟨hseen, hfirst⟩ := mem_firsts.1 hr
    exact ⟨hseen, r, hfirst⟩
  · rintro ⟨hseen, r, hfirst⟩
    obtain rfl := key_of_firstMention hfirst
    exact List.mem_map.2 ⟨r, mem_firsts.2 ⟨hseen, hfirst⟩, rfl⟩

/-- The mentions that are taken stand in the order of the first mentions. -/
theorem positions_firsts : ((keys (firsts seen l)).map (position l)).Pairwise (· < ·) := by
  induction l generalizing seen with
  | nil => exact .nil
  | cons a rest ih =>
    -- All positions move up by one for workloads other than the one in front.
    have hshift : ∀ {met}, a.key ∈ met →
        (keys (firsts met rest)).map (position (a :: rest)) =
          ((keys (firsts met rest)).map (position rest)).map (· + 1) := by
      intro met ha
      rw [List.map_map]
      refine List.map_congr_left fun k hk => position_cons_of_ne ?_
      rintro rfl
      exact (mem_keys_firsts.1 hk).1 ha
    have hlater : ∀ {met}, a.key ∈ met →
        ((keys (firsts met rest)).map (position (a :: rest))).Pairwise (· < ·) := by
      intro met ha
      rw [hshift ha]
      exact ih.map _ fun _ _ h => Nat.succ_lt_succ h
    by_cases ha : a.key ∈ seen
    · rw [firsts_cons_of_mem ha]
      exact hlater ha
    · have hmet : a.key ∈ a.key :: seen := List.mem_cons_self
      rw [firsts_cons_of_not_mem ha, keys_cons, List.map_cons, List.pairwise_cons]
      refine ⟨fun n hn => ?_, hlater hmet⟩
      rw [hshift hmet] at hn
      obtain ⟨n', -, rfl⟩ := List.mem_map.1 hn
      rw [position_cons_self]
      exact Nat.succ_pos n'

theorem nodup_keys_firsts : (keys (firsts seen l)).Nodup := by
  have hpositions : ((keys (firsts seen l)).map (position l)).Nodup :=
    positions_firsts.imp fun h => Nat.ne_of_lt h
  exact hpositions.of_map _

/-! ## Laws -/

/-- What is behind another list is taken with the workloads of that list met. -/
theorem firsts_append : firsts seen (l ++ m) = firsts seen l ++ firsts (keys l ++ seen) m := by
  induction l generalizing seen with
  | nil => rfl
  | cons r rest ih =>
    by_cases hr : r.key ∈ seen
    · have hmet : ∀ k, k ∈ keys rest ++ seen ↔ k ∈ keys (r :: rest) ++ seen := fun k => by
        simp only [keys_cons, List.cons_append, List.mem_cons, List.mem_append]
        exact (or_iff_right_of_imp fun h => .inr (h ▸ hr)).symm
      rw [List.cons_append, firsts_cons_of_mem hr, firsts_cons_of_mem hr, ih, firsts_congr hmet]
    · have hmet : ∀ k, k ∈ keys rest ++ r.key :: seen ↔ k ∈ keys (r :: rest) ++ seen := fun k => by
        simp only [keys_cons, List.cons_append, List.mem_cons, List.mem_append]
        exact or_left_comm
      rw [List.cons_append, firsts_cons_of_not_mem hr, firsts_cons_of_not_mem hr, ih,
        List.cons_append, firsts_congr hmet]

/-- To take from what has been taken is to take at once. -/
theorem firsts_firsts (h : ∀ k ∈ met, k ∈ seen) : firsts seen (firsts met l) = firsts seen l := by
  induction l generalizing seen met with
  | nil => rfl
  | cons r rest ih =>
    by_cases hmet : r.key ∈ met
    · rw [firsts_cons_of_mem hmet, firsts_cons_of_mem (h _ hmet), ih h]
    · rw [firsts_cons_of_not_mem hmet]
      by_cases hseen : r.key ∈ seen
      · have hrest : ∀ k ∈ r.key :: met, k ∈ seen := by
          rintro k (_ | ⟨_, hk⟩)
          · exact hseen
          · exact h k hk
        rw [firsts_cons_of_mem hseen, firsts_cons_of_mem hseen, ih hrest]
      · have hrest : ∀ k ∈ r.key :: met, k ∈ r.key :: seen := fun k hk =>
          (List.mem_cons.1 hk).elim (fun heq => heq ▸ List.mem_cons_self)
            fun hk => List.mem_cons_of_mem _ (h k hk)
        rw [firsts_cons_of_not_mem hseen, firsts_cons_of_not_mem hseen, ih hrest]

/-- Nothing is taken of workloads that have all been met. -/
theorem firsts_of_met (h : ∀ k ∈ keys l, k ∈ seen) : firsts seen l = [] := by
  refine List.eq_nil_iff_forall_not_mem.2 fun r hr => ?_
  have hkey := mem_keys_firsts.1 (List.mem_map_of_mem (f := (·.key)) hr)
  exact hkey.1 (h _ hkey.2)

/-- Distinct workloads of which none has been met are all taken. -/
theorem firsts_of_fresh (hl : (keys l).Nodup) (h : ∀ k ∈ keys l, k ∉ seen) :
    firsts seen l = l := by
  induction l generalizing seen with
  | nil => rfl
  | cons r rest ih =>
    rw [keys_cons, List.nodup_cons] at hl
    have hrest : ∀ k ∈ keys rest, k ∉ r.key :: seen := fun k hk hmem =>
      (List.mem_cons.1 hmem).elim (fun heq => hl.1 (heq ▸ hk)) (h k (List.mem_cons_of_mem _ hk))
    rw [firsts_cons_of_not_mem (h _ List.mem_cons_self), ih hl.2 hrest]

variable (a b c : List ResourceRef)

theorem merge_nil : merge a [] = firsts [] a := by rw [merge, List.append_nil]

theorem merge_self : merge a a = merge a [] := by
  rw [merge_nil, merge, firsts_append, firsts_of_met (fun k hk => List.mem_append_left _ hk),
    List.append_nil]

/-- Merging three lists one way or the other is going through all three in turn. -/
theorem merge_assoc : merge (merge a b) c = merge a (merge b c) := by
  have hsame : ∀ k, k ∈ keys (firsts [] (a ++ b)) ++ [] ↔ k ∈ keys (a ++ b) ++ [] := fun k => by
    rw [List.append_nil, List.append_nil, mem_keys_firsts, and_iff_right List.not_mem_nil]
  calc merge (merge a b) c
      = firsts [] (a ++ b) ++ firsts (keys (a ++ b) ++ []) c := by
        rw [merge, firsts_append, merge, firsts_firsts (fun _ hk => hk), firsts_congr hsame]
    _ = firsts [] (a ++ (b ++ c)) := by rw [← firsts_append, List.append_assoc]
    _ = firsts [] a ++ firsts (keys a ++ []) (firsts [] (b ++ c)) := by
        rw [firsts_append, firsts_firsts fun _ hk => absurd hk List.not_mem_nil]
    _ = merge a (merge b c) := firsts_append.symm

/-- A merge mentions each workload of its lists once: as it is mentioned first, the first list
coming before the second, and in the order of these first mentions. -/
theorem merge_takes_firsts :
    (keys (merge a b)).Nodup ∧
      (∀ k, k ∈ keys (merge a b) ↔ k ∈ keys a ∨ k ∈ keys b) ∧
      (∀ r, r ∈ merge a b ↔ firstMention (a ++ b) r.key = some r) ∧
      ((keys (merge a b)).map (position (a ++ b))).Pairwise (· < ·) ∧
      (∀ r, r.key ∈ keys a → (r ∈ merge a b ↔ firstMention a r.key = some r)) ∧
      merge (merge a b) c = merge a (merge b c) ∧
      merge a a = merge a [] ∧
      ((keys a).Nodup → merge a [] = a ∧ merge a a = a) := by
  have hmem : ∀ r, r ∈ merge a b ↔ firstMention (a ++ b) r.key = some r := fun r =>
    mem_firsts.trans (and_iff_right List.not_mem_nil)
  refine ⟨nodup_keys_firsts, fun k => ?_, hmem, positions_firsts, fun r hr => ?_,
    merge_assoc a b c, merge_self a, fun ha => ?_⟩
  · rw [merge, mem_keys_firsts, and_iff_right List.not_mem_nil, keys_append, List.mem_append]
  · obtain ⟨r', hr'⟩ := mem_keys_iff.1 hr
    rw [hmem, firstMention_append, hr', Option.some_or]
  · have hsame : merge a [] = a := by
      rw [merge_nil, firsts_of_fresh ha fun _ _ => List.not_mem_nil]
    exact ⟨hsame, (merge_self a).trans hsame⟩

/-- A node keeps the pods of `web`, mentions it a second time otherwise, and shares it with the
request. -/
theorem merge_takes_firsts_of_repeated :
    let web := ResourceRef.mk .deployment "web" "prod"
    let logs := ResourceRef.mk .daemonset "logs" "prod" false
    let own := [web true, logs, web false]
    let shared := [web false, ResourceRef.mk .deployment "api" "prod" false]
    merge own shared = [web true, logs, ResourceRef.mk .deployment "api" "prod" false] ∧
      (web true).key ∈ keys own ∧ (web true ∈ merge own shared ↔
        firstMention own (web true).key = some (web true)) ∧
      (keys [web true, logs]).Nodup ∧ merge [web true, logs] [web true, logs] =
        [web true, logs] := by
  intro web logs own shared
  obtain ⟨-, -, -, -, hown, -, -, -⟩ := merge_takes_firsts own shared []
  obtain ⟨-, -, -, -, -, -, -, hdistinct⟩ := merge_takes_firsts [web true, logs] [] []
  have hnodup : (keys [web true, logs]).Nodup := by decide
  have hkey : (web true).key ∈ keys own := by decide
  exact ⟨by decide, hkey, hown _ hkey, hnodup, (hdistinct hnodup).2⟩

end Cordon.ResourceRef
