import Cordon.Proofs.Run.Dialogue
import Cordon.Proofs.Run.Reading

/-! # Dialogues that are broken off

What holds when a program asks a certain question is told by the dialogue before it.  A dialogue
that is broken off visits a scene (`visits_of_follows`), one that is not runs the program
(`executes_of_follows`); and a question that is asked is one that the program may ask, if the
answers before it are as promised (`Program.Obeys.asks`).
-/

namespace Cordon

variable {others : ClusterState → ClusterState → Prop} {α : Type} {s t : Scene}

/-- An entry of two lists in a row is one of the first list or one of the second. -/
theorem split_append {h₁ h₂ before after : List α} {e : α} (h : h₁ ++ h₂ = before ++ e :: after) :
    (∃ during, h₁ = before ++ e :: during) ∨
      ∃ front, before = h₁ ++ front ∧ h₂ = front ++ e :: after := by
  rcases List.append_eq_append_iff.1 h with ⟨front, hbefore, hh₂⟩ | ⟨during, hh₁, hrest⟩
  · exact .inr ⟨front, hbefore, hh₂⟩
  · rcases List.cons_eq_append_iff.1 hrest with ⟨rfl, hh₂⟩ | ⟨during, rfl, -⟩
    · exact .inr ⟨[], by simpa using hh₁.symm, by simpa using hh₂⟩
    · exact .inl ⟨during, hh₁⟩

/-- A program asks what it may, if it has been answered as promised. -/
theorem Program.Obeys.asks {I : Interface} {G : Protocol I} {p : Program I α} {post : α → Prop}
    {before rest : Dialogue I} {e : I.Event} {a : α} (hp : p.Obeys G post)
    (hs : p.Speaks (before ++ e :: rest) a) (hanswers : ∀ e' ∈ before, G.answers e'.1 e'.2) :
    G.asks e.1 := by
  induction p generalizing before with
  | done b =>
    have hnil := hs.1
    simp at hnil
  | ask r resume ih =>
    obtain ⟨answer, rest', heq, hs⟩ := hs
    cases before with
    | nil =>
      cases heq
      exact hp.1
    | cons e' before =>
      cases heq
      have hfirst : G.answers r answer := hanswers ⟨r, answer⟩ (by simp)
      exact ih answer (hp.2 answer hfirst) hs fun e' he' => hanswers e' (by simp [he'])

/-- The cluster answers as promised. -/
theorem Follows.honest {P : Footprint} {h : Dialogue Effects} (hf : Follows (Answers others) s h t) :
    ∀ e ∈ h, P.effects.answers e.1 e.2 := by
  induction h generalizing s with
  | nil => simp
  | cons e h ih =>
    obtain ⟨m, hm, hf⟩ := hf
    intro e' he'
    rcases List.mem_cons.1 he' with rfl | he'
    · exact hm.honest
    · exact ih hf e' he'

/-- A program that has begun with a dialogue visits the scene that the dialogue leads to. -/
theorem visits_of_follows {r : Program Effects α} {h : Dialogue Effects} (ho : r.Opens h)
    (hf : Follows (Answers others) s h t) : Visits others r s t := by
  obtain ⟨rest, a, hs⟩ := ho
  induction r generalizing s h with
  | done b =>
    obtain ⟨hnil, -⟩ := hs
    rw [(List.append_eq_nil_iff.1 hnil).1] at hf
    exact hf
  | ask r resume ih =>
    cases h with
    | nil => exact .inl hf
    | cons e h =>
      obtain ⟨answer, rest', heq, hs⟩ := hs
      obtain ⟨m, hm, hf⟩ := hf
      cases heq
      exact .inr ⟨answer, m, hm, ih answer hf hs⟩

/-- A program that has had a dialogue to its end has run. -/
theorem executes_of_follows {p : Program Effects α} {h : Dialogue Effects} {a : α}
    (hs : p.Speaks h a) (hf : Follows (Answers others) s h t) : Executes others p s a t := by
  induction p generalizing s h with
  | done b =>
    obtain ⟨rfl, rfl⟩ := hs
    exact ⟨rfl, hf⟩
  | ask r resume ih =>
    obtain ⟨answer, rest, rfl, hs⟩ := hs
    obtain ⟨m, hm, hf⟩ := hf
    exact ⟨answer, m, hm, ih answer hs hf⟩

end Cordon
