import Cordon.Proofs.Run.Dialogue
import Cordon.Proofs.Run.Footprint
import Mathlib.Data.Set.Insert

/-! # Calls and what they rest on

Many a call to the cluster rests on an earlier one: a pod is deleted because it has been listed, and
taints are replaced on a node that has been looked up.  A `Licence` says which calls may be made by
someone who has heard certain answers.

`Program.Asks` holds of the programs that make no other calls, whatever they are answered, and
`Grounded` holds of the dialogues in which no other call is made.  All dialogues of such a program
are grounded (`Asks.grounded`), and what a state keeps as long as calls are licensed, it keeps along
a grounded dialogue (`Follows.grounded`).
-/

namespace Cordon

/-- Answers of the cluster that have been heard. -/
abbrev Heard := Set ClusterApi.Event

/-- Which calls may be made, when this has been heard. -/
abbrev Licence := Heard → ClusterCall → Prop

/-- An interface whose questions may set calls to the cluster off, and whose answers may tell what
the cluster has answered. -/
class OnCluster (I : Interface) where
  calls : I.Request → ClusterCall → Prop
  tells : I.Event → Heard

open OnCluster (calls tells)

instance : OnCluster ClusterApi where
  calls c c' := c' = c
  tells e := {e}

/-- How a removal ends is of no account for the calls that follow. -/
instance : OnCluster Drain.Api where
  calls
    | .call c, c' => c' = c
    | .launch r, c' => ∃ removal, r = some removal ∧ c' = removal.call
    | .await _, _ => False
  tells
    | ⟨.call c, answer⟩ => {⟨c, answer⟩}
    | ⟨.launch _, _⟩ | ⟨.await _, _⟩ => ∅

instance : OnCluster Effects where
  calls
    | .cluster r, c => calls (I := Drain.Api) r c
    | .store _, _ | .arm _, _ | .disarm, _ | .now, _ => False
  tells
    | ⟨.cluster r, some answer⟩ => tells (I := Drain.Api) ⟨r, answer⟩
    | _ => ∅

/-! ## Programs -/

namespace Program

variable {I : Interface} [OnCluster I] {L L' : Licence} {k : Heard} {α β : Type}

/-- A program that makes no call without a licence, and ends as it should. -/
def Asks (L : Licence) : Heard → Program I α → (Heard → α → Prop) → Prop
  | k, done a, post => post k a
  | k, ask r resume, post => (∀ c, calls r c → L k c) ∧
    ∀ answer, (resume answer).Asks L (k ∪ tells ⟨r, answer⟩) post

theorem Asks.mono {p : Program I α} {post post' : Heard → α → Prop} (h : p.Asks L k post)
    (hpost : ∀ k' a, k ⊆ k' → post k' a → post' k' a) : p.Asks L k post' := by
  induction p generalizing k with
  | done a => exact hpost k a subset_rfl h
  | ask r resume ih =>
    exact ⟨h.1, fun answer => ih answer (h.2 answer) fun k' a hk => hpost k' a fun _ hx =>
      hk (.inl hx)⟩

theorem Asks.weaken {p : Program I α} {post : Heard → α → Prop} (h : p.Asks L k post)
    (hL : ∀ k c, L k c → L' k c) : p.Asks L' k post := by
  induction p generalizing k with
  | done a => exact h
  | ask r resume ih => exact ⟨fun c hc => hL k c (h.1 c hc), fun answer => ih answer (h.2 answer)⟩

theorem Asks.andThen {p : Program I α} {f : α → Program I β} {post : Heard → α → Prop}
    {post' : Heard → β → Prop} (hp : p.Asks L k post)
    (hf : ∀ k' a, k ⊆ k' → post k' a → (f a).Asks L k' post') : (p.andThen f).Asks L k post' := by
  induction p generalizing k with
  | done a => exact hf k a subset_rfl hp
  | ask r resume ih =>
    exact ⟨hp.1, fun answer => ih answer (hp.2 answer) fun k' a hk => hf k' a fun _ hx =>
      hk (.inl hx)⟩

end Program

/-! ## Computations that may fail -/

section Consults

variable {I : Interface} [OnCluster I] {ε α β : Type} {L L' : Licence} {k : Heard}

/-- A computation that makes no call without a licence and, if it succeeds, ends as it should. -/
def Consults (L : Licence) (k : Heard) (p : ExceptT ε (Program I) α) (post : Heard → α → Prop) :
    Prop :=
  p.run.Asks L k fun k' r => ∀ a, r = .ok a → post k' a

variable {p : ExceptT ε (Program I) α} {post post' : Heard → α → Prop}

theorem Consults.mono (h : Consults L k p post) (hpost : ∀ k' a, k ⊆ k' → post k' a → post' k' a) :
    Consults L k p post' :=
  Program.Asks.mono h fun k' _ hk hr a ha => hpost k' a hk (hr a ha)

theorem Consults.plain (h : Consults L k p post) : Consults L k p fun _ _ => True :=
  h.mono fun _ _ _ _ => trivial

theorem consults_pure {a : α} (h : post k a) :
    Consults L k (pure a : ExceptT ε (Program I) α) post := by
  intro b hb
  cases hb
  exact h

theorem consults_throw (e : ε) : Consults L k (throw e : ExceptT ε (Program I) α) post := by
  intro b hb
  cases hb

theorem Consults.bind {f : α → ExceptT ε (Program I) β} {post' : Heard → β → Prop}
    (hp : Consults L k p post)
    (hf : ∀ k' a, k ⊆ k' → post k' a → Consults L k' (f a) post') :
    Consults L k (p >>= f) post' := by
  unfold Consults
  rw [ExceptT.run_bind]
  refine Program.Asks.andThen hp fun k' r hk hr => ?_
  cases r with
  | ok a => exact hf k' a hk (hr a rfl)
  | error e =>
    intro b hb
    cases hb

theorem Consults.tryCatch {f : ε → ExceptT ε (Program I) α} (hp : Consults L k p post)
    (hf : ∀ k' e, Consults L k' (f e) post) : Consults L k (tryCatch p f) post := by
  refine Program.Asks.andThen hp fun k' r _ hr => ?_
  cases r with
  | ok a => exact hr
  | error e => exact hf k' e

theorem consults_forM {as : List α} {f : α → ExceptT ε (Program I) PUnit}
    (h : ∀ a ∈ as, ∀ k', k ⊆ k' → Consults L k' (f a) fun _ _ => True) :
    Consults L k (as.forM f) fun _ _ => True := by
  induction as generalizing k with
  | nil => exact consults_pure trivial
  | cons a rest ih =>
    show Consults L k (f a >>= fun _ => rest.forM f) _
    exact (h a (by simp) k subset_rfl).bind fun k' _ hk _ =>
      ih fun b hb k'' hk' => h b (by simp [hb]) k'' (hk.trans hk')

end Consults

section Clustered

variable {α : Type} {L : Licence} {k : Heard}

theorem consults_call {c : ClusterCall} (h : L k c) :
    Consults L k (call c) fun k' a => ⟨c, .ok a⟩ ∈ k' := by
  refine ⟨fun c' hc => hc ▸ h, fun answer a ha => ?_⟩
  cases ha
  exact .inr rfl

theorem consults_orAbsent {p : Clustered Unit} (h : Consults L k p fun _ _ => True) :
    Consults L k (Isolation.orAbsent p) fun _ _ => True := by
  refine h.tryCatch fun k' e => ?_
  split
  · exact consults_pure trivial
  · exact consults_throw e

theorem Consults.ifPresent {p : Clustered α} {post : Heard → α → Prop} (h : Consults L k p post) :
    Consults L k (Isolation.ifPresent p) fun k' found => ∀ a, found = some a → post k' a := by
  refine Consults.tryCatch ?_ fun k' e => ?_
  · rw [← bind_pure_comp]
    refine h.bind fun k' a _ ha => consults_pure ?_
    rintro b hb
    cases hb
    exact ha
  · split
    · exact consults_pure (by simp)
    · exact consults_throw e

/-! ## Steps -/

theorem Program.Asks.sequentially {p : Clustered α} {post : Heard → Except IsolationError α → Prop}
    (h : p.run.Asks L k post) : (Drain.sequentially p).run.Asks L k post := by
  show (Program.interpret _ p.run).Asks L k post
  generalize p.run = q at h
  induction q generalizing k with
  | done a => exact h
  | ask c resume ih => exact ⟨h.1, fun answer => ih answer (h.2 answer)⟩

theorem Program.Asks.interruptible {p : Program Drain.Api α} {post : Heard → α → Prop}
    (h : p.Asks L k post) : (Effects.interruptible p).Asks L k fun _ _ => True := by
  induction p generalizing k with
  | done a => exact trivial
  | ask r resume ih =>
    rw [Effects.interruptible]
    refine ⟨h.1, fun answer => ?_⟩
    cases answer with
    | some a => exact ih a (h.2 a)
    | none => exact trivial

theorem Program.Asks.within {p : Program Drain.Api α} {post : Heard → α → Prop} (limit : Nat)
    (h : ∀ k, p.Asks L k post) : (Effects.within limit p).Asks L k fun _ _ => True := by
  rw [within_eq]
  refine ⟨fun _ hc => hc.elim, fun _ => ?_⟩
  refine Program.Asks.andThen (h _).interruptible fun _ _ _ _ => ?_
  exact ⟨fun _ hc => hc.elim, fun _ => trivial⟩

end Clustered

/-! ## Dialogues -/

section Dialogues

variable {I : Interface} [OnCluster I] {L : Licence} {α σ : Type}

/-- What is heard of the cluster in a dialogue. -/
def heardIn (h : Dialogue I) : Heard := {x | ∃ e ∈ h, x ∈ tells e}

/-- Every call of a dialogue is licensed by what has been heard before it. -/
def Grounded (L : Licence) (k : Heard) (h : Dialogue I) : Prop :=
  ∀ before e after, h = before ++ e :: after → ∀ c, calls e.1 c → L (k ∪ heardIn before) c

theorem grounded_cons {k : Heard} {e : I.Event} {h : Dialogue I} :
    Grounded L k (e :: h) ↔ (∀ c, calls e.1 c → L k c) ∧ Grounded L (k ∪ tells e) h := by
  have hnone : k ∪ heardIn ([] : Dialogue I) = k := by simp [heardIn]
  have hcons : ∀ before : Dialogue I,
      k ∪ heardIn (e :: before) = k ∪ tells e ∪ heardIn before := by
    intro before
    ext x
    simp [heardIn, or_assoc]
  constructor
  · intro hg
    refine ⟨fun c hc => ?_, fun before e' after heq c hc => ?_⟩
    · have hfirst := hg [] e h rfl c hc
      rwa [hnone] at hfirst
    · have hlater := hg (e :: before) e' after (by rw [heq]; rfl) c hc
      rwa [hcons] at hlater
  · rintro ⟨hfirst, hlater⟩ before e' after heq c hc
    cases before with
    | nil =>
      cases heq
      rw [hnone]
      exact hfirst c hc
    | cons e₀ before =>
      cases heq
      rw [hcons]
      exact hlater before e' after rfl c hc

theorem grounded_append {k : Heard} {h₁ h₂ : Dialogue I} :
    Grounded L k (h₁ ++ h₂) ↔ Grounded L k h₁ ∧ Grounded L (k ∪ heardIn h₁) h₂ := by
  induction h₁ generalizing k with
  | nil =>
    have hnone : k ∪ heardIn ([] : Dialogue I) = k := by simp [heardIn]
    rw [hnone, List.nil_append]
    refine ⟨fun hg => ⟨fun before e after heq => ?_, hg⟩, fun hg => hg.2⟩
    simp at heq
  | cons e h₁ ih =>
    have hcons : k ∪ heardIn (e :: h₁) = k ∪ tells e ∪ heardIn h₁ := by
      ext x
      simp [heardIn, or_assoc]
    rw [List.cons_append, grounded_cons, grounded_cons, ih, hcons, and_assoc]

/-- A dialogue without calls is grounded. -/
theorem grounded_of_silent {k : Heard} {h : Dialogue I} (hh : ∀ e ∈ h, ∀ c, ¬ calls e.1 c) :
    Grounded L k h := by
  rintro before e after rfl c hc
  exact absurd hc (hh e (by simp) c)

theorem Grounded.front {k : Heard} {h rest : Dialogue I} (hg : Grounded L k (h ++ rest)) :
    Grounded L k h := by
  intro before e after heq c hc
  exact hg before e (after ++ rest) (by rw [heq]; simp) c hc

theorem Program.Asks.grounded {p : Program I α} {post : Heard → α → Prop} {k : Heard}
    {h : Dialogue I} {a : α} (hp : p.Asks L k post) (hs : p.Speaks h a) : Grounded L k h := by
  induction p generalizing k h with
  | done b =>
    cases hs.1
    intro before e after heq
    simp at heq
  | ask r resume ih =>
    obtain ⟨answer, rest, rfl, hs⟩ := hs
    exact grounded_cons.2 ⟨hp.1, ih answer (hp.2 answer) hs⟩

/-- What is kept by licensed calls is kept along a grounded dialogue. -/
theorem Follows.grounded {R : (r : I.Request) → σ → I.Answer r → σ → Prop} {J : Heard → σ → Prop}
    {k : Heard} {h : Dialogue I} {s t : σ} (hf : Follows R s h t) (hg : Grounded L k h)
    (hstep : ∀ k (e : I.Event) s t, (∀ c, calls e.1 c → L k c) → R e.1 s e.2 t → J k s →
      J (k ∪ tells e) t) (hs : J k s) : ∃ k', J k' t := by
  induction h generalizing k s with
  | nil =>
    cases hf
    exact ⟨k, hs⟩
  | cons e h ih =>
    obtain ⟨m, he, hf⟩ := hf
    obtain ⟨hfirst, hlater⟩ := grounded_cons.1 hg
    exact ih hf hlater (hstep k e s m hfirst he hs)

end Dialogues

end Cordon
