import Cordon.Lifecycle.Basic
import Cordon.Proofs.Cluster.Mark

/-! # What programs may write

A `Protocol` says which questions a program may ask and what the answers look like that it may
count on; `Program.Obeys` holds of the programs that keep to it, whatever they are answered.

A `Footprint` says which marks may be set, and to what.  `Clustered.StaysIn` and `Pass.StaysIn`
bound what a computation writes by a footprint.  Replies are part of it: a call that replaces the
taints of a node writes to the node that an earlier look-up has returned, so the look-up's promise
(`ClusterCall.Honest`) has to be carried to the call.

The rules here take a computation apart along its binds, loops and handlers; what each operation
of isolation writes then follows from what its calls write.
-/

namespace Cordon

/-! ## Protocols -/

/-- Which questions may be asked, and which answers may be counted on. -/
structure Protocol (I : Interface) where
  asks : I.Request → Prop
  answers : (r : I.Request) → I.Answer r → Prop

namespace Program

variable {I : Interface} {G H : Protocol I} {α β : Type}

/-- A program that asks what it may and ends as it should, if the answers are as promised. -/
def Obeys (G : Protocol I) : Program I α → (α → Prop) → Prop
  | done a, post => post a
  | ask r resume, post => G.asks r ∧ ∀ answer, G.answers r answer → (resume answer).Obeys G post

theorem Obeys.mono {p : Program I α} {post post' : α → Prop} (h : p.Obeys G post)
    (hpost : ∀ a, post a → post' a) : p.Obeys G post' := by
  induction p with
  | done a => exact hpost a h
  | ask r resume ih => exact ⟨h.1, fun answer ha => ih answer (h.2 answer ha)⟩

/-- A program may keep to a stricter protocol. -/
theorem Obeys.weaken {p : Program I α} {post : α → Prop} (h : p.Obeys G post)
    (hasks : ∀ r, G.asks r → H.asks r)
    (hanswers : ∀ r answer, H.answers r answer → G.answers r answer) : p.Obeys H post := by
  induction p with
  | done a => exact h
  | ask r resume ih =>
    exact ⟨hasks r h.1, fun answer ha => ih answer (h.2 answer (hanswers r answer ha))⟩

theorem Obeys.andThen {p : Program I α} {f : α → Program I β} {post : α → Prop}
    {post' : β → Prop} (hp : p.Obeys G post) (hf : ∀ a, post a → (f a).Obeys G post') :
    (p.andThen f).Obeys G post' := by
  induction p with
  | done a => exact hf a hp
  | ask r resume ih => exact ⟨hp.1, fun answer ha => ih answer (hp.2 answer ha)⟩

/-- Of two computations that may fail, the second one runs if the first one succeeds. -/
theorem Obeys.bindExcept {ε : Type} {p : ExceptT ε (Program I) α}
    {f : α → ExceptT ε (Program I) β} (hp : p.run.Obeys G fun _ => True)
    (hf : ∀ a, (f a).run.Obeys G fun _ => True) : (p >>= f).run.Obeys G fun _ => True := by
  rw [ExceptT.run_bind]
  refine Obeys.andThen hp fun r _ => ?_
  cases r with
  | ok a => exact hf a
  | error e => exact trivial

end Program

/-! ## Footprints -/

/-- Which marks may be set, and to what. -/
abbrev Footprint := Mark → Bool → Prop

/-- No mark is set. -/
def Footprint.nothing : Footprint := fun _ _ => False

/-- Whether a call writes within a footprint. -/
def ClusterCall.StaysIn (P : Footprint) (c : ClusterCall) : Prop :=
  ∀ m b, c.writes m = some b → P m b

/-- A look-up returns what it was asked for. -/
def ClusterCall.Honest : (c : ClusterCall) → Except IsolationError c.Reply → Prop
  | .getNode name, .ok n => n.name = name
  | .getWorkload key, .ok w => w.key = key
  | _, _ => True

namespace Footprint

/-- Calls to the cluster that write within a footprint. -/
def calls (P : Footprint) : Protocol ClusterApi := ⟨ClusterCall.StaysIn P, ClusterCall.Honest⟩

/-- The same of calls among removals that run side by side. -/
def drains (P : Footprint) : Protocol Drain.Api where
  asks
    | .call c => c.StaysIn P
    | .launch _ | .await _ => True
  answers
    | .call c, answer => c.Honest answer
    | .launch _, _ | .await _, _ => True

/-- The same of what a pass asks; a pass leaves the store alone. -/
def effects (P : Footprint) : Protocol Effects where
  asks
    | .cluster r => P.drains.asks r
    | .store _ => False
    | _ => True
  answers
    | .cluster r, answer => ∀ a, answer = some a → P.drains.answers r a
    | _, _ => True

end Footprint

/-! ## Computations that call the cluster -/

namespace Clustered

variable {P Q : Footprint} {α β : Type}

/-- A computation that writes within a footprint and, if it succeeds, ends as it should. -/
def Grants (P : Footprint) (p : Clustered α) (post : α → Prop) : Prop :=
  p.run.Obeys P.calls fun r => ∀ a, r = .ok a → post a

/-- A computation that writes within a footprint. -/
def StaysIn (P : Footprint) (p : Clustered α) : Prop := Grants P p fun _ => True

theorem Grants.staysIn {p : Clustered α} {post : α → Prop} (h : Grants P p post) : StaysIn P p :=
  Program.Obeys.mono h fun _ _ _ _ => trivial

theorem StaysIn.mono {p : Clustered α} (h : StaysIn P p) (hPQ : ∀ m b, P m b → Q m b) :
    StaysIn Q p :=
  Program.Obeys.weaken h (fun _ hc m b hw => hPQ m b (hc m b hw)) fun _ _ ha => ha

theorem staysIn_pure (a : α) : StaysIn P (pure a : Clustered α) := fun _ _ => trivial

theorem staysIn_throw (e : IsolationError) : StaysIn P (throw e : Clustered α) :=
  fun _ _ => trivial

theorem grants_call {c : ClusterCall} (h : c.StaysIn P) :
    Grants P (call c) fun a => c.Honest (.ok a) :=
  ⟨h, fun answer ha a hr => by cases hr; exact ha⟩

theorem staysIn_call {c : ClusterCall} (h : c.StaysIn P) : StaysIn P (call c) :=
  (grants_call h).staysIn

theorem Grants.bind {p : Clustered α} {f : α → Clustered β} {post : α → Prop} {post' : β → Prop}
    (hp : Grants P p post) (hf : ∀ a, post a → Grants P (f a) post') :
    Grants P (p >>= f) post' := by
  unfold Grants
  rw [ExceptT.run_bind]
  refine Program.Obeys.andThen hp fun r hr => ?_
  cases r with
  | ok a => exact hf a (hr a rfl)
  | error e => intro b hb; cases hb

theorem StaysIn.bind {p : Clustered α} {f : α → Clustered β} (hp : StaysIn P p)
    (hf : ∀ a, StaysIn P (f a)) : StaysIn P (p >>= f) :=
  Grants.bind hp fun a _ => hf a

theorem Grants.tryCatch {p : Clustered α} {f : IsolationError → Clustered α} {post : α → Prop}
    (hp : Grants P p post) (hf : ∀ e, Grants P (f e) post) : Grants P (tryCatch p f) post := by
  refine Program.Obeys.andThen hp fun r hr => ?_
  cases r with
  | ok a => exact hr
  | error e => exact hf e

theorem staysIn_forM {l : List α} {f : α → Clustered Unit} (h : ∀ a ∈ l, StaysIn P (f a)) :
    StaysIn P (l.forM f) := by
  induction l with
  | nil => exact staysIn_pure ()
  | cons a rest ih =>
    show StaysIn P (f a >>= fun _ => rest.forM f)
    exact (h a (by simp)).bind fun _ => ih fun b hb => h b (by simp [hb])

theorem staysIn_orAbsent {p : Clustered Unit} (h : StaysIn P p) :
    StaysIn P (Isolation.orAbsent p) := by
  refine Grants.tryCatch h fun e => ?_
  split
  · exact staysIn_pure ()
  · exact staysIn_throw e

theorem Grants.ifPresent {p : Clustered α} {post : α → Prop} (h : Grants P p post) :
    Grants P (Isolation.ifPresent p) fun found => ∀ a, found = some a → post a := by
  refine Grants.tryCatch ?_ fun e => ?_
  -- What is found is what the look-up returned; if nothing is found then nothing is promised.
  · rw [← bind_pure_comp]
    refine h.bind fun a ha => ?_
    intro found hfound b hb
    cases hfound
    cases hb
    exact ha
  · split
    · intro found hfound b hb
      cases hfound
      cases hb
    · intro found hfound
      cases hfound

end Clustered

/-! ## Steps of a pass -/

section Lifting

variable {P : Footprint} {α : Type}

theorem Program.Obeys.sequentially {p : Clustered α} {post : Except IsolationError α → Prop}
    (h : p.run.Obeys P.calls post) : (Drain.sequentially p).run.Obeys P.drains post := by
  show (Program.interpret _ p.run).Obeys P.drains post
  -- Calls in turn are the same calls, so each promise is the same promise.
  generalize p.run = q at h
  induction q with
  | done a => exact h
  | ask c resume ih => exact ⟨h.1, fun answer ha => ih answer (h.2 answer ha)⟩

theorem Program.Obeys.interruptible {p : Program Drain.Api α} {post : α → Prop}
    (h : p.Obeys P.drains post) :
    (Effects.interruptible p).Obeys P.effects fun r => ∀ a, r = some a → post a := by
  induction p with
  | done a =>
    intro b hb
    cases hb
    exact h
  | ask r resume ih =>
    rw [Effects.interruptible]
    refine ⟨h.1, fun answer ha => ?_⟩
    cases answer with
    -- If the time is up then the step is given up, and there is no result to speak of.
    | some a => exact ih a (h.2 a (ha a rfl))
    | none => intro b hb; cases hb

theorem within_eq (limit : Nat) (p : Program Drain.Api α) :
    Effects.within limit p =
      Program.ask (I := Effects) (.arm limit) fun _ =>
        (Effects.interruptible p).andThen fun r =>
          Program.ask (I := Effects) .disarm fun _ => .done r := rfl

theorem Program.Obeys.within {p : Program Drain.Api α} {post : α → Prop} (limit : Nat)
    (h : p.Obeys P.drains post) :
    (Effects.within limit p).Obeys P.effects fun r => ∀ a, r = some a → post a := by
  rw [within_eq]
  refine ⟨trivial, fun _ _ => ?_⟩
  refine Program.Obeys.andThen h.interruptible fun r hr => ?_
  exact ⟨trivial, fun _ _ => hr⟩

end Lifting

end Cordon
