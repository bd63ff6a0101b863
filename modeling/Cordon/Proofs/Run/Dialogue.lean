import Cordon.Program

/-! # Dialogues

A dialogue is the list of questions that a program asks, each with the answer that it gets.
`Speaks` holds of the dialogues that a program can have when it may be answered anything at all; so
what is shown of all dialogues of a program holds wherever the program runs.

`Follows` ties a dialogue to a state that gives the answers and changes with them, and `Attains`
says what a program comes to under such answers and what is left of the state.  The main statements
take a dialogue apart where one program ends and the next begins (`speaks_andThen`,
`follows_append`, `attains_andThen`).
-/

namespace Cordon

abbrev Interface.Event (I : Interface) : Type := (r : I.Request) × I.Answer r

abbrev Dialogue (I : Interface) : Type := List I.Event

namespace Program

variable {I : Interface} {α β σ : Type}

/-- A program has this dialogue and comes to this end. -/
def Speaks : Program I α → Dialogue I → α → Prop
  | done a, h, b => h = [] ∧ b = a
  | ask r resume, h, b => ∃ answer rest, h = ⟨r, answer⟩ :: rest ∧ (resume answer).Speaks rest b

/-- A program has begun with this dialogue, and may have been broken off after it. -/
def Opens (p : Program I α) (h : Dialogue I) : Prop := ∃ rest a, p.Speaks (h ++ rest) a

theorem speaks_andThen {p : Program I α} {f : α → Program I β} {h : Dialogue I} {b : β} :
    (p.andThen f).Speaks h b ↔
      ∃ a h₁ h₂, h = h₁ ++ h₂ ∧ p.Speaks h₁ a ∧ (f a).Speaks h₂ b := by
  induction p generalizing h with
  | done a =>
    constructor
    · intro hf
      exact ⟨a, [], h, rfl, ⟨rfl, rfl⟩, hf⟩
    · rintro ⟨_, _, h₂, rfl, ⟨rfl, rfl⟩, hf⟩
      exact hf
  | ask r resume ih =>
    simp only [ask_andThen, Speaks, ih]
    constructor
    · rintro ⟨answer, _, rfl, a, h₁, h₂, rfl, hp, hf⟩
      exact ⟨a, ⟨r, answer⟩ :: h₁, h₂, rfl, ⟨answer, h₁, rfl, hp⟩, hf⟩
    · rintro ⟨a, _, h₂, rfl, ⟨answer, h₁, rfl, hp⟩, hf⟩
      exact ⟨answer, h₁ ++ h₂, rfl, a, h₁, h₂, rfl, hp, hf⟩

/-- Of two computations that may fail, the second one speaks if the first one succeeds. -/
theorem speaks_bind {ε : Type} {p : ExceptT ε (Program I) α} {f : α → ExceptT ε (Program I) β}
    {h : Dialogue I} {r : Except ε β} (hs : (p >>= f).run.Speaks h r) :
    (∃ a h₁ h₂, h = h₁ ++ h₂ ∧ p.run.Speaks h₁ (.ok a) ∧ (f a).run.Speaks h₂ r) ∨
      ∃ e, r = .error e ∧ p.run.Speaks h (.error e) := by
  rw [ExceptT.run_bind] at hs
  obtain ⟨ra, h₁, h₂, rfl, hp, hf⟩ := speaks_andThen.1 hs
  cases ra with
  | ok a => exact .inl ⟨a, h₁, h₂, rfl, hp, hf⟩
  | error e =>
    obtain ⟨rfl, rfl⟩ := hf
    exact .inr ⟨e, rfl, by simpa using hp⟩

theorem speaks_lift {ε : Type} {p : Program I α} {h : Dialogue I}
    {r : Except ε α} (hs : (ExceptT.lift p : ExceptT ε (Program I) α).run.Speaks h r) :
    ∃ a, r = .ok a ∧ p.Speaks h a := by
  obtain ⟨a, h₁, h₂, rfl, hp, rfl, rfl⟩ := speaks_andThen.1 hs
  rw [List.append_nil]
  exact ⟨a, rfl, hp⟩

section Except

variable {ε : Type} {answer : (r : I.Request) → σ → I.Answer r × σ} {p : ExceptT ε (Program I) α}
  {a : α} {e : ε} {s m : σ}

theorem run_except_bind_ok (h : p.run.run answer s = (.ok a, m))
    (f : α → ExceptT ε (Program I) β) :
    (p >>= f).run.run answer s = (f a).run.run answer m := by
  rw [ExceptT.run_bind]
  change Program.run _ (p.run.andThen _) s = _
  rw [run_bind, h]

theorem run_except_bind_error (h : p.run.run answer s = (.error e, m))
    (f : α → ExceptT ε (Program I) β) : (p >>= f).run.run answer s = (.error e, m) := by
  rw [ExceptT.run_bind]
  change Program.run _ (p.run.andThen _) s = _
  rw [run_bind, h]
  rfl

theorem run_except_tryCatch_ok (h : p.run.run answer s = (.ok a, m))
    (f : ε → ExceptT ε (Program I) α) : (tryCatch p f).run.run answer s = (.ok a, m) := by
  change Program.run _ (p.run.andThen _) s = _
  rw [run_bind, h]
  rfl

theorem run_except_tryCatch_error (h : p.run.run answer s = (.error e, m))
    (f : ε → ExceptT ε (Program I) α) :
    (tryCatch p f).run.run answer s = (f e).run.run answer m := by
  change Program.run _ (p.run.andThen _) s = _
  rw [run_bind, h]
  rfl

end Except

theorem Speaks.opens {p : Program I α} {h : Dialogue I} {a : α} (hp : p.Speaks h a) : p.Opens h :=
  ⟨[], a, by rw [List.append_nil]; exact hp⟩

/-- The dialogue of a program with a state that answers it. -/
def transcript (answer : (r : I.Request) → σ → I.Answer r × σ) : Program I α → σ → Dialogue I
  | done _, _ => []
  | ask r resume, s =>
    ⟨r, (answer r s).1⟩ :: (resume (answer r s).1).transcript answer (answer r s).2

theorem speaks_transcript (answer : (r : I.Request) → σ → I.Answer r × σ) (p : Program I α)
    (s : σ) : p.Speaks (p.transcript answer s) (p.run answer s).1 := by
  induction p generalizing s with
  | done a => exact ⟨rfl, rfl⟩
  | ask r resume ih => exact ⟨_, _, rfl, ih _ _⟩

end Program

/-! ## States that answer -/

section Follows

variable {I : Interface} {α σ : Type} {R : (r : I.Request) → σ → I.Answer r → σ → Prop}

/-- A state gives the answers of a dialogue in turn and becomes another one by it. -/
def Follows (R : (r : I.Request) → σ → I.Answer r → σ → Prop) : σ → Dialogue I → σ → Prop
  | s, [], t => t = s
  | s, e :: h, t => ∃ m, R e.1 s e.2 m ∧ Follows R m h t

theorem follows_append {s t : σ} {h k : Dialogue I} :
    Follows R s (h ++ k) t ↔ ∃ m, Follows R s h m ∧ Follows R m k t := by
  induction h generalizing s with
  | nil => simp [Follows]
  | cons e h ih =>
    simp only [List.cons_append, Follows, ih]
    constructor
    · rintro ⟨m, he, d, hh, hk⟩
      exact ⟨d, ⟨m, he, hh⟩, hk⟩
    · rintro ⟨d, ⟨m, he, hh⟩, hk⟩
      exact ⟨m, he, d, hh, hk⟩

/-- If every event of a dialogue keeps a property then so does the dialogue. -/
theorem Follows.keeps {s t : σ} {h : Dialogue I} {P : σ → Prop} (hf : Follows R s h t)
    (hstep : ∀ e ∈ h, ∀ s t, R e.1 s e.2 t → P s → P t) (hs : P s) : P t := by
  induction h generalizing s with
  | nil =>
    cases hf
    exact hs
  | cons e h ih =>
    obtain ⟨m, he, hf⟩ := hf
    exact ih hf (fun e' he' => hstep e' (List.mem_cons_of_mem e he')) (hstep e (by simp) s m he hs)

/-- A dialogue that a state answers is answered by what shows of the state. -/
theorem Follows.map {τ : Type} {R' : (r : I.Request) → τ → I.Answer r → τ → Prop} {f : σ → τ}
    {s t : σ} {h : Dialogue I} (hf : Follows R s h t)
    (hR : ∀ r s a t, R r s a t → R' r (f s) a (f t)) : Follows R' (f s) h (f t) := by
  induction h generalizing s with
  | nil =>
    cases hf
    rfl
  | cons e h ih =>
    obtain ⟨m, he, hf⟩ := hf
    exact ⟨f m, hR _ _ _ _ he, ih hf⟩

/-- A state that answers by a function follows the dialogue that it gives. -/
theorem follows_transcript {answer : (r : I.Request) → σ → I.Answer r × σ}
    (hanswer : ∀ r s, R r s (answer r s).1 (answer r s).2) (p : Program I α) (s : σ) :
    Follows R s (p.transcript answer s) (p.run answer s).2 := by
  induction p generalizing s with
  | done a => rfl
  | ask r resume ih => exact ⟨_, hanswer r s, ih _ _⟩

end Follows

/-! ## Ends -/

namespace Program

variable {I : Interface} {α β σ : Type} {R : (r : I.Request) → σ → I.Answer r → σ → Prop}

/-- A program, answered by a state, comes to this end and leaves the state like this. -/
def Attains (R : (r : I.Request) → σ → I.Answer r → σ → Prop) (p : Program I α) (s : σ) (a : α)
    (t : σ) : Prop :=
  ∃ h, p.Speaks h a ∧ Follows R s h t

theorem attains_done {a b : α} {s t : σ} :
    (done a : Program I α).Attains R s b t ↔ b = a ∧ t = s := by
  constructor
  · rintro ⟨_, ⟨rfl, rfl⟩, hf⟩
    exact ⟨rfl, hf⟩
  · rintro ⟨rfl, rfl⟩
    exact ⟨[], ⟨rfl, rfl⟩, rfl⟩

theorem attains_ask {r : I.Request} {resume : I.Answer r → Program I α} {a : α} {s t : σ} :
    (ask r resume).Attains R s a t ↔
      ∃ answer m, R r s answer m ∧ (resume answer).Attains R m a t := by
  constructor
  · rintro ⟨_, ⟨answer, rest, rfl, hp⟩, m, hm, hf⟩
    exact ⟨answer, m, hm, rest, hp, hf⟩
  · rintro ⟨answer, m, hm, rest, hp, hf⟩
    exact ⟨_, ⟨answer, rest, rfl, hp⟩, m, hm, hf⟩

theorem attains_andThen {p : Program I α} {f : α → Program I β} {b : β} {s t : σ} :
    (p.andThen f).Attains R s b t ↔ ∃ a m, p.Attains R s a m ∧ (f a).Attains R m b t := by
  constructor
  · rintro ⟨h, hs, hf⟩
    obtain ⟨a, h₁, h₂, rfl, hp, hrest⟩ := speaks_andThen.1 hs
    obtain ⟨m, hf₁, hf₂⟩ := follows_append.1 hf
    exact ⟨a, m, ⟨h₁, hp, hf₁⟩, h₂, hrest, hf₂⟩
  · rintro ⟨a, m, ⟨h₁, hp, hf₁⟩, h₂, hrest, hf₂⟩
    exact ⟨h₁ ++ h₂, speaks_andThen.2 ⟨a, h₁, h₂, rfl, hp, hrest⟩, follows_append.2 ⟨m, hf₁, hf₂⟩⟩

theorem attains_bind {ε : Type} {p : ExceptT ε (Program I) α} {f : α → ExceptT ε (Program I) β}
    {b : β} {s t : σ} (h : (p >>= f).run.Attains R s (.ok b) t) :
    ∃ a m, p.run.Attains R s (.ok a) m ∧ (f a).run.Attains R m (.ok b) t := by
  rw [ExceptT.run_bind] at h
  obtain ⟨r, m, hp, hf⟩ := attains_andThen.1 h
  cases r with
  | ok a => exact ⟨a, m, hp, hf⟩
  | error e => cases (attains_done.1 hf).1

/-- A program attains what it comes to under answers that are computed. -/
theorem attains_run {answer : (r : I.Request) → σ → I.Answer r × σ}
    (hanswer : ∀ r s, R r s (answer r s).1 (answer r s).2) (p : Program I α) (s : σ) :
    p.Attains R s (p.run answer s).1 (p.run answer s).2 :=
  ⟨_, speaks_transcript answer p s, follows_transcript hanswer p s⟩

end Program

end Cordon
