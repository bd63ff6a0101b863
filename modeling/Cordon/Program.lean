/-! # Programs that ask

A `Program` is a computation that asks questions and goes on with the answers. An `Interface` says
which questions there are and what an answer to each looks like. What a program does is then data:
it can be run against a cluster, against a list of answers, or against every possible answer.

The main statement is `run_bind`: running two programs in turn is running the one and then the
other.
-/

namespace Cordon

/-- Questions, and the answers to each. -/
structure Interface where
  Request : Type
  Answer : Request → Type

/-- A computation that asks questions of an interface. -/
inductive Program (I : Interface) (α : Type) : Type where
  | done (value : α)
  | ask (request : I.Request) (resume : I.Answer request → Program I α)

namespace Program

variable {I J : Interface} {α β γ σ : Type}

/-- Goes on with the result of a program. -/
def andThen : Program I α → (α → Program I β) → Program I β
  | done a, f => f a
  | ask r resume, f => ask r fun answer => (resume answer).andThen f

instance : Monad (Program I) where
  pure := done
  bind := andThen

/-- Asks one question. -/
def query (r : I.Request) : Program I (I.Answer r) := ask r done

/-- Answers the questions of a program from a state that the answers may change. -/
def run (answer : (r : I.Request) → σ → I.Answer r × σ) : Program I α → σ → α × σ
  | done a, s => (a, s)
  | ask r resume, s =>
    let (reply, s) := answer r s
    (resume reply).run answer s

/-- Answers the questions of a program by another program. -/
def interpret (answer : (r : I.Request) → Program J (I.Answer r)) : Program I α → Program J α
  | done a => done a
  | ask r resume => (answer r).andThen fun reply => (resume reply).interpret answer

/-! ## Laws -/

@[simp] theorem pure_eq (a : α) : (pure a : Program I α) = done a := rfl

@[simp] theorem bind_eq (p : Program I α) (f : α → Program I β) : p >>= f = p.andThen f := rfl

@[simp] theorem done_andThen (a : α) (f : α → Program I β) : (done a).andThen f = f a := rfl

@[simp] theorem ask_andThen (r : I.Request) (resume : I.Answer r → Program I α)
    (f : α → Program I β) :
    (ask r resume).andThen f = ask r fun answer => (resume answer).andThen f := rfl

@[simp] theorem andThen_done (p : Program I α) : p.andThen done = p := by
  induction p with
  | done a => rfl
  | ask r resume ih => simp [ih]

theorem andThen_assoc (p : Program I α) (f : α → Program I β) (g : β → Program I γ) :
    (p.andThen f).andThen g = p.andThen fun a => (f a).andThen g := by
  induction p with
  | done a => rfl
  | ask r resume ih => simp [ih]

instance : LawfulMonad (Program I) :=
  LawfulMonad.mk' (Program I) (fun p => andThen_done p) (fun _ _ => rfl)
    (fun p f g => andThen_assoc p f g)

@[simp] theorem run_done (answer : (r : I.Request) → σ → I.Answer r × σ) (a : α) (s : σ) :
    (done a).run answer s = (a, s) := rfl

theorem run_ask (answer : (r : I.Request) → σ → I.Answer r × σ) (r : I.Request)
    (resume : I.Answer r → Program I α) (s : σ) :
    (ask r resume).run answer s = (resume (answer r s).1).run answer (answer r s).2 := rfl

/-- Running two programs in turn is running the one and then the other. -/
theorem run_bind (answer : (r : I.Request) → σ → I.Answer r × σ) (p : Program I α)
    (f : α → Program I β) (s : σ) :
    (p.andThen f).run answer s = (f (p.run answer s).1).run answer (p.run answer s).2 := by
  induction p generalizing s with
  | done a => rfl
  | ask r resume ih => simp [run_ask, ih]

end Program

end Cordon
