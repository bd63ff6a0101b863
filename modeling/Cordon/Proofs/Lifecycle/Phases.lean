import Cordon.Proofs.Lifecycle.Remains

/-! # Passes and phases

Each pass opens with a move to a phase of its own, and an update closes with a move back.  A pass
whose opening move is not allowed ends there: nothing is asked, and the lifecycle stays as it is
(`refused_of_takes`).  One whose opening move is allowed never meets a move that is not, since
nothing between its moves touches the phase (`keepsPhase_reverseMarked`,
`keepsPhase_convergeFirst`); so it leaves a phase that depends only on whether it succeeds
(`left_of_takes`).

A `Series` is any number of passes over one lifecycle, whatever they are answered.
-/

namespace Cordon

namespace Phase

theorem stopped_allows (next : Phase) : stopped.allows next = false := by
  cases next <;> rfl

theorem allows_stopped {current : Phase} : current.allows stopped = false ↔ current = stopped := by
  cases current <;> decide

end Phase

namespace Pass

variable {α β : Type}

/-- A pass that leaves the phase as it is, however it ends. -/
def KeepsPhase (p : Pass α) : Prop := ∀ l h r l', p.Says l h r l' → l'.phase = l.phase

theorem Leaves.keepsPhase {p : Pass α} (hp : Leaves p) : KeepsPhase p :=
  fun l h r l' hs => by rw [hp l h r l' hs]

theorem keepsPhase_bind {p : Pass α} {f : α → Pass β} (hp : KeepsPhase p)
    (hf : ∀ a, KeepsPhase (f a)) : KeepsPhase (p >>= f) := by
  intro l h r l' hs
  rcases says_bind.1 hs with ⟨a, k, h₁, h₂, -, hs₁, hs₂⟩ | ⟨e, -, hs₁⟩
  · exact (hf a _ _ _ _ hs₂).trans (hp _ _ _ _ hs₁)
  · exact hp _ _ _ _ hs₁

theorem keepsPhase_forM {as : List α} {f : α → Pass Unit} (hf : ∀ a, KeepsPhase (f a)) :
    KeepsPhase (as.forM f) := by
  induction as with
  | nil => exact (leaves_pure ()).keepsPhase
  | cons a rest ih => exact keepsPhase_bind (hf a) fun _ => ih

theorem keepsPhase_get {f : Lifecycle → Pass β} (hf : ∀ l, KeepsPhase (f l)) :
    KeepsPhase (get >>= f) := fun l h r l' hs => hf l l h r l' (says_get.1 hs)

end Pass

namespace Lifecycle

open Pass

variable {l l' : Lifecycle} {h : Dialogue Effects} {r : Except ControllerError Unit}

/-! ## Between the moves -/

theorem Records.keepsPhase {n : Target} {p : Pass Unit} (hp : Records n p) : KeepsPhase p := by
  intro l h r l' hs
  rcases hp l h r l' hs with rfl | rfl
  · rfl
  · rfl

theorem keepsPhase_reverseNode (u : Target) : KeepsPhase (reverseNode u) := by
  rw [reverseNode_eq]
  refine keepsPhase_bind (leaves_undo u).keepsPhase fun _ l h r l' hs => ?_
  obtain ⟨-, -, rfl⟩ := says_modify hs
  rfl

theorem keepsPhase_reverseMarked : KeepsPhase reverseMarked :=
  keepsPhase_get fun _ => keepsPhase_forM keepsPhase_reverseNode

theorem keepsPhase_convergeFirst (k : Lifecycle) : KeepsPhase (convergeFirst k) := by
  unfold convergeFirst
  split
  · exact (records_convergeNode _).keepsPhase
  · exact (leaves_pure ()).keepsPhase

/-! ## Moves -/

/-- A move that is not allowed is refused, and all stays as it is. -/
theorem says_advance_refused {next : Phase} (hallows : l.phase.allows next = false)
    (hs : (advance next).Says l h r l') :
    h = [] ∧ r = .error (.invalidTransition l.phase next) ∧ l' = l := by
  unfold Says at hs
  have hmove : l.phase.transition next = .error (.invalidTransition l.phase next) := by
    rw [Phase.transition, Phase.move, hallows, if_neg Bool.false_ne_true]
  rw [run_advance, hmove] at hs
  obtain ⟨rfl, hr⟩ := hs
  cases hr
  exact ⟨rfl, rfl, rfl⟩

/-- What follows a move to a phase: it asks for steps only, and leaves the phase or, if it succeeds,
another one. -/
structure Proceeds (p : Pass Unit) (phase last : Phase) : Prop where
  inSteps : ∀ l, l.phase = phase → InSteps p l
  phase : ∀ l h r l', l.phase = phase → p.Says l h r l' →
    l'.phase = if r matches .ok _ then last else phase

theorem Proceeds.of_keepsPhase {p : Pass Unit} {phase : Phase} (hsteps : ∀ l, InSteps p l)
    (hp : KeepsPhase p) : Proceeds p phase phase where
  inSteps l _ := hsteps l
  phase l h r l' hl hs := by
    rw [hp l h r l' hs, hl]
    split <;> rfl

theorem proceeds_update :
    Proceeds (reverseMarked >>= fun _ => get >>= fun l => convergeFirst l >>= fun _ =>
      advance .active) .updating .active := by
  -- The closing move is allowed wherever the parts before it have left the phase.
  have hfront : ∀ {l k : Lifecycle} {h₁ h₂ : Dialogue Effects} {m : Lifecycle},
      l.phase = .updating → reverseMarked.Says l h₁ (.ok ()) m →
        (convergeFirst m).Says m h₂ (.ok ()) k → k.phase.allows .active = true := by
    intro l k h₁ h₂ m hl hs₁ hs₂
    rw [keepsPhase_convergeFirst m _ _ _ _ hs₂, keepsPhase_reverseMarked _ _ _ _ hs₁, hl]
    rfl
  constructor
  · intro l hl
    refine inSteps_bind_of inSteps_reverseMarked fun h₁ _ m hs₁ => inSteps_get ?_
    exact inSteps_bind_of inSteps_convergeFirst fun h₂ _ k hs₂ =>
      inSteps_advance (hfront hl hs₁ hs₂)
  · intro l h r l' hl hs
    rcases says_bind.1 hs with ⟨_, m, h₁, h₂, rfl, hs₁, hrest⟩ | ⟨e, rfl, hs₁⟩
    · rcases says_bind.1 (says_get.1 hrest) with ⟨_, k, h₃, h₄, rfl, hs₂, hs₃⟩ | ⟨e, rfl, hs₂⟩
      · obtain ⟨-, rfl, rfl⟩ := says_advance (hfront hl hs₁ hs₂) hs₃
        rfl
      · exact (keepsPhase_convergeFirst m _ _ _ _ hs₂).trans
          ((keepsPhase_reverseMarked _ _ _ _ hs₁).trans hl)
    · exact (keepsPhase_reverseMarked _ _ _ _ hs₁).trans hl

/-! ## The four passes -/

/-- The passes over a lifecycle. -/
inductive Act where
  | prepare
  | start
  | update
  | stop
deriving DecidableEq

namespace Act

def pass : Act → Pass Unit
  | prepare => Lifecycle.prepare
  | start => Lifecycle.start
  | update => Lifecycle.update
  | stop => Lifecycle.stop

/-- The phase that a pass moves to first. -/
def opening : Act → Phase
  | prepare => .preparing
  | start => .active
  | update => .updating
  | stop => .stopped

/-- The phase that a pass leaves if it succeeds. -/
def closing : Act → Phase
  | update => .active
  | a => a.opening

theorem pass_eq (a : Act) : ∃ rest : Pass Unit,
    a.pass = (advance a.opening >>= fun _ => rest) ∧ Proceeds rest a.opening a.closing := by
  cases a with
  | prepare =>
    exact ⟨_, rfl, .of_keepsPhase
      (fun _ => inSteps_bind inSteps_reverseMarked fun _ _ =>
        inSteps_get (inSteps_forM fun _ _ => inSteps_prepareNode _))
      (keepsPhase_bind keepsPhase_reverseMarked fun _ => keepsPhase_get fun _ =>
        keepsPhase_forM fun n => (leaves_prepareNode n).keepsPhase)⟩
  | start =>
    exact ⟨_, rfl, .of_keepsPhase
      (fun _ => inSteps_get (inSteps_forM fun _ _ => inSteps_startNode _))
      (keepsPhase_get fun _ => keepsPhase_forM fun n => (records_startNode n).keepsPhase)⟩
  | update => exact ⟨_, update_eq, proceeds_update⟩
  | stop =>
    exact ⟨_, rfl, .of_keepsPhase
      (fun _ => inSteps_get <| inSteps_bind (inSteps_forM fun _ _ => inSteps_reverseNode _)
        fun _ _ => inSteps_step _ _ _)
      (keepsPhase_get fun _ => keepsPhase_bind (keepsPhase_forM keepsPhase_reverseNode) fun _ =>
        (leaves_step _ _ _).keepsPhase)⟩

end Act

/-! ## Series of passes -/

/-- A pass over a lifecycle, from before to after it. -/
structure Entry where
  act : Act
  before : Lifecycle
  said : Dialogue Effects
  outcome : Except ControllerError Unit
  after : Lifecycle

namespace Entry

variable {e : Entry}

/-- What an entry says has come about, under some answers. -/
def Takes (e : Entry) : Prop := e.act.pass.Says e.before e.said e.outcome e.after

/-- The pass does nothing but say that it may not begin. -/
structure Refused (e : Entry) : Prop where
  outcome : e.outcome = .error (.invalidTransition e.before.phase e.act.opening)
  said : e.said = []
  after : e.after = e.before

/-- The pass meets no move that is not allowed, and leaves its phase. -/
structure Left (e : Entry) : Prop where
  outcome : ∀ source target, e.outcome ≠ .error (.invalidTransition source target)
  phase : e.after.phase = if e.outcome matches .ok _ then e.act.closing else e.act.opening

theorem refused_of_takes (he : e.Takes) (hallows : e.before.phase.allows e.act.opening = false) :
    e.Refused := by
  obtain ⟨rest, hpass, -⟩ := e.act.pass_eq
  unfold Takes at he
  rw [hpass] at he
  rcases says_bind.1 he with ⟨a, k, h₁, h₂, -, hs₁, -⟩ | ⟨err, herr, hs₁⟩
  · obtain ⟨-, hok, -⟩ := says_advance_refused hallows hs₁
    cases hok
  · obtain ⟨hsaid, herror, hafter⟩ := says_advance_refused hallows hs₁
    exact ⟨herr.trans herror, hsaid, hafter⟩

theorem left_of_takes (he : e.Takes) (hallows : e.before.phase.allows e.act.opening = true) :
    e.Left := by
  obtain ⟨rest, hpass, hrest⟩ := e.act.pass_eq
  unfold Takes at he
  rw [hpass] at he
  rcases says_bind.1 he with ⟨a, k, h₁, h₂, -, hs₁, hs₂⟩ | ⟨err, -, hs₁⟩
  · obtain ⟨-, -, rfl⟩ := says_advance hallows hs₁
    refine ⟨fun source target heq => ?_, hrest.phase _ _ _ _ rfl hs₂⟩
    have hstep := (hrest.inSteps (e.before.inPhase e.act.opening) rfl _ _ _ hs₂).2 _ heq
    cases hstep
  · obtain ⟨-, herror, -⟩ := says_advance hallows hs₁
    cases herror

/-- Nothing follows a stop, whether it succeeds, fails or is refused. -/
theorem stopped_of_takes (he : e.Takes)
    (hstop : e.act = .stop ∨ e.before.phase = .stopped) : e.after.phase = .stopped := by
  cases hallows : e.before.phase.allows e.act.opening with
  | true =>
    -- Only a stop may begin here: after one, no pass may.
    rcases hstop with hact | hphase
    · rw [(left_of_takes he hallows).phase, hact]
      split <;> rfl
    · rw [hphase, Phase.stopped_allows] at hallows
      cases hallows
  | false =>
    rw [(refused_of_takes he hallows).after]
    rcases hstop with hact | hphase
    · rw [hact] at hallows
      exact Phase.allows_stopped.1 hallows
    · exact hphase

end Entry

/-- Passes in any order over one lifecycle, each from where the one before it has left it. -/
def Series : Lifecycle → List Entry → Prop
  | _, [] => True
  | l, e :: rest => e.before = l ∧ e.Takes ∧ Series e.after rest

variable {es pre post : List Entry} {e : Entry}

theorem Series.takes (hs : Series l es) : ∀ e ∈ es, e.Takes := by
  induction es generalizing l with
  | nil => simp
  | cons e rest ih =>
    obtain ⟨-, he, hrest⟩ := hs
    rintro e' (_ | ⟨_, he'⟩)
    · exact he
    · exact ih hrest e' he'

theorem Series.stopped (hs : Series l es) (hl : l.phase = .stopped) :
    ∀ e ∈ es, e.before.phase = .stopped := by
  induction es generalizing l with
  | nil => simp
  | cons e rest ih =>
    obtain ⟨rfl, he, hrest⟩ := hs
    rintro e' (_ | ⟨_, he'⟩)
    · exact hl
    · exact ih hrest (Entry.stopped_of_takes he (.inr hl)) e' he'

theorem Series.stopped_behind (hs : Series l (pre ++ e :: post)) (hstop : e.act = .stop) :
    ∀ e' ∈ post, e'.before.phase = .stopped := by
  induction pre generalizing l with
  | nil => exact hs.2.2.stopped (Entry.stopped_of_takes hs.2.1 (.inl hstop))
  | cons e' rest ih => exact ih hs.2.2

/-- Passes in any order over a lifecycle in any phase, whatever they are answered.  A pass that may
not begin says so and does nothing.  One that may begin meets no move that is not allowed, and it
leaves its phase whether it succeeds or fails; only an update ends in another phase than it begins
with, and only if it succeeds.  Behind a stop every pass is refused. -/
theorem passes_keep_to_phases (hs : Series l es) :
    (∀ e ∈ es, (e.before.phase.allows e.act.opening = false → e.Refused) ∧
      (e.before.phase.allows e.act.opening = true → e.Left)) ∧
    ∀ pre e post, es = pre ++ e :: post → e.act = .stop → ∀ e' ∈ post, e'.Refused := by
  refine ⟨fun e he => ⟨Entry.refused_of_takes (hs.takes e he),
    Entry.left_of_takes (hs.takes e he)⟩, ?_⟩
  rintro pre e post rfl hstop e' he'
  refine Entry.refused_of_takes (hs.takes e' (by simp [he'])) ?_
  rw [hs.stopped_behind hstop e' he', Phase.stopped_allows]

/-! ## Series that are computed -/

section Computed

variable {σ : Type} (answer : (r : Effects.Request) → σ → r.Answer × σ)

def Entry.of (a : Act) (l : Lifecycle) (s : σ) : Entry where
  act := a
  before := l
  said := (a.pass.run.run l).transcript answer s
  outcome := ((a.pass.run.run l).run answer s).1.1
  after := ((a.pass.run.run l).run answer s).1.2

/-- The series of these passes, answered by a state. -/
def entries : List Act → Lifecycle → σ → List Entry
  | [], _, _ => []
  | a :: rest, l, s => .of answer a l s ::
    entries rest (Entry.of answer a l s).after ((a.pass.run.run l).run answer s).2

theorem series_entries (acts : List Act) (l : Lifecycle) (s : σ) :
    Series l (entries answer acts l s) := by
  induction acts generalizing l s with
  | nil => trivial
  | cons a rest ih => exact ⟨rfl, Program.speaks_transcript (I := Effects) answer _ s, ih _ _⟩

end Computed

namespace Sample

/-- A cluster that fails every call. -/
def outage : (r : Effects.Request) → Unit → r.Answer × Unit
  | .cluster (.call c), s => (some (.error (c.error (.transport "timeout"))), s)
  | .cluster (.launch _), s => (some (), s)
  | .cluster (.await _), s => (none, s)
  | .store _, s => (.error .missingNamespace, s)
  | .arm _, s | .disarm, s => ((), s)
  | .now, s => ("", s)

/-- One node that is to be isolated, and nothing on record. -/
def unshaped : Lifecycle :=
  ⟨[⟨"w1", true, [], [], .default, .default⟩], [], .empty, .idle, false, 10⟩

def interrupted : List Entry :=
  entries outage [.update, .prepare, .start, .update, .update, .start, .stop, .stop] unshaped ()

end Sample

open Sample in
/-- On a cluster that fails every call the passes still move from phase to phase; what may not begin
is refused, the last time behind a stop that has failed. -/
theorem passes_keep_to_phases_interrupted :
    interrupted.map (fun e => (e.after.phase, e.said.isEmpty)) =
        [(.idle, true), (.preparing, false), (.active, false), (.updating, false),
          (.updating, true), (.active, false), (.stopped, false), (.stopped, true)] ∧
      ∀ e ∈ interrupted.drop 7, e.Refused := by
  refine ⟨by decide +kernel, fun e he => ?_⟩
  have hs : Series unshaped interrupted := series_entries outage _ _ ()
  have hsplit : interrupted =
      interrupted.take 6 ++ (interrupted.drop 6).head (by decide +kernel) :: interrupted.drop 7 :=
    rfl
  exact (passes_keep_to_phases hs).2 _ _ _ hsplit (by decide +kernel) e he

end Lifecycle

end Cordon
