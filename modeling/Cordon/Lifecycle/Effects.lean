import Cordon.Controller.Error
import Cordon.Drain.Deschedule

/-! # What a pass over a quarantine may do

A pass calls the cluster and the store, limits how long a step on a node may take, and asks for the
time. While a limit is set, an answer of the cluster may be that the time is up; the step is then
given up where it stands.
-/

namespace Cordon.Effects

/-- A question of a pass. -/
inductive Request where
  | cluster (r : Drain.Request)
  | store (c : StoreCall)
  /-- Sets the limit for what follows, in milliseconds. -/
  | arm (limit : Nat)
  /-- Takes the limit away. -/
  | disarm
  | now
deriving DecidableEq

/-- The answers: nothing from the cluster if the time is up, and the time as text. -/
abbrev Request.Answer : Request → Type
  | cluster r => Option r.Answer
  | store c => Except StoreError c.Reply
  | arm _ => Unit
  | disarm => Unit
  | now => String

end Cordon.Effects

namespace Cordon

/-- The cluster, the store and the clock. -/
abbrev Effects : Interface := ⟨Effects.Request, Effects.Request.Answer⟩

namespace Effects

/-- Runs a step on the cluster; nothing if the time is up before it ends. -/
def interruptible {α : Type} : Program Drain.Api α → Program Effects (Option α)
  | .done a => .done (some a)
  | .ask r resume => .ask (I := Effects) (.cluster r) fun
    | some answer => interruptible (resume answer)
    | none => .done none

def within {α : Type} (limit : Nat) (p : Program Drain.Api α) : Program Effects (Option α) := do
  Program.query (I := Effects) (.arm limit)
  let result ← interruptible p
  Program.query (I := Effects) .disarm
  pure result

/-- Calls the store. -/
def store (c : StoreCall) : ExceptT StoreError (Program Effects) c.Reply :=
  ExceptT.mk (Program.ask (I := Effects) (.store c) .done)

/-- Asks for the time. -/
def now : Program Effects String := Program.ask (I := Effects) .now .done

end Effects

end Cordon
