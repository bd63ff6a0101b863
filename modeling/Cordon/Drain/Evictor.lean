import Cordon.Drain.Plan

/-! # Eviction under a budget

An `Evictor` counts the pods it has evicted or is evicting. A pod is evicted only if the policy's
strategy admits it and a place in the budget can be reserved; the place is given back unless the
eviction succeeds.
-/

namespace Cordon.Drain

/-- Which pods may be evicted. -/
inductive Strategy where
  /-- Any pod. -/
  | anyPod
  /-- No mirror pods and no pods of daemon sets. -/
  | drain
deriving DecidableEq

/-- Which pods may be evicted, how many, and whether only for show. -/
structure Policy where
  strategy : Strategy
  budget : Nat
  dryRun : Bool
deriving DecidableEq

/-- A policy and the number of places in use. -/
structure Evictor where
  policy : Policy
  evicted : Nat
deriving DecidableEq

namespace Evictor

/-- No place is in use. -/
def new (policy : Policy) : Evictor := ⟨policy, 0⟩

/-- Whether the strategy admits a pod. -/
def admits (e : Evictor) (p : Kube.Pod) : Bool :=
  match e.policy.strategy with
  | .anyPod => true
  | .drain => !(isMirror p || isDaemonsetPod p)

/-- Takes a place, if one is free. -/
def reserve (e : Evictor) : Option Evictor :=
  if e.evicted < e.policy.budget then some { e with evicted := e.evicted + 1 } else none

/-- Gives the place of an eviction back unless the pod is gone. -/
def settle (e : Evictor) (succeeded : Bool) : Evictor :=
  if succeeded then e else { e with evicted := e.evicted - 1 }

/-- Takes a place for a pod that the strategy admits. -/
def start (e : Evictor) (p : Kube.Pod) : Option Evictor := if e.admits p then e.reserve else none

end Evictor

end Cordon.Drain
