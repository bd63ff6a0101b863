import Cordon.Convention
import Cordon.Kube.Taint

/-! # The quarantine taint and its toleration

An isolated node carries the quarantine taint; tracked workloads tolerate it. Both edits leave all
entries of others alone and answer with nothing when there is nothing to do.
-/

namespace Cordon.Repelling

open Kube (Taint Toleration)

/-- The taint of an isolated node. -/
def quarantineTaint : Taint :=
  ⟨Convention.taintKey, some Convention.taintValue, Convention.taintEffect, none⟩

/-- The toleration of that taint. -/
def quarantineToleration : Toleration :=
  ⟨some Convention.taintKey, some "Equal", some Convention.taintValue, some Convention.taintEffect,
    none⟩

/-- Key and value tell a quarantine taint, whatever its effect. -/
def isQuarantineTaint (t : Taint) : Bool :=
  t.key = Convention.taintKey && t.value = some Convention.taintValue

/-- Key and value both have to match: a toleration with the key alone is someone else's. -/
def isQuarantineToleration (t : Toleration) : Bool :=
  t.key = some Convention.taintKey && t.value = some Convention.taintValue

/-- Whether a list has a quarantine taint. -/
def hasTaint (l : List Taint) : Bool := l.any isQuarantineTaint

/-- Whether a list has a quarantine toleration. -/
def hasToleration (l : List Toleration) : Bool := l.any isQuarantineToleration

/-- The taints with the quarantine taint behind them; nothing if it is there. -/
def withTaint (l : List Taint) : Option (List Taint) :=
  if hasTaint l then none else some (l ++ [quarantineTaint])

/-- The taints without quarantine taints; nothing if there are none. -/
def withoutTaint (l : List Taint) : Option (List Taint) :=
  if hasTaint l then some (l.filter fun t => !isQuarantineTaint t) else none

/-- The tolerations with the quarantine toleration behind them; nothing if it is there. -/
def withToleration (l : List Toleration) : Option (List Toleration) :=
  if hasToleration l then none else some (l ++ [quarantineToleration])

/-- The tolerations without quarantine tolerations; nothing if there are none. -/
def withoutToleration (l : List Toleration) : Option (List Toleration) :=
  if hasToleration l then some (l.filter fun t => !isQuarantineToleration t) else none

end Cordon.Repelling
