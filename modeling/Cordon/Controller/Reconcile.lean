import Cordon.Lifecycle.Basic

/-! # Reconciling a quarantine

One reconcile loads the latest copy of a quarantine and does one thing with it: it puts the
finalizer on a new one, stops a deleted one and then takes the finalizer off, or runs a pass and
keeps its outcome in the status. Nothing is done to the cluster before the finalizer is on, and the
finalizer stays until everything is undone. The status is not written if it says all that already.
-/

namespace Cordon.Controller

/-- What comes after a reconcile: nothing until the quarantine changes, or another reconcile after a
while, in milliseconds. -/
inductive Next where
  | awaitChange
  | requeue (after : Nat)
deriving DecidableEq

/-- How long steps may take, and when a quarantine is looked at again. -/
structure Timing where
  nodeTimeout : Nat
  resync : Nat
deriving DecidableEq

/-- After a failed reconcile, the quarantine is looked at again after this time. -/
def retryInterval : Nat := 30000

/-- What comes after a failed reconcile, whatever the error. -/
def afterError (_ : ControllerError) : Next := .requeue retryInterval

/-- A reconcile, which may fail. -/
abbrev Reconcile (α : Type) := ExceptT ControllerError (Program Effects) α

/-- Calls the store; what a failure means here. -/
def store (wrap : StoreError → ControllerError) (c : StoreCall) : Reconcile c.Reply :=
  ExceptT.mk do
    match ← (Effects.store c).run with
    | .ok a => pure (.ok a)
    | .error e => pure (.error (wrap e))

/-- Keeps the outcome of a pass in the status, unless the status says it already. -/
def writeStatus (q : Quarantine) (observed : List ObservedNode) (status : ConditionStatus)
    (reason message : String) : Reconcile Unit := do
  let current := q.status.getD .blank
  if current.differsFrom status message observed then
    let now ← liftM Effects.now
    let next := { current.setActive status reason message now with observedNodes := observed }
    store .updateStatus (.updateStatus q next)
  else pure ()

/-- Keeps a failed step in the status and fails with its error, also if the status cannot be
written. -/
def fail {α : Type} (q : Quarantine) (l : Lifecycle) (step : String) (e : ControllerError) :
    Reconcile α := do
  tryCatch (writeStatus q l.observedNodes .isFalse step e.message) fun _ => pure ()
  throw e

def runPass {α : Type} (p : Pass α) (l : Lifecycle) :
    Reconcile (Except ControllerError α × Lifecycle) :=
  liftM (p.run.run l)

/-- Brings a quarantine in place, or keeps it there; the step that failed with its error, if one
did. -/
def converge (l : Lifecycle) : Reconcile (Option (String × ControllerError) × Lifecycle) := do
  if l.wasActive then
    let (result, l) ← runPass Lifecycle.update l
    match result with
    | .ok _ => pure (none, l)
    | .error e => pure (some ("update", e), l)
  else
    let (result, l) ← runPass Lifecycle.prepare l
    match result with
    | .error e => pure (some ("prepare", e), l)
    | .ok _ =>
      let (result, l) ← runPass Lifecycle.start l
      match result with
      | .ok _ => pure (none, l)
      | .error e => pure (some ("start", e), l)

/-- Undoes a deleted quarantine and lets it go. -/
def release (q : Quarantine) (l : Lifecycle) : Reconcile Next := do
  let (result, l) ← runPass Lifecycle.stop l
  match result with
  | .ok _ =>
    store .finalizer (.removeFinalizer q)
    pure .awaitChange
  | .error e => fail q l "stop" e

/-- Reconciles a loaded quarantine. -/
def reconcileLoaded (timing : Timing) (q : Quarantine) : Reconcile Next := do
  let l := Lifecycle.new q timing.nodeTimeout
  if q.isDeleting then
    -- Without the finalizer there is nothing to let go of.
    if q.hasFinalizer then release q l else pure .awaitChange
  else if !q.hasFinalizer then
    -- The finalizer is itself a change, which brings the next reconcile.
    store .finalizer (.addFinalizer q)
    pure .awaitChange
  else
    match ← converge l with
    | (none, l) =>
      writeStatus q l.observedNodes .isTrue Convention.runningReason Convention.runningMessage
      pure (.requeue timing.resync)
    | (some (step, e), l) => fail q l step e

/-- Reconciles the quarantine of this name. -/
def reconcile (timing : Timing) (namespaceName : Option String) (name : String) :
    Reconcile Next :=
  match namespaceName with
  | none => throw (.missingNamespace name)
  | some ns => do
    match ← store .loadQuarantine (.getQuarantine ns name) with
    | none => pure .awaitChange
    | some q => reconcileLoaded timing q

end Cordon.Controller
