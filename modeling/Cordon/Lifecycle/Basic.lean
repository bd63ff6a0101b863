import Cordon.Lifecycle.Effects

/-! # The life of a quarantine

A `Lifecycle` is a quarantine as one pass sees it: the nodes it names, the nodes on record that it
no longer names, and the records. `prepare` and `start` put the quarantine in place, `update` brings
the first changed node into line, and `stop` undoes everything.

A pass works node by node and stops at the first failure. The record of a node is written only when
the node has been brought into shape, and removed only when everything done to the node is undone.
-/

namespace Cordon

/-- A quarantine as one pass sees it. -/
structure Lifecycle where
  /-- The nodes that the request names. -/
  nodes : List Target
  /-- The nodes on record that the request no longer names. -/
  marked : List Target
  /-- The records by node name. -/
  records : Dict ObservedNode
  phase : Phase
  /-- Whether the quarantine was in place when it was loaded. -/
  wasActive : Bool
  /-- How long a step on a node may take, in milliseconds. -/
  timeout : Nat
deriving DecidableEq

/-- A pass over a quarantine. What has been recorded stays when the pass fails. -/
abbrev Pass (α : Type) := ExceptT ControllerError (StateT Lifecycle (Program Effects)) α

namespace Lifecycle

/-- A quarantine at the start of a pass. -/
def new (q : Quarantine) (timeout : Nat) : Lifecycle :=
  let nodes := q.spec.nodes.map fun n => Target.resolve n q.spec
  let dropped := q.observedNodes.filter fun o => !(nodes.any fun n => n.name == o.name)
  { nodes, timeout
    marked := dropped.map fun o => Target.ofObserved o q.spec
    records := .ofList (q.observedNodes.map fun o => (o.name, o))
    phase := .ofActive q.isActive
    wasActive := q.isActive }

/-- The records to keep: those of the nodes the request names, in its order, and behind them those
of dropped nodes that are not undone yet. -/
def observedNodes (l : Lifecycle) : List ObservedNode :=
  l.nodes.filterMap (fun n => l.records.get? n.name) ++
    l.marked.filterMap fun n => l.records.get? n.name

/-- Whether a node is not in the shape that its record says. -/
def hasChanged (l : Lifecycle) (t : Target) : Bool :=
  match l.records.get? t.name with
  | none => true
  | some o => o.isolate != t.isolate || t.daemonsetsDiffer o || t.deploymentsDiffer o

/-! ## Parts of a pass -/

/-- Moves to another phase. -/
def advance (next : Phase) : Pass Unit := do
  let l ← get
  match l.phase.transition next with
  | .ok phase => set { l with phase := phase }
  | .error e => throw e

def step {α : Type} (label node : String) (p : ExceptT IsolationError (Program Drain.Api) α) :
    Pass α := do
  let l ← get
  match ← (liftM (Effects.within l.timeout p.run) : Pass (Option (Except IsolationError α))) with
  | some (.ok a) => pure a
  | some (.error e) => throw (.nodeStep label node e)
  | none => throw (.nodeStepTimeout label node l.timeout)

def stepInTurn {α : Type} (label node : String) (p : Clustered α) : Pass α :=
  step label node (Drain.sequentially p)

/-- Writes the record of a node that has been brought into shape. -/
def record (t : Target) : Pass Unit :=
  modify fun l => { l with records := l.records.insert t.name t.observed }

/-- Removes the record of a node on which everything is undone. -/
def forget (t : Target) : Pass Unit :=
  modify fun l => { l with records := l.records.erase t.name }

/-- Takes the quarantine toleration from workloads. -/
def removeTolerations (node : String) (resources : List ResourceRef) : Pass Unit :=
  resources.forM fun r =>
    stepInTurn "remove tolerations for" node (Isolation.removeToleration r)

/-- Gives a node its debug pod if one is asked for, and closes the node and marks its pods, unless
it is isolated already. -/
def prepareNode (t : Target) : Pass Unit := do
  if t.debug.enabled then
    stepInTurn "deploy debug pod on" t.name (Isolation.deployDebug t)
  let isolated ← stepInTurn "check isolation of" t.name (Isolation.isIsolated t.name)
  if isolated then pure ()
  else
    stepInTurn "cordon" t.name (Isolation.disableScheduling t.name)
    stepInTurn "isolate workloads on" t.name (Isolation.isolate t t.isolate)

/-- Empties a node and then taints it if that is asked for; emptied first, so that nothing that
leaves comes back under the taint. -/
def startNode (t : Target) : Pass Unit := do
  step "deschedule pods from" t.name (Drain.deschedule t)
  if t.isolate then
    stepInTurn "taint" t.name (Isolation.taintNode t.name)
  record t

/-- Undoes everything that may have been done to a node. -/
def reverseNode (t : Target) : Pass Unit := do
  stepInTurn "untaint" t.name (Isolation.untaintNode t.name)
  removeTolerations t.name t.resources
  stepInTurn "remove debug pod from" t.name
    (Isolation.removeDebug t.debugPodName t.debug.namespaceName)
  stepInTurn "remove quarantined pods from" t.name (Isolation.removeIsolatedPods t.name)
  stepInTurn "uncordon" t.name (Isolation.enableScheduling t.name)
  forget t

/-- Undoes everything on the nodes that the request no longer names. -/
def reverseMarked : Pass Unit := do
  let l ← get
  l.marked.forM reverseNode

/-- The workloads of a record that a node no longer tracks. -/
def droppedResources (t : Target) (o : ObservedNode) : List ResourceRef :=
  o.resources.filter fun r => !(t.resources.any fun s => s.key = r.key)

/-- Brings one node into line with the request. -/
def convergeNode (t : Target) : Pass Unit := do
  let previous := (← get).records.get? t.name
  match previous with
  -- Before the node is recorded anew: nothing else remembers these workloads.
  | some o => removeTolerations t.name (droppedResources t o)
  | none => pure ()
  let isolated ← stepInTurn "check isolation of" t.name (Isolation.isIsolated t.name)
  if !isolated then
    prepareNode t
    startNode t
  else
    stepInTurn "isolate workloads on" t.name (Isolation.isolate t t.isolate)
    -- The record says that the node was tainted, and the request no longer asks for that.
    if !t.isolate && (previous.map (·.isolate)).getD false then
      stepInTurn "untaint" t.name (Isolation.untaintNode t.name)
      removeTolerations t.name t.resources
    record t

/-! ## Passes -/

/-- Reverses dropped nodes, then closes the nodes of the request and marks their pods. -/
def prepare : Pass Unit := do
  advance .preparing
  reverseMarked
  (← get).nodes.forM prepareNode

/-- Empties the nodes of the request and taints those to be isolated. -/
def start : Pass Unit := do
  advance .active
  (← get).nodes.forM startNode

/-- Reverses dropped nodes, then brings the first node that has changed into line. -/
def update : Pass Unit := do
  advance .updating
  reverseMarked
  let l ← get
  match l.nodes.find? l.hasChanged with
  | some t => convergeNode t
  | none => pure ()
  advance .active

/-- Undoes everything on all nodes, named or dropped, and deletes the marked pods that are left. -/
def stop : Pass Unit := do
  advance .stopped
  let l ← get
  (l.nodes ++ l.marked).forM reverseNode
  -- Marked pods may also be left on nodes that no record names.
  stepInTurn "clean up quarantined pods on" "*" Isolation.cleanupIsolatedPods

end Lifecycle

end Cordon
