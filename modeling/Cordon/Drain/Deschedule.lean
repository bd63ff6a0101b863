import Cordon.Drain.Evictor
import Cordon.Isolation.Engine

/-! # Emptying a node

`deschedule` removes the pods of a node that the plan does not leave there, at most five at a time:
as soon as one removal ends the next one starts, and all of them end before the outcome is settled.
Which of the removals under way ends first is not ours to say, so it is part of the answer.

Every planned pod takes a place among the five, also one whose removal is refused without a call.
-/

namespace Cordon.Drain

open Kube (Pod)

/-- The largest number of removals under way. -/
def maxConcurrent : Nat := 5

/-- A removal as a call. -/
inductive Removal where
  | evict (pod : Pod)
  | delete (namespaceName name : String)
deriving DecidableEq

/-- The call of a removal. -/
def Removal.call : Removal → ClusterCall
  | evict pod => .evictPod pod false
  | delete ns name => .deletePod ns name

/-- What is asked while a node is emptied: a call that is waited for, the start of a removal (or of
a refusal, which takes a place without a call), or the end of one of the removals under way. -/
inductive Request where
  | call (c : ClusterCall)
  | launch (removal : Option Removal)
  /-- Waits while one more removal than this number is under way. -/
  | await (others : Nat)
deriving DecidableEq

/-- The end of a removal: which of those under way it is, in the order of their starts, and whether
the pod was granted to go. -/
abbrev Request.Answer : Request → Type
  | call c => Except IsolationError c.Reply
  | launch _ => Unit
  | await others => Fin (others + 1) × Except IsolationError Bool

/-- The cluster with removals that run side by side. -/
abbrev Api : Interface := ⟨Request, Request.Answer⟩

/-- Calls one after the other, among removals that run side by side. -/
def sequentially {α : Type} (p : Clustered α) : ExceptT IsolationError (Program Api) α :=
  ExceptT.mk (Program.interpret (fun c => Program.query (I := Api) (.call c)) p.run)

/-- A pod that is to go, and how. -/
structure Task where
  pod : Pod
  action : Action
deriving DecidableEq

/-- A task under way: refused without a call, or waiting for the cluster. -/
structure Running where
  task : Task
  refusal : Option IsolationError
  /-- Whether a place of the budget is taken. -/
  reserved : Bool
deriving DecidableEq

/-- How a task starts: the call to make, if any, and what to remember of it. -/
def Task.start (t : Task) (e : Evictor) : Option Removal × Running × Evictor :=
  match t.action with
  | .skip _ => (none, ⟨t, none, false⟩, e)
  | .refuse reason => (none, ⟨t, some (.undrainablePod t.pod.name reason), false⟩, e)
  | .evict =>
    match e.start t.pod with
    | some e => (some (.evict t.pod), ⟨t, none, true⟩, e)
    | none => (none, ⟨t, some (.evictionRefused t.pod.name), false⟩, e)
  | .delete =>
    (some (.delete t.pod.metadata.anyNamespace t.pod.name), ⟨t, none, false⟩, e)

/-- What a task ends with. A pod that has gone by itself needs no removal. -/
def Running.outcome (r : Running) (answer : Except IsolationError Bool) :
    Except IsolationError Unit :=
  let result : Except IsolationError Unit :=
    match r.refusal, r.task.action, answer with
    | some e, _, _ => .error e
    | none, .evict, .ok false => .error (.evictionRefused r.task.pod.name)
    | none, _, .ok _ => .ok ()
    | none, .skip _, .error _ => .ok ()
    | none, _, .error e => .error e
  match result with
  | .error e => if e.isNotFound then .ok () else .error e
  | .ok _ => .ok ()

/-- Gives the place of a task back, unless its pod was evicted. -/
def Running.settle (r : Running) (answer : Except IsolationError Bool) (e : Evictor) : Evictor :=
  if r.reserved then e.settle (answer matches .ok true) else e

/-- Starts tasks until five are under way or none is left; the numbers bound how many. -/
def fill : Nat → List Task → List Running → Evictor →
    Program Api (List Task × List Running × Evictor)
  | 0, waiting, running, e => pure (waiting, running, e)
  | _ + 1, [], running, e => pure ([], running, e)
  | places + 1, t :: waiting, running, e =>
    let (removal, r, e) := t.start e
    Program.ask (I := Api) (.launch removal) fun _ => fill places waiting (running ++ [r]) e

/-- Runs the tasks that are left and those under way to their end; the errors in the order in which
the tasks ended. The number is that of all these tasks. -/
def runTasks (node : String) : Nat → List Task → List Running → Evictor →
    Program Api (List IsolationError)
  | 0, _, _, _ => pure []
  | n + 1, waiting, running, e => do
    let (waiting, running, e) ← fill (maxConcurrent - running.length) waiting running e
    match running with
    | [] => pure []
    | first :: others =>
      Program.ask (I := Api) (.await others.length) fun (which, answer) => do
        -- Its place is free from here on: the next round starts another task before it waits.
        let ended := (first :: others).get ⟨which.val, which.isLt⟩
        let rest := (first :: others).eraseIdx which.val
        let errors ← runTasks node n waiting rest (ended.settle answer e)
        match ended.outcome answer with
        | .ok _ => pure errors
        | .error err => pure (.deschedulePod node ended.task.pod.name err :: errors)

/-- What is to be done with the pods of a node, those that stay left out. -/
def tasks (flags : ResolvedFlags) (kept : List Workload) (pods : List Pod) : List Task :=
  pods.filterMap fun p =>
    match plan p flags kept with
    | .skip _ => none
    | action => some ⟨p, action⟩

/-- Looks the kept workloads of a node up; one that is absent protects nothing. -/
def keptWorkloads : List ResourceRef → Clustered (List Workload)
  | [] => pure []
  | r :: rest => do
    let found ← Isolation.ifPresent (call (.getWorkload r.key))
    let others ← keptWorkloads rest
    pure (found.toList ++ others)

/-- Removes the pods of a node that may not stay there. The first error to come up is the outcome,
unless errors are to be ignored. -/
def deschedule (t : Target) : ExceptT IsolationError (Program Api) Unit := do
  let kept ← sequentially (keptWorkloads t.kept)
  let pods ← sequentially (call (.listPods (.onNode t.name)))
  let work := tasks t.flags kept pods
  -- A place for every task, so that the budget itself turns none of them away.
  let evictor := Evictor.new ⟨.drain, work.length, false⟩
  let errors ← ExceptT.lift (runTasks t.name work.length work [] evictor)
  match errors with
  | [] => pure ()
  | e :: _ => if t.flags.ignoreErrors then pure () else throw e

end Cordon.Drain
