import Cordon.Cluster.Entry
import Cordon.Lifecycle.Effects
import Cordon.Quarantine.Shelf

/-! # A cluster with faults

A `World` is a cluster and a store that may be made to fail or to be slow, with a clock that only
waiting moves. Every call is written down when it starts, meets at most one fault, and takes effect
when it ends. A call that would end after the limit of its step is given up: the clock stands at the
limit and the call has no effect.
-/

namespace Cordon

/-! ## Faults -/

/-- How a call is made to fail. -/
inductive FaultKind where
  | failure (f : Kube.Failure)
  /-- An eviction that is not granted. -/
  | refused
  /-- A workload that has no pod template. -/
  | noTemplate
deriving DecidableEq

/-- A fault: which calls it meets, how many of them it lets pass first, how often it strikes, and
how long the call takes and how it fails. -/
structure Fault where
  call : String
  target : Option String
  skip : Nat
  times : Option Nat
  delay : Nat
  error : Option FaultKind
deriving DecidableEq

namespace Fault

/-- Whether a fault can meet a call. -/
def meets (f : Fault) (e : Entry) : Bool :=
  f.call == e.name && (f.target.isNone || f.target == some e.target)

/-- The first fault that a call meets, and the faults after that. -/
def take (e : Entry) : List Fault → Option Fault × List Fault
  | [] => (none, [])
  | f :: rest =>
    if f.meets e then
      -- A fault that lets this call pass, or that is spent, leaves it to those behind.
      if 0 < f.skip then
        let (found, rest) := take e rest
        (found, { f with skip := f.skip - 1 } :: rest)
      else if f.times = some 0 then
        let (found, rest) := take e rest
        (found, f :: rest)
      else (some f, { f with times := f.times.map (· - 1) } :: rest)
    else
      let (found, rest) := take e rest
      (found, f :: rest)

end Fault

/-! ## The world -/

/-- A call under way: when it ends, and how it is made to fail. -/
structure Ticket where
  finish : Nat
  error : Option FaultKind
deriving DecidableEq

/-- A removal under way; one without a call only takes a place. -/
structure Flight where
  removal : Option Drain.Removal
  ticket : Ticket
deriving DecidableEq

/-- A cluster and a store with faults and a clock. -/
structure World where
  cluster : ClusterState
  shelf : Shelf
  faults : List Fault
  clock : Nat
  deadline : Option Nat
  /-- What the clock says when it is asked for the time. -/
  stamp : String
  flights : List Flight
  log : List Entry
deriving DecidableEq

namespace World

/-- A world without faults. -/
def new (cluster : ClusterState) (shelf : Shelf) (faults : List Fault) : World :=
  ⟨cluster, shelf, faults, 0, none, "", [], []⟩

/-- Writes a call down and lets it meet a fault. -/
def start (w : World) (e : Entry) : Ticket × World :=
  let (fault, faults) := Fault.take e w.faults
  let delay := (fault.map (·.delay)).getD 0
  (⟨w.clock + delay, fault.bind (·.error)⟩, { w with faults, log := w.log ++ [e] })

/-- Whether a call ends too late. -/
def isLate (w : World) (t : Ticket) : Bool :=
  match w.deadline with
  | some d => d < t.finish
  | none => false

/-- Gives up what is under way when the time is up. -/
def giveUp (w : World) : World := { w with clock := w.deadline.getD w.clock, flights := [] }

/-- What a call answers when it is made to fail. -/
def faulty (c : ClusterCall) : FaultKind → Except IsolationError c.Reply
  | .failure f => .error (c.error f)
  | .refused =>
    match c with
    | .evictPod _ _ => .ok false
    | c => .error (c.error (.transport "refused"))
  | .noTemplate =>
    match c with
    | .getWorkload key => .error (.missingPodTemplate key)
    | c => .error (c.error (.transport "no template"))

/-- Ends a call: it fails or takes effect. -/
def finish (w : World) (c : ClusterCall) (t : Ticket) : Except IsolationError c.Reply × World :=
  let w := { w with clock := t.finish }
  match t.error with
  | some e => (faulty c e, w)
  | none =>
    let (answer, cluster) := w.cluster.perform c
    (answer, { w with cluster })

def answerCall (c : ClusterCall) (w : World) : Except IsolationError c.Reply × World :=
  let (t, w) := w.start (.cluster c)
  w.finish c t

/-! ## Removals side by side -/

/-- Puts a removal under way. -/
def launch (removal : Option Drain.Removal) (w : World) : World :=
  match removal with
  | none => { w with flights := w.flights ++ [⟨none, ⟨w.clock, none⟩⟩] }
  | some r =>
    let (t, w) := w.start (.cluster r.call)
    { w with flights := w.flights ++ [⟨some r, t⟩] }

/-- The place of the removal that ends first; of two that end together the one that started first.
-/
def earliest : List Flight → Nat × Option Flight
  | [] => (0, none)
  | f :: rest =>
    match earliest rest with
    | (i, some g) => if g.ticket.finish < f.ticket.finish then (i + 1, some g) else (0, some f)
    | (_, none) => (0, some f)

/-- Ends a removal. -/
def land (f : Flight) (w : World) : Except IsolationError Bool × World :=
  match f.removal with
  | none => (.ok true, w)
  | some (.evict p) => w.finish (.evictPod p false) f.ticket
  | some (.delete ns name) =>
    let (answer, w) := w.finish (.deletePod ns name) f.ticket
    (answer.map fun _ => true, w)

/-- A place among removals under way. -/
def place (others i : Nat) : Fin (others + 1) := ⟨min i others, by omega⟩

/-- Ends the removal that is due first. -/
def landFirst (others : Nat) (w : World) :
    (Fin (others + 1) × Except IsolationError Bool) × World :=
  match earliest w.flights with
  | (i, some f) =>
    let (answer, w) := land f { w with flights := w.flights.eraseIdx i }
    ((place others i, answer), w)
  | (_, none) => ((place others 0, .ok true), w)

def answerDrain : (r : Drain.Request) → World → r.Answer × World
  | .call c, w => w.answerCall c
  | .launch removal, w => ((), w.launch removal)
  | .await others, w => w.landFirst others

/-! ## Passes -/

def answerStore (c : StoreCall) (w : World) : Except StoreError c.Reply × World :=
  let (t, w) := w.start (.store c)
  let w := { w with clock := t.finish }
  match t.error with
  | some (.failure f) => (.error (c.error f), w)
  | some _ => (.error (c.error (.transport "refused")), w)
  | none =>
    let (answer, shelf) := w.shelf.perform c
    (answer, { w with shelf })

/-- Answers what a step asks of the cluster; nothing if the time is up. -/
def answerInTime : (r : Drain.Request) → World → Option r.Answer × World
  | .call c, w =>
    let (t, w) := w.start (.cluster c)
    if w.isLate t then (none, w.giveUp)
    else
      let (answer, w) := w.finish c t
      (some answer, w)
  -- A start takes no time; the limit is looked at when something ends.
  | .launch removal, w => (some (), w.launch removal)
  | .await others, w =>
    match earliest w.flights with
    | (_, some f) =>
      if w.isLate f.ticket then (none, w.giveUp)
      else
        let (answer, w) := w.landFirst others
        (some answer, w)
    | (_, none) =>
      let (answer, w) := w.landFirst others
      (some answer, w)

def answerEffect : (r : Effects.Request) → World → r.Answer × World
  | .cluster r, w => w.answerInTime r
  | .store c, w => w.answerStore c
  | .arm limit, w => ((), { w with deadline := some (w.clock + limit), flights := [] })
  | .disarm, w => ((), { w with deadline := none, flights := [] })
  | .now, w => (w.stamp, w)

def runCalls {α : Type} (p : Program ClusterApi α) (w : World) : α × World :=
  p.run (fun c w => w.answerCall c) w

def runDrain {α : Type} (p : Program Drain.Api α) (w : World) : α × World :=
  p.run (fun r w => w.answerDrain r) w

def runEffects {α : Type} (p : Program Effects α) (w : World) : α × World :=
  p.run (fun r w => w.answerEffect r) w

end World

end Cordon
