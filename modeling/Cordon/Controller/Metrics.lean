import Cordon.Controller.Reconcile

/-! # Metrics

The controller counts its reconciles by result and keeps how long each took. `Metrics.lines` writes
both as a page of the text format in which metrics are collected: every metric with its help and
type, in the order of their names, and the samples of a counter in the order of their labels.
-/

namespace Cordon

/-- The reconciles seen so far: how many had each result, and how many nanoseconds each took. -/
structure Metrics where
  results : Dict Nat
  durations : List Nat
deriving DecidableEq

/-- The names of the metrics that a page is collected from. -/
abbrev Registry := List String

namespace Metrics

def blank : Metrics := ⟨.empty, []⟩

def counterName : String := "quarantine_reconciliations_total"

def histogramName : String := "quarantine_reconcile_duration_seconds"

/-- Adds the metrics to a registry, where each name may stand but once. -/
def register (registry : Registry) : Except ControllerError (Metrics × Registry) :=
  if registry.contains counterName || registry.contains histogramName then
    .error .metricsRegistration
  else .ok (blank, registry ++ [counterName, histogramName])

def count (m : Metrics) (result : String) : Nat := (m.results.get? result).getD 0

def observe (m : Metrics) (result : String) (nanoseconds : Nat) : Metrics :=
  ⟨m.results.insert result (m.count result + 1), m.durations ++ [nanoseconds]⟩

def total (m : Metrics) : Nat := m.durations.length

/-- The number of reconciles that took no longer than a limit. -/
def within (m : Metrics) (nanoseconds : Nat) : Nat := m.durations.countP (· ≤ nanoseconds)

def resultLabel {α : Type} : Except ControllerError α → String
  | .ok _ => "success"
  | .error _ => "error"

def record {α : Type} (m : Metrics) (result : Except ControllerError α) (nanoseconds : Nat) :
    Metrics :=
  m.observe (resultLabel result) nanoseconds

/-! ## The page -/

/-- The limits of the histogram in nanoseconds, and how they are written in seconds. -/
def limits : List (Nat × String) :=
  [(100000000, "0.1"), (500000000, "0.5"), (1000000000, "1"), (5000000000, "5"),
   (15000000000, "15"), (60000000000, "60"), (300000000000, "300")]

def escapeChar (c : Char) : List Char :=
  if c = '\\' then ['\\', '\\']
  else if c = '"' then ['\\', '"']
  else if c = '\n' then ['\\', 'n']
  else [c]

def sample (name label value : String) (count : Nat) : String :=
  name ++ "\x7b" ++ label ++ "=\"" ++ .ofList (value.toList.flatMap escapeChar) ++ "\"\x7d " ++
    toString count

/-- Nine digits of a fraction without the zeros at their end. -/
def fractionDigits (nanoseconds : Nat) : List Char :=
  let digits := Nat.toDigits 10 nanoseconds
  ((List.replicate (9 - digits.length) '0' ++ digits).reverse.dropWhile (· == '0')).reverse

def secondsText (nanoseconds : Nat) : String :=
  let whole := toString (nanoseconds / 1000000000)
  match fractionDigits (nanoseconds % 1000000000) with
  | [] => whole
  | digits => whole ++ "." ++ .ofList digits

def header (name help type : String) : List String :=
  ["# HELP " ++ name ++ " " ++ help, "# TYPE " ++ name ++ " " ++ type]

def histogramLines (m : Metrics) : List String :=
  header histogramName "Time taken to reconcile a Quarantine object" "histogram" ++
    limits.map (fun l => sample (histogramName ++ "_bucket") "le" l.2 (m.within l.1)) ++
    [sample (histogramName ++ "_bucket") "le" "+Inf" m.total,
     histogramName ++ "_sum " ++ secondsText (m.durations.foldl (· + ·) 0),
     histogramName ++ "_count " ++ toString m.total]

/-- The lines of the counter; none before anything is counted. -/
def counterLines (m : Metrics) : List String :=
  if m.results.isEmpty then []
  else
    header counterName "Reconciliations of Quarantine objects, by result" "counter" ++
      m.results.entries.map fun e => sample counterName "result" e.1 e.2

def lines (m : Metrics) : List String := m.histogramLines ++ m.counterLines

def page (m : Metrics) : String := String.join (m.lines.map (· ++ "\n"))

def contentType : String := "text/plain; version=0.0.4"

end Metrics

end Cordon
