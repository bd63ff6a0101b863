import Cordon.CommandLine
import Cordon.Controller.Reschedule
import Cordon.Installation.Basic
import Cordon.Json.Block
import Cordon.Remote.Cluster

/-! # The program

The program carries out a command line. Requests to the cluster's API are written to standard
output, one JSON line each, and their replies are read from standard input in the same way, so that
whatever stands at the other end decides how the cluster is reached.
-/

namespace Cordon.Main

open Cordon.Http (Request Reply)

def requestLine (r : Request) : String :=
  (Json.objectOf
    [("method", some (.str r.method.text)), ("path", some (.str r.target.path)),
     ("query", r.target.query.map .str), ("contentType", r.contentType.map .str),
     ("body", r.body)]).compress

/-- The reply in a line: a status and a body, or else a text that says why there is none. -/
def replyOf (line : String) : Except String Reply :=
  match Json.read line with
  | .error e => .error e
  | .ok j =>
    match (j.get? "status").bind Json.asInt?, (j.get? "body").bind Json.asText? with
    | some status, some body => .ok ⟨status.toNat, body⟩
    | _, _ => .error (((j.get? "error").bind Json.asText?).getD "no reply")

def send (r : Request) : IO (Except String Reply) := do
  let output ← IO.getStdout
  output.putStrLn (requestLine r)
  output.flush
  pure (replyOf (← (← IO.getStdin).getLine))

def perform {α : Type} : Program Http.Api α → IO α
  | .done a => pure a
  | .ask r resume => do perform (resume (← send r))

def fail (message : String) : IO UInt32 := do
  IO.eprintln message
  pure 1

def execute : Command → IO UInt32
  | .showDefinition => do
    IO.print Installation.definition.blockText
    pure 0
  | .install image pullSecret => do
    match ← perform (Installation.install image pullSecret).run with
    | .ok _ => pure 0
    | .error e => fail e.message
  | .uninstall => do
    match ← perform Installation.uninstall.run with
    | .ok _ => pure 0
    | .error e => fail e.message
  | .reschedule excluded namespaceName => do
    let move := (Controller.reschedule namespaceName excluded).run
    match ← perform (Remote.overHttp "default" move) with
    | .ok _ => pure 0
    | .error e => fail ("Failed to reschedule the controller: " ++ e.message)

end Cordon.Main

def main (arguments : List String) : IO UInt32 :=
  match Cordon.CommandLine.parse arguments with
  | .ok command => Cordon.Main.execute command
  | .error e =>
    if e.isAnswer then do
      IO.println e.message
      pure 0
    else Cordon.Main.fail e.message
