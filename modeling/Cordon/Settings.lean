import Cordon.Controller.Error

/-! # Settings from the environment

The controller, the admission server and the log take their settings from environment variables. A
variable that is not set leaves a default; one that is set and makes no sense is an error.
-/

namespace Cordon

/-- The value of each variable that is set. -/
abbrev Environment := String → Option String

namespace Settings

/-- The number below `bound` that a variable holds, or the default where it is not set. -/
def number {ε : Type} (env : Environment) (name : String) (bound default : Nat)
    (error : String → Text.NumeralError → ε) : Except ε Nat :=
  match env name with
  | none => .ok default
  | some value =>
    match Text.unsigned bound value with
    | .ok n => .ok n
    | .error e => .error (error value e)

end Settings

/-! ## The controller -/

/-- How the controller runs. -/
structure ControllerSettings where
  namespaceName : String
  metricsPort : Nat
  /-- Seconds between two visits of a quarantine in place. -/
  resyncSeconds : Nat
  /-- Seconds that a step on a node may take. -/
  nodeTimeoutSeconds : Nat
  /-- The address that is listened on, of the family of the cluster's own address. -/
  bindAddress : String
deriving DecidableEq

namespace ControllerSettings

/-- The address to listen on, where the cluster is reached at an address. -/
def bindAddressFor (clusterAddress : String) : String :=
  if clusterAddress.toList.contains ':' then "[::]" else "0.0.0.0"

def number (env : Environment) (name : String) (bound default : Nat) :
    Except ControllerError Nat :=
  Settings.number env name bound default (.invalidSetting name)

def ofEnvironment (defaultNamespace : String) (env : Environment) :
    Except ControllerError ControllerSettings := do
  let metricsPort ← number env "METRICS_PORT" Text.word16 Convention.metricsPort
  match env "KUBERNETES_SERVICE_HOST" with
  | none => throw (.missingSetting "KUBERNETES_SERVICE_HOST")
  | some host =>
    let resyncSeconds ← number env "QUARANTINE_RESYNC_INTERVAL_SECS" Text.word64 300
    let nodeTimeoutSeconds ← number env "QUARANTINE_NODE_TIMEOUT_SECS" Text.word64 300
    pure
      { namespaceName := (env "POD_NAMESPACE").getD defaultNamespace
        metricsPort, resyncSeconds, nodeTimeoutSeconds
        bindAddress := bindAddressFor host }

end ControllerSettings

/-! ## The admission server -/

/-- A port that is no port. -/
structure InvalidPort where
  value : String
  source : Text.NumeralError
deriving DecidableEq

def InvalidPort.message (e : InvalidPort) : String :=
  "Invalid value '" ++ e.value ++ "' for APISERVER_PORT: '" ++ e.source.message ++ "'"

/-- How the admission server runs. -/
structure AdmissionSettings where
  port : Nat
  certificatePath : String
  keyPath : String
  /-- Where the controller is looked for. -/
  controllerNamespace : String
deriving DecidableEq

def AdmissionSettings.ofEnvironment (env : Environment) :
    Except InvalidPort AdmissionSettings := do
  let port ← Settings.number env "APISERVER_PORT" Text.word16 8443 InvalidPort.mk
  pure
    { port
      certificatePath := (env "TLS_CERT_PATH").getD "/etc/node-quarantine-tls/tls.crt"
      keyPath := (env "TLS_KEY_PATH").getD "/etc/node-quarantine-tls/tls.key"
      controllerNamespace := (env "POD_NAMESPACE").getD Convention.controllerNamespace }

/-! ## The log -/

/-- How an event is written to the log. -/
inductive LogFormat where
  | full
  | compact
  | pretty
  | json
deriving DecidableEq

/-- How the log is written. -/
structure LogSettings where
  format : LogFormat
  /-- Whether the log is coloured. -/
  coloured : Bool
deriving DecidableEq

/-- A setting of the log that makes no sense. -/
inductive LogError where
  | unknownFormat (value : String)
  | notABoolean (value : String)
deriving DecidableEq

namespace LogSettings

def formats : List (String × LogFormat) :=
  [("full", .full), ("compact", .compact), ("pretty", .pretty), ("json", .json)]

end LogSettings

def LogError.message : LogError → String
  | .unknownFormat value =>
    "Could not parse formatter from environment variable 'LOGGING_FORMATTER=" ++ value ++ "': '" ++
      (Json.Mismatch.unknownVariant value (LogSettings.formats.map (·.1))).message ++ "'"
  | .notABoolean value =>
    "Could not parse ANSI enablement from environment variable 'LOGGING_ANSI_ENABLED=" ++ value ++
      "': 'provided string was not " ++ Json.ticked "true" ++ " or " ++ Json.ticked "false" ++ "'"

namespace LogSettings

def formatOf : Option String → Except LogError LogFormat
  | none => .ok .json
  | some name =>
    match formats.lookup name with
    | some format => .ok format
    | none => .error (.unknownFormat name)

/-- Reads whether the log is coloured, in letters of either case. No letter beyond ASCII has one of
these letters for its small form, so that ASCII letters suffice. -/
def colouredOf : Option String → Except LogError Bool
  | none => .ok false
  | some value =>
    match value.map Char.toLower with
    | "true" => .ok true
    | "false" => .ok false
    | _ => .error (.notABoolean value)

def ofEnvironment (env : Environment) : Except LogError LogSettings := do
  let format ← formatOf (env "LOGGING_FORMATTER")
  let coloured ← colouredOf (env "LOGGING_ANSI_ENABLED")
  pure ⟨format, coloured⟩

end LogSettings

end Cordon
