import FleetHealth.CommandLine.Level
import FleetHealth.Controller.Reaction
import FleetHealth.Net.SocketAddress

namespace FleetHealth.Operator

open CommandLine

inductive LogFormat where
  | text
  | json
  deriving DecidableEq

structure Settings where
  /-- The namespace to watch; without one all of them are watched. -/
  ns : Option String
  listenAddress : SocketAddress
  logFormat : LogFormat
  delays : RetryDelays

namespace Settings

def anyAddress : SocketAddress := { ip := .v4 #v[0, 0, 0, 0], port := 8080 }

def standard : Settings where
  ns := none
  listenAddress := anyAddress
  logFormat := .text
  delays := .standard

def readNamespace (v : String) : Except Halt (Settings → Settings) :=
  return fun s => { s with ns := some v }

def readAddress (v : String) : Except Halt (Settings → Settings) :=
  match SocketAddress.parse? v with
  | some a => return fun s => { s with listenAddress := a }
  | none => .error .malformedValue

def readLogFormat : String → Except Halt (Settings → Settings)
  | "text" => return fun s => { s with logFormat := .text }
  | "json" => return fun s => { s with logFormat := .json }
  | _ => .error .invalidValue

def readDelay (change : Duration → RetryDelays → RetryDelays) (v : String) :
    Except Halt (Settings → Settings) :=
  match Text.natBelow? Text.wordLimit v.toList with
  | some n => return fun s => { s with delays := change (.ofSeconds n) s.delays }
  | none => .error .malformedValue

def level : Level Settings where
  options := [
    { long := "namespace", short := none, variableName := some "WATCH_NAMESPACE"
      effect := .value readNamespace },
    { long := "listen-addr", short := none, variableName := some "LISTEN_ADDR"
      effect := .value readAddress },
    { long := "log-format", short := none, variableName := some "LOG_FORMAT"
      effect := .value readLogFormat },
    { long := "retry-interval-secs", short := none, variableName := some "RETRY_INTERVAL_SECS"
      effect := .value (readDelay fun d delays => { delays with retry := d }) },
    { long := "error-interval-secs", short := none, variableName := some "ERROR_INTERVAL_SECS"
      effect := .value (readDelay fun d delays => { delays with error := d }) },
    helpOption, versionOption]
  commands := []
  positionals := 0

def ofArguments (environment : String → Option String) (args : List String) :
    Except Halt Settings := do
  let (p, _) ← level.scan .start args
  return (← level.finish environment p).change standard

end Settings

end FleetHealth.Operator
