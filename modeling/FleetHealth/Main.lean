import FleetHealth.Api.Client
import FleetHealth.Inspector.Run
import FleetHealth.Operator.Run
/-!
The command line. The first word names the program that is meant, the operator or the inspector;
without one of these names it is the inspector. There is no network here, so neither of them gets
further than to its first request.
-/

open FleetHealth

def finish (e : CommandLine.Exit) : IO UInt32 := do
  (← IO.getStdout).putStr e.output
  (← IO.getStderr).putStr e.errors
  return UInt32.ofNat e.code

def runOperator (args : List String) : IO UInt32 := do
  let environment ← Operator.Settings.level.options.filterMapM fun o => do
    let value ← IO.getEnv (o.variableName.getD "")
    return o.variableName.bind fun name => value.map fun v => (name, v)
  let store : Store Id := Api.store Api.unreachable
  match Operator.start store (fun name => environment.lookup name) args with
  | .ok _ => return 0
  | .error exit => finish exit

/-- A run of the inspector. The time of day does not matter to requests that do not succeed. -/
def runInspector (args : List String) : IO UInt32 :=
  let store : Store Id := Api.store Api.unreachable
  finish (Inspector.run store .epoch args)

def main : List String → IO UInt32
  | word :: args =>
    if word = Operator.name then runOperator args
    else if word = Inspector.name then runInspector args
    else runInspector (word :: args)
  | [] => runInspector []
