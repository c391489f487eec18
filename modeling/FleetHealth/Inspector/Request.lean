import FleetHealth.CommandLine.Level

namespace FleetHealth.Inspector

open CommandLine

inductive Command where
  | list (allNamespaces : Bool)
  | targets (policy : String)
  deriving DecidableEq

structure Choices where
  ns : Option String
  output : String
  allNamespaces : Bool
  deriving DecidableEq

structure Request where
  command : Command
  ns : Option String
  output : String
  deriving DecidableEq

namespace Request

def standard : Choices := { ns := none, output := "table", allNamespaces := false }

def commonOptions : List (CommandOption Choices) := [
  { long := "namespace", short := some 'n', variableName := none
    effect := .value fun v => return fun c => { c with ns := some v } },
  { long := "output", short := some 'o', variableName := none
    effect := .value fun v => return fun c => { c with output := v } },
  helpOption]

def allOption : CommandOption Choices where
  long := "all-namespaces"
  short := some 'A'
  variableName := none
  effect := .flag fun c => { c with allNamespaces := true }

def rootLevel : Level Choices where
  options := versionOption :: commonOptions
  commands := ["list", "targets", "help"]
  positionals := 0

def listLevel : Level Choices where
  options := allOption :: commonOptions
  commands := []
  positionals := 0

def targetsLevel : Level Choices where
  options := commonOptions
  commands := []
  positionals := 1

def help : List String → Halt
  | [] => .help
  | [w] => if rootLevel.commands.contains w then .help else .unknownCommand
  | _ => .unknownCommand

def noEnvironment (_ : String) : Option String := none

def last (l : Level Choices) (ws : List String) : Except Halt (Progress Choices) := do
  let (p, _) ← l.scan .start ws
  l.finish noEnvironment p

def ofCommand (command : String) (ws : List String) :
    Except Halt ((Choices → Choices) × (Choices → Command)) :=
  match command with
  | "list" => do
    let p ← last listLevel ws
    return (p.change, fun c => .list c.allNamespaces)
  | "targets" => do
    let p ← last targetsLevel ws
    match p.positionals with
    | [policy] => return (p.change, fun _ => .targets policy)
    | _ => .error .missingPositional
  | _ => .error (help ws)

def withoutCommand (p : Progress Choices) : Halt :=
  if p.given.isEmpty then .helpOnNothing else .missingCommand

/-- The request of a command line. What is wrong behind a command is found before what is wrong with
the last option in front of it. -/
def ofArguments (args : List String) : Except Halt Request := do
  match ← rootLevel.scan .start args with
  | (p, none) => .error (withoutCommand (← p.settle))
  | (p, some (word, ws)) =>
    let (change, command) ← ofCommand word ws
    let choices := change ((← p.settle).change standard)
    return { command := command choices, ns := choices.ns, output := choices.output }

end Request

end FleetHealth.Inspector
