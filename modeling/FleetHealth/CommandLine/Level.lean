import FleetHealth.Text.Split
/-!
Command lines: options with long and short names, values attached to them or in the next word, and
words of other sorts. Options read into a change of the settings that they stand for. What follows
the name of a command belongs to a level of its own.
-/

namespace FleetHealth.CommandLine

open Text

inductive Halt where
  | help
  /-- Nothing was given where a command is needed. -/
  | helpOnNothing
  | version
  | unknownArgument
  /-- A value is missing, or is none of those that an option can have. -/
  | invalidValue
  /-- A value has not the form that an option needs. -/
  | malformedValue
  | repeatedOption
  | unwantedValue
  | missingPositional
  | unknownCommand
  | missingCommand
  deriving DecidableEq

inductive Effect (σ : Type) where
  | value (read : String → Except Halt (σ → σ))
  | flag (change : σ → σ)
  | halt (h : Halt)

structure CommandOption (σ : Type) where
  long : String
  short : Option Char
  /-- The environment variable that holds the value of an option that is not given. -/
  variableName : Option String
  effect : Effect σ

structure Level (σ : Type) where
  options : List (CommandOption σ)
  commands : List String
  /-- How many other words there may be. -/
  positionals : Nat

/-- An option whose value may still have to come. -/
structure Pending (σ : Type) where
  option : String
  read : String → Except Halt (σ → σ)
  value : Option String

structure Progress (σ : Type) where
  given : List String
  change : σ → σ
  pending : Option (Pending σ)
  /-- Whether two hyphens came, after which there are no more options. -/
  onlyPositionals : Bool
  positionals : List String

namespace Progress

variable {σ : Type}

def start : Progress σ where
  given := []
  change := id
  pending := none
  onlyPositionals := false
  positionals := []

/-- Whether the next word is the value of an option, unless it looks like an option itself. -/
def isAwaiting (p : Progress σ) : Bool := p.pending.any (·.value.isNone)

/-- Takes in an option, which can be given once. -/
def give (p : Progress σ) (option : String) (change : Except Halt (σ → σ)) :
    Except Halt (Progress σ) :=
  if p.given.contains option then .error .repeatedOption
  else do
    let f ← change
    return { p with given := option :: p.given, change := f ∘ p.change }

def settle (p : Progress σ) : Except Halt (Progress σ) :=
  match p.pending with
  | none => .ok p
  | some { value := none, .. } => .error .invalidValue
  | some { option, read, value := some v } => { p with pending := none }.give option (read v)

def attach (p : Progress σ) (option : String) (read : String → Except Halt (σ → σ)) (v : String) :
    Except Halt (Progress σ) := do
  (← p.settle).give option (read v)

def await (p : Progress σ) (option : String) (read : String → Except Halt (σ → σ)) :
    Except Halt (Progress σ) := do
  return { ← p.settle with pending := some { option, read, value := none } }

def flag (p : Progress σ) (option : String) (change : σ → σ) : Except Halt (Progress σ) := do
  (← p.settle).give option (.ok change)

def halt (p : Progress σ) (h : Halt) : Except Halt (Progress σ) := do
  let _ ← p.settle
  .error h

def supply (p : Progress σ) (v : String) : Progress σ :=
  { p with pending := p.pending.map ({ · with value := some v }) }

end Progress

namespace Level

variable {σ : Type}

def long (l : Level σ) (p : Progress σ) (body : List Char) : Except Halt (Progress σ) :=
  let (name, value) := match splitFirst? '=' body with
    | some (name, value) => (name, some (String.ofList value))
    | none => (body, none)
  match l.options.find? (·.long == String.ofList name) with
  | none => .error .unknownArgument
  | some o => match o.effect, value with
    | .value read, some v => p.attach o.long read v
    | .value read, none => p.await o.long read
    | .flag change, none => p.flag o.long change
    | .halt h, none => p.halt h
    | _, some _ => .error .unwantedValue

/-- Short options after their hyphen. One that has a value takes all that follows. -/
def shorts (l : Level σ) : Progress σ → List Char → Except Halt (Progress σ)
  | p, [] => .ok p
  | p, c :: cs => match l.options.find? (·.short == some c) with
    | none => .error .unknownArgument
    | some o => match o.effect with
      | .value read => match cs with
        | [] => p.await o.long read
        | '=' :: v => p.attach o.long read (String.ofList v)
        | v => p.attach o.long read (String.ofList v)
      | .flag change => do l.shorts (← p.flag o.long change) cs
      | .halt h => p.halt h

def positional (l : Level σ) (p : Progress σ) (word : String) : Except Halt (Progress σ) :=
  if p.positionals.length < l.positionals then do
    let p ← p.settle
    return { p with positionals := p.positionals ++ [word] }
  else if l.commands.isEmpty || (p.onlyPositionals && l.commands.contains word) then
    .error .unknownArgument
  else .error .unknownCommand

def word (l : Level σ) (p : Progress σ) (w : String) : Except Halt (Progress σ) :=
  if p.onlyPositionals then l.positional p w
  else match w.toList with
    | ['-', '-'] => .ok { p with onlyPositionals := true }
    | '-' :: '-' :: body => l.long p body
    | '-' :: c :: cs => l.shorts p (c :: cs)
    | _ => if p.isAwaiting then .ok (p.supply w) else l.positional p w

def isCommand (l : Level σ) (p : Progress σ) (w : String) : Bool :=
  !p.onlyPositionals && !p.isAwaiting && l.commands.contains w

def scan (l : Level σ) (p : Progress σ) :
    List String → Except Halt (Progress σ × Option (String × List String))
  | [] => .ok (p, none)
  | w :: ws =>
    if l.isCommand p w then .ok (p, some (w, ws))
    else do l.scan (← l.word p w) ws

def fromEnvironment (environment : String → Option String) (p : Progress σ) (o : CommandOption σ) :
    Except Halt (Progress σ) :=
  match o.effect, o.variableName.bind environment with
  | .value read, some v => if p.given.contains o.long then .ok p else p.give o.long (read v)
  | _, _ => .ok p

def finish (l : Level σ) (environment : String → Option String) (p : Progress σ) :
    Except Halt (Progress σ) := do
  l.options.foldlM (fromEnvironment environment) (← p.settle)

end Level

def helpOption {σ : Type} : CommandOption σ :=
  { long := "help", short := some 'h', variableName := none, effect := .halt .help }

def versionOption {σ : Type} : CommandOption σ :=
  { long := "version", short := some 'V', variableName := none, effect := .halt .version }

end FleetHealth.CommandLine
