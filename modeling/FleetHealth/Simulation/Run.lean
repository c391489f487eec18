import FleetHealth.Controller.Queue
import FleetHealth.Controller.Reaction
import FleetHealth.Controller.View
import FleetHealth.Operator.Run
import FleetHealth.Simulation.Server
/-!
Runs of the controller against a simulated server and with a simulated clock. A run has stages; at
the beginning of each one objects are changed from outside, and then some time passes. The time of
day stands still, so that only delays come to an end.
-/

namespace FleetHealth.Simulation

open ClusterObject

structure Run where
  server : Server
  view : ClusterView
  informed : List ResourceKind
  queue : PassQueue
  /-- Milliseconds since the run was begun. -/
  clock : Nat
  ns : Option String
  timeOfDay : Instant

structure Stage where
  changes : List Change
  seconds : Nat

structure StageReport where
  requests : List String
  machines : List String
  nodes : List String
  deriving DecidableEq

def firstStage : Stage := { changes := [], seconds := 5 }

namespace Change

def notice? (c : Change) : Option Notice :=
  let object := RawJson.ofJson c.object
  if c.kind = Policy.kind then
    (Policy.read? object).map (if c.isRemoval then .policyRemoved else .policyApplied)
  else if c.kind = Machine.kind then
    (Machine.read? object).map (if c.isRemoval then .machineRemoved else .machineApplied)
  else if c.kind = Node.kind then (Node.read? object).map .nodeChanged
  else none

def isWatched (c : Change) (ns : Option String) : Bool :=
  !c.kind.isNamespaced || ns.all ((Manifest.key c.kind c.object).nsText == ·)

end Change

namespace Run

def start (server : Server) (ns : Option String) (timeOfDay : Instant) : Run where
  server := server
  view := .blank
  informed := []
  queue := .empty
  clock := 0
  ns := Manifest.namespace? ns
  timeOfDay := timeOfDay

def tell (r : Run) (n : Notice) : Run :=
  let view := r.view.apply n
  { r with view, queue := r.queue.scheduleAll (view.concerned n) r.clock }

/-- Tells the controller of a change, if the informer that watches for it is at work. -/
def watch (r : Run) (c : Change) : Run :=
  if r.informed.contains c.kind && c.isWatched r.ns then
    match c.notice? with
    | some n => r.tell n
    | none => r
  else r

def inform (r : Run) (α : Type) [ClusterObject α] (ns : Option String) (notice : α → Notice) :
    Run :=
  if r.informed.contains (kind α) then r
  else match r.server.inform? ns with
    | some (as : List α) =>
      as.foldl (fun r a => r.tell (notice a)) { r with informed := kind α :: r.informed }
    | none => r

def informAll (r : Run) : Run :=
  ((r.inform Policy r.ns .policyApplied).inform Machine r.ns .machineApplied).inform Node none
    .nodeChanged

def change (r : Run) (c : Change) : Run := ({ r with server := r.server.carryOut c }).watch c

def hearBack (r : Run) : Run :=
  let (changes, server) := r.server.takeChanges
  changes.foldl watch { r with server }

def reconcile (r : Run) (k : Key) : Run :=
  if r.view.policies.contains k then
    let (pass, server) := (Api.store Server.answer).pass k r.timeOfDay r.server
    let queue := match Reaction.toPass .standard pass with
      | .awaitChange => r.queue
      | .requeue delay => r.queue.schedule k (r.clock + delay.milliseconds)
    ({ r with server, queue }).hearBack
  else r

def due (r : Run) (k : Key) (time : Nat) : Run :=
  ({ r with clock := max r.clock time, queue := r.queue.erase k }).reconcile k

def passes (deadline : Nat) : Nat → Run → Run
  | 0, r => r
  | bound + 1, r => match r.queue.next? deadline with
    | some (k, time) => passes deadline bound (r.due k time)
    | none => r

/-- More passes than there can be before a deadline. A policy has at most one in every millisecond,
and one more for every object that a pass can change, which it can do once. -/
def passBound (r : Run) (deadline : Nat) : Nat :=
  (r.queue.size + r.view.policies.size + 1) *
    (deadline - r.clock + (r.server.collection Machine.kind.plural).size
      + (r.server.collection Node.kind.plural).size)

def advance (r : Run) (deadline : Nat) : Run :=
  { passes deadline (r.passBound deadline) r with clock := deadline }

end Run

def verbText : Api.Verb → String
  | .list => "LIST"
  | .get => "GET"
  | .replace => "PUT"
  | .delete => "DELETE"

def selectorText : Api.Request → String
  | .list _ _ selector => if selector.isEmpty then "" else "?" ++ selector.query
  | _ => ""

def requestText (r : Api.Request) (a : Api.Address) : String :=
  verbText r.verb ++ " " ++ a.ns ++ "/" ++ a.plural ++ a.name.elim "" ("/" ++ ·) ++ selectorText r

def objectText (k : Key) (j : Json) : String :=
  k.text ++ if Manifest.hasAnnotation j Node.rebootAnnotation then "+reboot" else ""

def Server.report (s : Server) : StageReport where
  requests := (Table.ofList (s.requests.map fun (r, a) => (requestText r a, ()))).keys
  machines := (s.collection Machine.kind.plural).toList.map fun e => objectText e.1 e.2
  nodes := (s.collection Node.kind.plural).toList.map fun e => objectText e.1 e.2

namespace Run

def forgetRequests (r : Run) : Run := { r with server := { r.server with requests := [] } }

def play (r : Run) (stage : Stage) : StageReport × Run :=
  let r := (stage.changes.foldl change r.forgetRequests).informAll
  let r := r.advance (r.clock + 1000 * stage.seconds)
  (r.server.report, r)

def playAll (r : Run) : List Stage → List StageReport
  | [] => []
  | stage :: stages =>
    let (report, r) := r.play stage
    report :: r.playAll stages

end Run

/-- The reports of all stages of a run, or of its beginning and the failure that ended it there. -/
def run (server : Server) (ns : Option String) (timeOfDay : Instant) (stages : List Stage) :
    List StageReport × Option Failure :=
  let (probe, server) := Operator.probe (Api.store Server.answer) ns server
  match probe with
  | .error f => ([server.report], some f)
  | .ok _ =>
    let r := (Run.start server ns timeOfDay).informAll
    let r := r.advance (1000 * firstStage.seconds)
    (r.server.report :: r.playAll stages, none)

end FleetHealth.Simulation
