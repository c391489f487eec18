import FleetHealth.Api.Address
import FleetHealth.Api.Client
import FleetHealth.Object.Manifest
/-!
A server that keeps manifests and answers requests for them. Every write gives an object a new
version; a write that was made from an older version is refused. The server remembers the requests
and the changes that they made, and can be told to answer some requests with errors.
-/

namespace FleetHealth.Simulation

open Api

structure Change where
  kind : ResourceKind
  isRemoval : Bool
  object : Json

/-- What a fault hits: requests that want something, or the listings that informers begin with. -/
inductive FaultScope where
  | requests (verb : Verb)
  | informers
  deriving DecidableEq

structure ServerFault where
  scope : FaultScope
  kind : ResourceKind
  /-- How many answers are left to be replaced; without a number there is no end. -/
  times : Option Nat
  status : Nat
  message : String
  deriving DecidableEq

namespace ServerFault

def isOver (f : ServerFault) : Bool := f.times == some 0

def hits (f : ServerFault) (verb : Verb) (plural : String) : Bool :=
  f.scope = .requests verb && f.kind.plural = plural && !f.isOver

def spent (f : ServerFault) : ServerFault := { f with times := f.times.map (· - 1) }

/-- Informers try again so soon that only a fault without an end keeps them from a listing. -/
def blocks (f : ServerFault) (kind : ResourceKind) : Bool :=
  f.scope = .informers && f.kind.plural = kind.plural && f.times.isNone

end ServerFault

def refusal (code : Nat) (reason message : String) : Http.Response :=
  .json code (ErrorStatus.write { status := "Failure", message, reason, code })

structure Server where
  /-- The objects of each kind, by the plural of its name. -/
  objects : Table String (Table Key Json)
  versions : Nat
  faults : List ServerFault
  /-- The requests that came, and where to, each of them once. -/
  requests : List (Request × Address)
  /-- The changes that requests made, the last one first. -/
  changes : List Change

namespace Server

def start : Server where
  objects := .empty
  versions := 0
  faults := []
  requests := []
  changes := []

/-- The objects of a kind. There are none of a kind that the server does not know. -/
def collection (s : Server) (plural : String) : Table Key Json :=
  (s.objects.get? plural).getD .empty

def withCollection (s : Server) (kind : ResourceKind) (t : Table Key Json) : Server :=
  { s with objects := s.objects.insert kind.plural t }

def listing (s : Server) (plural : String) (ns : Option String) : List Json :=
  ((s.collection plural).filter fun k _ => ns.all (k.nsText == ·)).values

def put (s : Server) (kind : ResourceKind) (j : Json) : Json × Server :=
  let versions := s.versions + 1
  let stored := Manifest.withVersion j (toString versions)
  let objects := (s.collection kind.plural).insert (Manifest.key kind j) stored
  (stored, { s.withCollection kind objects with versions })

def remove (s : Server) (kind : ResourceKind) (k : Key) : Server :=
  s.withCollection kind ((s.collection kind.plural).erase k)

def carryOut (s : Server) (c : Change) : Server :=
  if c.isRemoval then s.remove c.kind (Manifest.key c.kind c.object)
  else (s.put c.kind c.object).2

def remember (s : Server) (c : Change) : Server := { s with changes := c :: s.changes }

def missing (a : Address) : Http.Response :=
  refusal 404 "NotFound" (a.plural ++ " " ++ Text.quote (a.name.getD "") ++ " not found")

def isStale (stored j : Json) : Bool :=
  (Manifest.version? j).isSome && Manifest.version? j != Manifest.version? stored

def answerWith (s : Server) (k : Key) (stored : Json) : Request → Http.Response × Server
  | .replace kind _ j =>
    if isStale stored j then
      (refusal 409 "Conflict" (kind.plural ++ " " ++ Text.quote k.name ++ " was modified"), s)
    else
      let (stored, s) := s.put kind j
      (.json 200 stored, s.remember { kind, isRemoval := false, object := stored })
  | .delete kind _ =>
    (.json 200 stored, (s.remove kind k).remember { kind, isRemoval := true, object := stored })
  | _ => (.json 200 stored, s)

def list (s : Server) (plural : String) (ns : Option String) (selector : Selector) :
    Http.Response :=
  .json 200 (.obj [
    ("metadata", .obj [("resourceVersion", .str (toString s.versions))]),
    ("items", .arr ((s.listing plural ns).filter fun j =>
      selector.selects (some (Manifest.labels j))))])

def serve (s : Server) (r : Request) (a : Address) : Http.Response × Server :=
  match r with
  | .list _ _ selector => (s.list a.plural a.key.ns selector, s)
  | r =>
    match (s.collection a.plural).get? a.key with
    | some stored => s.answerWith a.key stored r
    | none => (missing a, s)

def strike (verb : Verb) (plural : String) :
    List ServerFault → Option (ServerFault × List ServerFault)
  | [] => none
  | f :: fs =>
    if f.hits verb plural then some (f, f.spent :: fs)
    else (strike verb plural fs).map fun (g, gs) => (g, f :: gs)

def answer : Transport (StateM Server) := fun r s =>
  let a := Address.ofRequest r
  let s := { s with requests := s.requests.insert (r, a) }
  match strike r.verb a.plural s.faults with
  | some (f, faults) => (.ok (refusal f.status "Fault" f.message), { s with faults })
  | none =>
    let (response, s) := s.serve r a
    (.ok response, s)

def takeChanges (s : Server) : List Change × Server := (s.changes.reverse, { s with changes := [] })

def inform? {α : Type} [ClusterObject α] (s : Server) (ns : Option String) : Option (List α) :=
  if s.faults.any (·.blocks (ClusterObject.kind α)) then none
  else (s.listing (ClusterObject.kind α).plural ns).mapM fun j =>
    ClusterObject.read? (RawJson.ofJson j)

end Server

end FleetHealth.Simulation
