import FleetHealth.Api.Request
import FleetHealth.Api.Status
import FleetHealth.Http.Response
import FleetHealth.Json.Parser
import FleetHealth.Store.Repository
import FleetHealth.Text.Quoted

namespace FleetHealth.Api

open ClusterObject

abbrev Transport (m : Type → Type) := Request → m (Except ApiError Http.Response)

/-- The error that an answer tells of. Its body says more about it, if it can be understood. -/
def errorOf (r : Http.Response) : ApiError :=
  match Json.raw? r.body >>= ErrorStatus.read? with
  | some s => .refused s.status s.message s.reason s.code
  | none =>
    .refused (Http.statusText r.status) (Text.quote r.body) "Failed to parse error data" r.status

def decode {α : Type} (read? : RawJson → Option α) (r : Http.Response) : Except ApiError α :=
  if r.isError then .error (errorOf r)
  else match Json.raw? r.body >>= read? with
    | some a => .ok a
    | none => .error .undecodable

/-- The metadata of a list, none of which is used. -/
def readListMetadata? (j : RawJson) : Option Unit := do
  let fields ← j.fields?
  ["continue", "resourceVersion", "selfLink"].forM fun name =>
    discard (fields.optional name RawJson.str?)
  discard (fields.optional "remainingItemCount" RawJson.int64?)

/-- The objects of a list; null is a list without any. -/
def readList? {α : Type} (read? : RawJson → Option α) (j : RawJson) : Option (List α) := do
  let fields ← j.record? ["metadata", "items"] 2
  fields.required "metadata" readListMetadata?
  let items ← fields.required "items" (RawJson.nullable? (RawJson.list? read?))
  return items.getD []

/-- The answer to a deletion: a status, or the object that was deleted. The kind tells which one,
and no part of the answer can be void. -/
def readDeleted? {α : Type} (read? : RawJson → Option α) (j : RawJson) : Option Unit := do
  if isStatus (← j.value?) then readStatus? j
  else discard (read? j)

section

variable {m : Type → Type} [Monad m]

/-- The decoded answer to a request. One whose target is malformed is not sent. -/
def ask {β : Type} (send : Transport m) (request : Request) (read? : RawJson → Option β) :
    m (Except ApiError β) :=
  match request.fault? with
  | some e => return .error e
  | none => do
    match ← send request with
    | .error e => return .error e
    | .ok response => return decode read? response

variable {α : Type} [ClusterObject α]

/-- Gets an object. That it was not found is no failure if the answer gives that reason. -/
def get (send : Transport m) (k : Key) : m (Except Failure (Option α)) := do
  match ← ask send (.get (kind α) k) read? with
  | .ok a => return .ok (some a)
  | .error (.refused _ _ "NotFound" _) => return .ok none
  | .error e => return .error (.ofApi e (kind α).kind k)

def list (send : Transport m) (ns : Option String) (selector : Selector) :
    m (Except Failure (List α)) := do
  return (← ask send (.list (kind α) ns selector) (readList? read?)).mapError .api

def replace (send : Transport m) (a : α) : m (Except Failure α) := do
  let k : Key := ⟨(metadata a).ns, shownName a⟩
  return (← ask send (.replace (kind α) k (write a)) read?).mapError (.ofApi · (kind α).kind k)

def delete (send : Transport m) (k : Key) : m (Except Failure Unit) := do
  return (← ask send (.delete (kind α) k) (readDeleted? (read? (α := α)))).mapError
    (.ofApi · (kind α).kind k)

def repository (α : Type) [ClusterObject α] (send : Transport m) : Repository m α where
  get := get send
  list := list send
  replace := replace send
  delete := delete (α := α) send

def store (send : Transport m) : Store m where
  policies := repository Policy send
  machines := repository Machine send
  machineSets := repository MachineSet send
  nodes := repository Node send

end

def unreachable {m : Type → Type} [Monad m] : Transport m := fun _ => return .error .unreachable

end FleetHealth.Api
