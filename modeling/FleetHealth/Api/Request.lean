import FleetHealth.Failure
import FleetHealth.Http.Uri
import FleetHealth.Label.Selector
import FleetHealth.Object.Basic
import FleetHealth.Text.Percent

namespace FleetHealth.Api

inductive Verb where
  | list
  | get
  | replace
  | delete
  deriving DecidableEq

inductive Request where
  | list (kind : ResourceKind) (ns : Option String) (selector : Selector)
  | get (kind : ResourceKind) (key : Key)
  | replace (kind : ResourceKind) (key : Key) (object : Json)
  | delete (kind : ResourceKind) (key : Key)
  deriving DecidableEq

namespace Request

def kind : Request → ResourceKind
  | list kind .. | get kind _ | replace kind .. | delete kind _ => kind

def name? : Request → Option String
  | list .. => none
  | get _ key | replace _ key _ | delete _ key => some key.name

/-- The namespace that is asked for. Kinds that belong to no namespace have none. -/
def ns? (r : Request) : Option String :=
  if r.kind.isNamespaced then
    match r with
    | list _ ns _ => ns
    | get _ key | replace _ key _ | delete _ key => key.ns
  else none

def verb : Request → Verb
  | list .. => .list
  | get .. => .get
  | replace .. => .replace
  | delete .. => .delete

def method (r : Request) : String :=
  match r.verb with
  | .list | .get => "GET"
  | .replace => "PUT"
  | .delete => "DELETE"

def rootPath (kind : ResourceKind) : String :=
  if kind.group.isEmpty then "/api/" ++ kind.version
  else "/apis/" ++ kind.group ++ "/" ++ kind.version

def path (r : Request) : String :=
  rootPath r.kind ++ "/" ++ (r.ns?.elim "" fun ns => "namespaces/" ++ ns ++ "/") ++ r.kind.plural
    ++ r.name?.elim "" ("/" ++ ·)

def selectorQuery (s : Selector) : String :=
  if s.isEmpty then "" else "&labelSelector=" ++ Text.formEncode s.query

/-- The target: the path with a query, which only a request to get an object does without. -/
def target : Request → String
  | list kind ns selector => (list kind ns selector).path ++ "?" ++ selectorQuery selector
  | get kind key => (get kind key).path
  | r => r.path ++ "?"

/-- What is wrong with the target, if anything is. Names and namespaces are put into it as they
are. -/
def fault? (r : Request) : Option ApiError :=
  if Http.Uri.isTooLong r.target then some .targetTooLong
  else if Http.Uri.isPermitted .ascii r.target.toList then none
  else some .invalidTarget

def uri (r : Request) : String := String.ofList (Http.Uri.withoutFragment r.target.toList)

def body? : Request → Option Json
  | replace _ _ object => some object
  | delete .. => some (.obj [])
  | _ => none

end Request

end FleetHealth.Api
