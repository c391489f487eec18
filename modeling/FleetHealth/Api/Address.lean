import FleetHealth.Api.Request
/-!
Where a request goes to when it arrives. Names and namespaces are put into targets as they are, so
that a server may understand something else than what was asked for: a question mark or a number
sign ends the path, and a slash the name.
-/

namespace FleetHealth.Api

open Text

structure Address where
  /-- The namespace; the empty one is that of requests for all of them. -/
  ns : String
  plural : String
  /-- The name of one object; without it all of them are asked for. -/
  name : Option String
  deriving DecidableEq

namespace Address

def blank : Address where
  ns := ""
  plural := ""
  name := none

/-- What follows the group and the version in a path. Whatever comes after a name would be a part
of the object, and is left aside. -/
def ofParts : List String → Address
  | "namespaces" :: ns :: plural :: rest => { ns, plural, name := rest.head? }
  | plural :: rest => { ns := "", plural, name := rest.head? }
  | [] => blank

def ofPath (path : List Char) : Address :=
  match (splitAll '/' path).map String.ofList with
  | "" :: "api" :: _ :: rest => ofParts rest
  | "" :: "apis" :: _ :: _ :: rest => ofParts rest
  | _ => blank

def ofRequest (r : Request) : Address := ofPath (Http.Uri.splitQuery r.target.toList).1

def key (a : Address) : Key :=
  { ns := if a.ns.isEmpty then none else some a.ns, name := a.name.getD "" }

end Address

end FleetHealth.Api
