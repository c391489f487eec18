import FleetHealth.Object.Metadata
import FleetHealth.Object.Basic

namespace FleetHealth.Manifest

open Json

def metadata (j : Json) : Fields := ((j.field? "metadata").map fields).getD []

def metadataField? (j : Json) (name : String) : Option Json := (metadata j).lookup name

def metadataText? (j : Json) (name : String) : Option String := metadataField? j name >>= text?

/-- A namespace, unless it is the empty one, which is that of objects without a namespace. -/
def namespace? (ns : Option String) : Option String := ns.filter (!·.isEmpty)

def key (kind : ResourceKind) (j : Json) : Key :=
  ⟨if kind.isNamespaced then namespace? (metadataText? j "namespace") else none,
    (metadataText? j "name").getD ""⟩

/-- The labels that are texts; a server does not look at any others. -/
def labels (j : Json) : Labels :=
  Table.ofList (((metadataField? j "labels").map fields).getD [] |>.filterMap fun (k, v) =>
    v.text?.map fun s => (k, s))

def hasAnnotation (j : Json) (name : String) : Bool :=
  ((metadataField? j "annotations").bind (·.field? name)).isSome

def version? (j : Json) : Option String := metadataText? j "resourceVersion"

def setField (fields : Fields) (name : String) (v : Json) : Fields :=
  (name, v) :: fields.filter (·.1 != name)

def withVersion (j : Json) (version : String) : Json :=
  match j with
  | .obj fields =>
    let metadata := setField (metadata j) "resourceVersion" (.str version)
    .obj (setField fields "metadata" (.obj metadata))
  | j => j

end FleetHealth.Manifest
