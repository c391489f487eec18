import FleetHealth.Object.Metadata

namespace FleetHealth

structure ResourceKind where
  group : String
  version : String
  kind : String
  plural : String
  isNamespaced : Bool
  deriving DecidableEq

def ResourceKind.apiVersion (k : ResourceKind) : String :=
  if k.group.isEmpty then k.version else k.group ++ "/" ++ k.version

class ClusterObject (α : Type) where
  kind : ResourceKind
  metadata : α → Metadata
  withMetadata : α → Metadata → α
  read? : RawJson → Option α
  write : α → Json

namespace ClusterObject

variable {α : Type} [ClusterObject α]

def key (a : α) : Key := (metadata a).key

def shownName (a : α) : String := (metadata a).shownName

def labels (a : α) : Option Labels := (metadata a).labels

def manifest (kind : ResourceKind) (parts : List (String × Option Json)) : Json :=
  Json.record ([("apiVersion", some (.str kind.apiVersion)), ("kind", some (.str kind.kind))]
    ++ parts)

end ClusterObject

end FleetHealth
