import FleetHealth.Label.Selector
import FleetHealth.Object.Key
import FleetHealth.Object.Shape

namespace FleetHealth

open Json RawJson
open Shape (field textField)

structure OwnerReference where
  kind : String
  name : String
  uid : String
  apiVersion : String
  controller : Option Bool
  blockOwnerDeletion : Option Bool
  deriving DecidableEq

abbrev Annotations := Table String String

structure Metadata where
  name : Option String
  generateName : Option String
  ns : Option String
  labels : Option Labels
  annotations : Option Annotations
  ownerReferences : Option (List OwnerReference)
  resourceVersion : Option String
  created : Option Instant
  /-- The fields that nothing depends on, as they are written. -/
  other : Json.Fields
  deriving DecidableEq

namespace Metadata

def blank : Metadata where
  name := none
  generateName := none
  ns := none
  labels := none
  annotations := none
  ownerReferences := none
  resourceVersion := none
  created := none
  other := []

instance : Inhabited Metadata := ⟨blank⟩

def key (m : Metadata) : Key := ⟨m.ns, m.name.getD ""⟩

/-- The name, or the beginning of the name that is to be made up, or nothing. -/
def shownName (m : Metadata) : String := (m.name <|> m.generateName).getD ""

def label? (m : Metadata) (k : String) : Option String := (m.labels.getD .empty).get? k

def annotation? (m : Metadata) (k : String) : Option String := (m.annotations.getD .empty).get? k

def annotate (m : Metadata) (k v : String) : Metadata :=
  { m with annotations := some ((m.annotations.getD .empty).insert k v) }

def hasOwnerOfKind (m : Metadata) (kind : String) : Bool :=
  (m.ownerReferences.getD []).any (·.kind == kind)

end Metadata

def readTexts? (j : RawJson) : Option (Table String String) := j.map? str?

def writeTexts (t : Table String String) : Json := .obj (t.toList.map fun e => (e.1, .str e.2))

def readInstant? (j : RawJson) : Option Instant := j.str? >>= Instant.parse?

namespace OwnerReference

def read? (j : RawJson) : Option OwnerReference := do
  let fields ← j.fields?
  return {
    kind := ← fields.orElse "kind" "" str?
    name := ← fields.orElse "name" "" str?
    uid := ← fields.orElse "uid" "" str?
    apiVersion := ← fields.orElse "apiVersion" "" str?
    controller := ← fields.optional "controller" bool?
    blockOwnerDeletion := ← fields.optional "blockOwnerDeletion" bool? }

def write (o : OwnerReference) : Json := record [
  ("apiVersion", some (.str o.apiVersion)),
  ("blockOwnerDeletion", o.blockOwnerDeletion.map .bool),
  ("controller", o.controller.map .bool),
  ("kind", some (.str o.kind)),
  ("name", some (.str o.name)),
  ("uid", some (.str o.uid))]

end OwnerReference

namespace LabelExpression

def read? (j : RawJson) : Option LabelExpression := do
  let fields ← j.fields?
  return {
    key := ← fields.orElse "key" "" str?
    operator := ← fields.orElse "operator" "" str?
    values := ← fields.optional "values" (list? str?) }

def write (e : LabelExpression) : Json := record [
  ("key", some (.str e.key)),
  ("operator", some (.str e.operator)),
  ("values", e.values.map strings)]

end LabelExpression

namespace LabelSelector

def read? (j : RawJson) : Option LabelSelector := do
  let fields ← j.fields?
  return {
    matchLabels := ← fields.optional "matchLabels" readTexts?
    matchExpressions := ← fields.optional "matchExpressions" (list? LabelExpression.read?) }

def write (s : LabelSelector) : Json := record [
  ("matchExpressions", s.matchExpressions.map fun es => .arr (es.map LabelExpression.write)),
  ("matchLabels", s.matchLabels.map writeTexts)]

end LabelSelector

namespace Metadata

def managedFields : Shape := .list (.record [
  field "apiVersion" .text, field "fieldsType" .text, field "fieldsV1" .opaqueValue,
  field "manager" .text, field "operation" .text, field "subresource" .text,
  field "time" .time])

def otherFields : List (String × Option Json × Shape) := [
  field "deletionGracePeriodSeconds" .int64, field "deletionTimestamp" .time,
  field "finalizers" (.list .text), field "generation" .int64,
  field "managedFields" managedFields, field "selfLink" .text, field "uid" .text]

def read? (j : RawJson) : Option Metadata := do
  let fields ← j.fields?
  return {
    name := ← fields.optional "name" str?
    generateName := ← fields.optional "generateName" str?
    ns := ← fields.optional "namespace" str?
    labels := ← fields.optional "labels" readTexts?
    annotations := ← fields.optional "annotations" readTexts?
    ownerReferences := ← fields.optional "ownerReferences" (list? OwnerReference.read?)
    resourceVersion := ← fields.optional "resourceVersion" str?
    created := ← fields.optional "creationTimestamp" readInstant?
    other := ← Shape.normalFields? otherFields fields }

def write (m : Metadata) : Json := record ([
  ("annotations", m.annotations.map writeTexts),
  ("creationTimestamp", m.created.map fun t => .str t.renderSeconds),
  ("generateName", m.generateName.map .str),
  ("labels", m.labels.map writeTexts),
  ("name", m.name.map .str),
  ("namespace", m.ns.map .str),
  ("ownerReferences", m.ownerReferences.map fun os => .arr (os.map OwnerReference.write)),
  ("resourceVersion", m.resourceVersion.map .str)]
  ++ m.other.map fun (k, v) => (k, some v))

end Metadata

end FleetHealth
