import FleetHealth.Label.Name
import FleetHealth.Table

namespace FleetHealth

open Text

abbrev Labels := Table String String

structure LabelExpression where
  key : String
  operator : String
  values : Option (List String)
  deriving DecidableEq

structure LabelSelector where
  matchLabels : Option Labels
  matchExpressions : Option (List LabelExpression)
  deriving DecidableEq

instance : Inhabited LabelSelector := ⟨{ matchLabels := none, matchExpressions := none }⟩

inductive Requirement where
  | equals (key value : String)
  | isIn (key : String) (values : List String)
  | notIn (key : String) (values : List String)
  | present (key : String)
  | absent (key : String)
  deriving DecidableEq

namespace Requirement

def key : Requirement → String
  | equals key _ | isIn key _ | notIn key _ | present key | absent key => key

def holds (labels : Labels) : Requirement → Bool
  | equals key value => labels.get? key == some value
  | isIn key values => (labels.get? key).any values.contains
  | notIn key values => (labels.get? key).all (!values.contains ·)
  | present key => labels.contains key
  | absent key => !labels.contains key

def query : Requirement → String
  | equals key value => key ++ "=" ++ value
  | isIn key values => key ++ " in (" ++ ",".intercalate values ++ ")"
  | notIn key values => key ++ " notin (" ++ ",".intercalate values ++ ")"
  | present key => key
  | absent key => "!" ++ key

end Requirement

/-- A checked selector. Without requirements it selects everything. -/
structure Selector where
  requirements : List Requirement
  deriving DecidableEq

namespace Selector

def everything : Selector := ⟨[]⟩

def isEmpty (s : Selector) : Bool := s.requirements.isEmpty

/-- A label set is selected when it meets all requirements; having no labels is having none of
them. -/
def selects (s : Selector) (labels : Option Labels) : Bool :=
  s.requirements.all (·.holds (labels.getD .empty))

def query (s : Selector) : String := ",".intercalate (s.requirements.map Requirement.query)

inductive Fault where
  | keyDomain (key : String)
  | keyName (key : String)
  | value (key value : String)
  | valuesMissing (operator key : String)
  | valuesUnwanted (operator key : String)
  | unknownOperator (operator key : String)
  deriving DecidableEq

def Fault.message : Fault → String
  | keyDomain key => "invalid prefix in label key " ++ quote key
  | keyName key => "invalid label key " ++ quote key
  | value key v => "invalid value " ++ quote v ++ " for label key " ++ quote key
  | valuesMissing operator key =>
    "operator " ++ operator ++ " on key " ++ quote key ++ " requires at least one value"
  | valuesUnwanted operator key =>
    "operator " ++ operator ++ " on key " ++ quote key ++ " must not have values"
  | unknownOperator operator key => "unknown operator " ++ quote operator ++ " on key " ++ quote key

def checkKey (key : String) : Except Fault Unit :=
  match Label.keyFault? key with
  | some .domain => .error (.keyDomain key)
  | some .name => .error (.keyName key)
  | none => .ok ()

def checkValue (key value : String) : Except Fault Unit :=
  if Label.isValue value then .ok () else .error (.value key value)

def ofLabel (label : String × String) : Except Fault Requirement := do
  checkKey label.1
  checkValue label.1 label.2
  return .equals label.1 label.2

def ofOperator (operator key : String) (values : List String) : Except Fault Requirement :=
  match operator with
  | "In" => if values.isEmpty then .error (.valuesMissing operator key) else .ok (.isIn key values)
  | "NotIn" =>
    if values.isEmpty then .error (.valuesMissing operator key) else .ok (.notIn key values)
  | "Exists" => if values.isEmpty then .ok (.present key) else .error (.valuesUnwanted operator key)
  | "DoesNotExist" =>
    if values.isEmpty then .ok (.absent key) else .error (.valuesUnwanted operator key)
  | _ => .error (.unknownOperator operator key)

/-- The key is looked at before the values, and the operator last. -/
def ofExpression (e : LabelExpression) : Except Fault Requirement := do
  checkKey e.key
  (e.values.getD []).forM (checkValue e.key)
  ofOperator e.operator e.key (e.values.getD [])

end Selector

def LabelSelector.labelList (s : LabelSelector) : List (String × String) :=
  (s.matchLabels.getD .empty).toList

/-- Checks a selector: its labels in the order of their keys, then its expressions. -/
def LabelSelector.check (s : LabelSelector) : Except Selector.Fault Selector := do
  let labels ← s.labelList.mapM Selector.ofLabel
  let expressions ← (s.matchExpressions.getD []).mapM Selector.ofExpression
  return ⟨labels ++ expressions⟩

end FleetHealth
