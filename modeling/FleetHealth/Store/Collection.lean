import FleetHealth.Store.Repository
import FleetHealth.Text.Numeral
/-!
Objects of one kind in memory, under the keys that their metadata give. Every stored object has a
version, which changes with every write; a write that was made from an older version is refused.
Successful writes are counted. A collection can be told to fail.
-/

namespace FleetHealth

open ClusterObject Text

inductive WriteFault where
  | conflict
  | notFound
  | serverError
  | config
  deriving DecidableEq

def WriteFault.failure (kind : ResourceKind) (k : Key) : WriteFault → Failure
  | .conflict => .conflict kind.kind k.name
  | .notFound => .notFound kind.kind k.name k.nsText
  | .serverError => .api (.refused "Failure" "etcdserver: request timed out" "InternalError" 500)
  | .config => .config ("cannot write " ++ k.text)

inductive Fault where
  | none
  | down
  /-- Reads work, and no write does. -/
  | writes (fault : WriteFault)
  deriving DecidableEq

structure Collection (α : Type) where
  objects : Table Key α
  writes : Nat
  deletes : Nat
  fault : Fault
  /-- Writes that were refused since writes began to fail. -/
  rejected : Nat

namespace Collection

variable {α : Type} [ClusterObject α]

instance [DecidableEq α] : DecidableEq (Collection α) := fun a b =>
  decidable_of_iff (a.objects = b.objects ∧ a.writes = b.writes ∧ a.deletes = b.deletes
    ∧ a.fault = b.fault ∧ a.rejected = b.rejected) (by cases a; cases b; simp)

def firstVersion : String := "1"

def withVersion (a : α) (version : String) : α :=
  withMetadata a { metadata a with resourceVersion := some version }

def versioned (a : α) : α :=
  if (metadata a).resourceVersion.isSome then a else withVersion a firstVersion

/-- The collection of some objects; of several with one key the last one counts. -/
def ofList (as : List α) : Collection α where
  objects := Table.ofList (as.map fun a => (key (versioned a), versioned a))
  writes := 0
  deletes := 0
  fault := .none
  rejected := 0

/-- The version after another one. What is no number counts as zero, and the numbers of 64 bits
begin anew after the greatest one. -/
def nextVersion (version : Option String) : String :=
  let n := (version.bind fun v => natBelow? wordLimit v.toList).getD 0
  toString ((n + 1) % wordLimit)

def unavailable : Failure :=
  .api (.refused "Failure" "service unavailable" "ServiceUnavailable" 503)

def missing (α : Type) [ClusterObject α] (k : Key) : Failure :=
  .notFound (kind α).kind k.name k.nsText

/-- Objects of a namespace, or of all of them, that a selector selects, in the order of keys. -/
def selected (c : Collection α) (ns : Option String) (selector : Selector) : List α :=
  (c.objects.filter fun k a => ns.all (fun n => k.ns == some n) && selector.selects (labels a)).values

def isStale (stored a : α) : Bool :=
  (metadata a).resourceVersion.isSome
    && (metadata a).resourceVersion != (metadata stored).resourceVersion

def successor (stored a : α) : α := withVersion a (nextVersion (metadata stored).resourceVersion)

def replaced (c : Collection α) (a : α) : Except Failure α × Collection α :=
  match c.objects.get? (key a) with
  | none => (.error (missing α (key a)), c)
  | some stored =>
    if isStale stored a then (.error (.conflict (kind α).kind (shownName a)), c)
    else
      (.ok (successor stored a),
        { c with objects := c.objects.insert (key a) (successor stored a), writes := c.writes + 1 })

def deleted (c : Collection α) (k : Key) : Except Failure Unit × Collection α :=
  if c.objects.contains k then
    (.ok (), { c with objects := c.objects.erase k, deletes := c.deletes + 1 })
  else (.error (missing α k), c)

def get (c : Collection α) (k : Key) : Except Failure (Option α) :=
  if c.fault = .down then .error unavailable else .ok (c.objects.get? k)

def list (c : Collection α) (ns : Option String) (selector : Selector) : Except Failure (List α) :=
  if c.fault = .down then .error unavailable else .ok (c.selected ns selector)

def write {β : Type} (c : Collection α) (k : Key)
    (change : Collection α → Except Failure β × Collection α) : Except Failure β × Collection α :=
  match c.fault with
  | .none => change c
  | .down => (.error unavailable, c)
  | .writes fault =>
    (.error (fault.failure (kind α) k), { c with rejected := c.rejected + 1 })

def replace (c : Collection α) (a : α) : Except Failure α × Collection α :=
  c.write (key a) (·.replaced a)

def delete (c : Collection α) (k : Key) : Except Failure Unit × Collection α :=
  c.write k (·.deleted k)

/-- Puts a fault in place of the one before. Refused writes are counted anew when writes begin to
fail. -/
def setFault (c : Collection α) (fault : Fault) : Collection α :=
  match fault with
  | .writes _ => { c with fault, rejected := 0 }
  | _ => { c with fault }

def mutations (c : Collection α) : Nat := c.writes + c.deletes

end Collection

end FleetHealth
