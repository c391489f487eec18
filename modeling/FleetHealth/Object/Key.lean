import FleetHealth.Text.Quoted
import FleetHealth.Text.Split
/-!
Keys of objects: a name, in a namespace or in the cluster as a whole. A node names the machine it
belongs to by such a key, written as namespace and name with a slash between them.
-/

namespace FleetHealth

open Std Text

structure Key where
  ns : Option String
  name : String
  deriving DecidableEq, Repr, Inhabited

namespace Key

/-- Keys without a namespace come first, then namespaces in order, then names. -/
def order : Key → Key → Ordering := compareLex (compareOn ns) (compareOn name)

instance : Ord Key := ⟨order⟩

instance : TransOrd Key := inferInstanceAs (TransCmp (compareLex (compareOn ns) (compareOn name)))

instance : LawfulEqOrd Key where
  eq_of_compare {a b} h := by
    obtain ⟨n, m⟩ := a
    obtain ⟨n', m'⟩ := b
    have h : (compare n n').then (compare m m') = .eq := h
    simp only [Ordering.then_eq_eq, LawfulEqCmp.compare_eq_iff_eq] at h
    rw [h.1, h.2]

def namespaced (ns name : String) : Key := ⟨some ns, name⟩

def clusterWide (name : String) : Key := ⟨none, name⟩

def text (k : Key) : String :=
  match k.ns with
  | some ns => ns ++ "/" ++ k.name
  | none => k.name

def nsText (k : Key) : String := k.ns.getD ""

/-- The key that a text refers to: a namespace and a name, neither of them empty and neither with a
slash in it. -/
def ofReference? (s : String) : Option Key :=
  match splitAll '/' s.toList with
  | [ns, name] =>
    if ns = [] ∨ name = [] then none
    else some (namespaced (String.ofList ns) (String.ofList name))
  | _ => none

def referenceComplaint (s : String) : String := "expected <namespace>/<name>, got " ++ quote s

end Key

end FleetHealth
