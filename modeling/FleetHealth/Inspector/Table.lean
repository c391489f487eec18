import FleetHealth.DryRun
import FleetHealth.Summary

namespace FleetHealth.Inspector

/-- The text with blanks up to a width. A longer text is not cut. -/
def pad (width : Nat) (s : String) : String :=
  s ++ String.ofList (List.replicate (width - s.length) ' ')

def row (widths : List Nat) (cells : List String) : String :=
  " ".intercalate (List.zipWith pad widths cells) ++ "\n"

def table {α : Type} (widths : List Nat) (heads : List String) (cells : α → List String)
    (as : List α) : String :=
  String.join (row widths heads :: as.map fun a => row widths (cells a))

def selectorCell (s : PolicySummary) : String := if s.selector.isEmpty then "<all>" else s.selector

def policyCells (s : PolicySummary) : List String :=
  [s.name, selectorCell s, toString s.rules.length]

def policyTable (showNamespace : Bool) (policies : List PolicySummary) : String :=
  if showNamespace then
    table [25, 30, 40, 6] ["NAMESPACE", "NAME", "SELECTOR", "RULES"]
      (fun s => s.ns :: policyCells s) policies
  else table [30, 40, 6] ["NAME", "SELECTOR", "RULES"] policyCells policies

def recheckCell (seconds : Nat) : String := if seconds = 0 then "-" else toString seconds ++ "s"

def reportCells (r : TargetReport) : List String := [
  r.machine, r.node.getD "<none>", if r.unhealthy then "No" else "Yes",
  recheckCell r.recheckSeconds, r.plannedAction.getD "-"]

def reportTable (reports : List TargetReport) : String :=
  table [40, 30, 10, 10, 10] ["MACHINE", "NODE", "HEALTHY", "RECHECK", "ACTION"] reportCells reports

end FleetHealth.Inspector
