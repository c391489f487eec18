import FleetHealth.Inspector.Table
import FleetHealth.Json.Printer
import FleetHealth.Yaml.Printer

namespace FleetHealth.Inspector

inductive Format where
  | json
  | yaml
  | table
  deriving DecidableEq

/-- Every name but those of the two others is that of the table. -/
def Format.ofName : String → Format
  | "json" => json
  | "yaml" => yaml
  | _ => table

def render (format : Format) (values : List Json) (table : String) : String :=
  match format with
  | .json => (Json.arr values).indent
  | .yaml => Yaml.render (.arr values)
  | .table => table

def renderPolicies (format : Format) (showNamespace : Bool) (policies : List PolicySummary) :
    String :=
  render format (policies.map PolicySummary.write) (policyTable showNamespace policies)

def renderReports (format : Format) (reports : List TargetReport) : String :=
  render format (reports.map TargetReport.write) (reportTable reports)

end FleetHealth.Inspector
