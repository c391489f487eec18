import FleetHealth.Metrics

namespace FleetHealth.Metrics

inductive FamilyType where
  | counter
  | gauge

def FamilyType.text : FamilyType → String
  | counter => "counter"
  | gauge => "gauge"

/-- The samples of counters have a name of their own. -/
def FamilyType.suffix : FamilyType → String
  | counter => "_total"
  | gauge => ""

structure Family where
  name : String
  help : String
  type : FamilyType
  labels : List String
  series : Series

namespace Family

def labelText (labels values : List String) : String :=
  if labels.isEmpty then ""
  else
    "\x7b" ++ ",".intercalate (List.zipWith (fun l v => l ++ "=\"" ++ v ++ "\"") labels values)
      ++ "\x7d"

def sampleLines (f : Family) : List String :=
  f.series.toList.map fun (values, n) =>
    f.name ++ f.type.suffix ++ labelText f.labels values ++ " " ++ toString n

def lines (f : Family) : List String :=
  ("# HELP " ++ f.name ++ " " ++ f.help ++ ".") :: ("# TYPE " ++ f.name ++ " " ++ f.type.text)
    :: f.sampleLines

end Family

def single (n : Int) : Series := Series.ofList [([], n)]

def families (m : Metrics) : List Family := [
  { name := "mhc_remediations", help := "Remediation decisions taken for unhealthy machines"
    type := .counter, labels := ["namespace", "policy", "action"], series := m.remediations },
  { name := "mhc_targets"
    help := "Machines selected by a health check policy in its last pass"
    type := .gauge, labels := ["namespace", "policy"], series := m.targets },
  { name := "mhc_unhealthy_targets"
    help := "Machines found unhealthy by a health check policy in its last pass"
    type := .gauge, labels := ["namespace", "policy"], series := m.unhealthyTargets },
  { name := "mhc_reconcile_errors", help := "Failed reconcile passes per health check policy"
    type := .counter, labels := ["namespace", "policy"], series := m.reconcileErrors },
  { name := "mapi_machine_items_count"
    help := "Count of machine objects currently at the apiserver"
    type := .gauge, labels := [], series := single m.machineItems },
  { name := "mapi_machine_created"
    help := "Creation timestamp of each machine in seconds since the epoch"
    type := .gauge, labels := ["name", "namespace", "spec_provider_id", "node", "api_version"]
    series := m.machineCreated },
  { name := "mapi_machineset_items_count", help := "Count of machinesets at the apiserver"
    type := .gauge, labels := [], series := single m.machineSetItems },
  { name := "mapi_machineset_created"
    help := "Creation timestamp of each machineset in seconds since the epoch"
    type := .gauge, labels := ["name", "namespace", "api_version"], series := m.machineSetCreated },
  { name := "mapi_machine_set_status_available_replicas"
    help := "Available replicas reported in each machineset's status"
    type := .gauge, labels := ["name", "namespace"], series := m.machineSetAvailable },
  { name := "mapi_machine_set_status_ready_replicas"
    help := "Ready replicas reported in each machineset's status"
    type := .gauge, labels := ["name", "namespace"], series := m.machineSetReady },
  { name := "mapi_machine_set_status_replicas"
    help := "Replicas reported in each machineset's status"
    type := .gauge, labels := ["name", "namespace"], series := m.machineSetReplicas },
  { name := "mapi_scrape_failure"
    help := "Failures listing objects while collecting inventory metrics"
    type := .counter, labels := ["kind"], series := m.scrapeFailures }]

def ending : String := "# EOF"

def expose (m : Metrics) : String :=
  String.join ((m.families.flatMap Family.lines ++ [ending]).map (· ++ "\n"))

end FleetHealth.Metrics
