import FleetHealth.Proofs.Accounting

namespace FleetHealth

open ClusterObject

structure Refresh (σ : Type) where
  state : σ
  ns : Option String

namespace Refresh

variable {σ : Type}

def listMachines (s : Store (StateM σ)) (r : Refresh σ) : Except Failure (List Machine) × σ :=
  (s.machines.list r.ns .everything).run r.state

def machines (s : Store (StateM σ)) (r : Refresh σ) : Except Failure (List Machine) :=
  (r.listMachines s).1

def machineSets (s : Store (StateM σ)) (r : Refresh σ) : Except Failure (List MachineSet) :=
  ((s.machineSets.list r.ns .everything).run (r.listMachines s).2).1

end Refresh

section Listings

variable {α : Type}

/-- What was listed last. As long as no listing has succeeded, that is nothing. -/
def lastListed (listings : List (Except Failure (List α))) : List α :=
  (listings.filterMap Except.toOption).getLast?.getD []

theorem lastListed_concat_ok (listings : List (Except Failure (List α))) (as : List α) :
    lastListed (listings ++ [.ok as]) = as := by
  rw [lastListed, List.filterMap_append]
  exact congrArg (·.getD []) (List.getLast?_append_of_ne_nil _ (List.cons_ne_nil as []))

theorem lastListed_concat_error (listings : List (Except Failure (List α))) (f : Failure) :
    lastListed (listings ++ [.error f]) = lastListed listings := by
  have same : (listings ++ [Except.error f]).filterMap Except.toOption =
      listings.filterMap Except.toOption := by
    rw [List.filterMap_append]
    exact List.append_nil _
  rw [lastListed, same, ← lastListed]

def failures (listings : List (Except Failure (List α))) : Nat := listings.countP (!·.isOk)

@[simp] theorem failures_ok (as : List α) : failures [.ok as] = 0 := rfl

@[simp] theorem failures_error (f : Failure) : failures [(.error f : Except _ (List α))] = 1 := rfl

theorem failures_concat (listings : List (Except Failure (List α)))
    (listing : Except Failure (List α)) :
    failures (listings ++ [listing]) = failures listings + failures [listing] :=
  List.countP_append

end Listings

namespace Series

variable {α : Type} {labels : α → List String} {value? : α → Option Int} {as : List α}

/-- Series that are those of some objects: one for each labels that an object with a value has. Of
several objects with the same labels the last one counts. -/
def Tells (series : Series) (labels : α → List String) (value? : α → Option Int) (as : List α) :
    Prop :=
  ∀ own, series.get? own = ((as.filter fun a => labels a = own).filterMap value?).getLast?

theorem tells_ofList (labels : α → List String) (value? : α → Option Int) (as : List α) :
    (ofList (as.filterMap fun a => (value? a).map fun v => (labels a, v))).Tells labels value?
      as := by
  intro own
  -- to keep the series of some labels is to keep the objects that have them
  rw [ofList, Table.get?_ofList, List.filter_filterMap, List.map_filterMap, List.filterMap_filter]
  apply congrArg List.getLast?
  apply List.filterMap_congr
  intro a _
  by_cases same : labels a = own <;> cases value? a <;> simp [same]

end Series

namespace Metrics

/-- A machine without a name goes by the beginning of one, and what it does not have is empty. -/
structure MachineInventory (machines : List Machine) (m : Metrics) : Prop where
  items : m.machineItems = machines.length
  created : m.machineCreated.Tells
    (fun machine => [(machine.metadata.name <|> machine.metadata.generateName).getD "",
      machine.metadata.ns.getD "", machine.providerID.getD "",
      ((machine.status.bind (·.nodeRef)).map (·.name)).getD "", "machine.openshift.io/v1beta1"])
    (·.metadata.created.map (·.seconds)) machines

/-- One replica count of each machine set, zero as long as there is no status. -/
def TellsReplicas (series : Series) (count : MachineSetStatus → Int) (sets : List MachineSet) :
    Prop :=
  series.Tells
    (fun s => [(s.metadata.name <|> s.metadata.generateName).getD "", s.metadata.ns.getD ""])
    (fun s => some (s.status.elim 0 count)) sets

structure MachineSetInventory (sets : List MachineSet) (m : Metrics) : Prop where
  items : m.machineSetItems = sets.length
  created : m.machineSetCreated.Tells
    (fun s => [(s.metadata.name <|> s.metadata.generateName).getD "", s.metadata.ns.getD "",
      "machine.openshift.io/v1beta1"])
    (·.metadata.created.map (·.seconds)) sets
  available : TellsReplicas m.machineSetAvailable (·.availableReplicas) sets
  ready : TellsReplicas m.machineSetReady (·.readyReplicas) sets
  replicas : TellsReplicas m.machineSetReplicas (·.replicas) sets

structure Inventory (listings : List (Except Failure (List Machine)))
    (setListings : List (Except Failure (List MachineSet))) (m : Metrics) : Prop where
  machines : MachineInventory (lastListed listings) m
  machineSets : MachineSetInventory (lastListed setListings) m
  machineFailures : m.scrapeFailures.count ["mapi_machine_items"] = failures listings
  machineSetFailures : m.scrapeFailures.count ["mapi_machineset_items"] = failures setListings

theorem inventory_initial : Inventory [] [] .initial where
  machines := ⟨rfl, fun _ => rfl⟩
  machineSets := ⟨rfl, fun _ => rfl, fun _ => rfl, fun _ => rfl, fun _ => rfl⟩
  machineFailures := rfl
  machineSetFailures := rfl

theorem tells_createdSeries {α : Type} [ClusterObject α] (labels : α → List String) (as : List α) :
    (createdSeries labels as).Tells labels (fun a => (metadata a).created.map (·.seconds)) as := by
  have seconds := Series.tells_ofList labels (fun a => (metadata a).created.map (·.seconds)) as
  simpa only [Option.map_map, Function.comp_def, createdSeries] using seconds

theorem getD_nodeName? (machine : Machine) :
    machine.nodeName?.getD "" = ((machine.status.bind (·.nodeRef)).map (·.name)).getD "" := by
  cases found : machine.status.bind (·.nodeRef) with
  | none => simp [Machine.nodeName?, Option.bind_eq_bind, ← Option.bind_assoc, found]
  | some ref =>
    by_cases empty : ref.name = "" <;>
      simp [Machine.nodeName?, Option.bind_eq_bind, ← Option.bind_assoc, found, empty]

theorem machineLabels_eq : machineLabels = fun machine =>
    [(machine.metadata.name <|> machine.metadata.generateName).getD "",
      machine.metadata.ns.getD "", machine.providerID.getD "",
      ((machine.status.bind (·.nodeRef)).map (·.name)).getD "", "machine.openshift.io/v1beta1"] := by
  have version : Machine.kind.apiVersion = "machine.openshift.io/v1beta1" := by decide
  funext machine
  rw [machineLabels, getD_nodeName?, version]
  rfl

theorem machineSetLabels_eq : machineSetLabels = fun s =>
    [(s.metadata.name <|> s.metadata.generateName).getD "", s.metadata.ns.getD ""] := rfl

theorem tellsReplicas_replicaSeries (count : MachineSetStatus → Int) (zero : count .blank = 0)
    (sets : List MachineSet) : TellsReplicas (replicaSeries count sets) count sets := by
  have counts : ∀ s : MachineSet, count s.replicaStatus = s.status.elim 0 count := by
    intro s
    rw [MachineSet.replicaStatus]
    cases s.status with
    | none => exact zero
    | some status => rfl
  have told := Series.tells_ofList machineSetLabels (fun s => some (s.status.elim 0 count)) sets
  rw [TellsReplicas, ← machineSetLabels_eq]
  simpa [replicaSeries, counts] using told

variable {m : Metrics}

theorem MachineInventory.refreshMachines {listings : List (Except Failure (List Machine))}
    (h : MachineInventory (lastListed listings) m) (listing : Except Failure (List Machine)) :
    MachineInventory (lastListed (listings ++ [listing])) (m.refreshMachines listing) := by
  cases listing with
  | error f =>
    rw [lastListed_concat_error]
    exact ⟨h.items, h.created⟩
  | ok machines =>
    have told := tells_createdSeries machineLabels machines
    rw [lastListed_concat_ok]
    refine ⟨rfl, ?_⟩
    rw [← machineLabels_eq]
    exact told

theorem MachineInventory.refreshMachineSets {machines : List Machine}
    (h : MachineInventory machines m) (listing : Except Failure (List MachineSet)) :
    MachineInventory machines (m.refreshMachineSets listing) := by
  cases listing with
  | error f => exact ⟨h.items, h.created⟩
  | ok sets => exact ⟨h.items, h.created⟩

theorem MachineSetInventory.refreshMachineSets {listings : List (Except Failure (List MachineSet))}
    (h : MachineSetInventory (lastListed listings) m)
    (listing : Except Failure (List MachineSet)) :
    MachineSetInventory (lastListed (listings ++ [listing])) (m.refreshMachineSets listing) := by
  cases listing with
  | error f =>
    rw [lastListed_concat_error]
    exact ⟨h.items, h.created, h.available, h.ready, h.replicas⟩
  | ok sets =>
    have version : MachineSet.kind.apiVersion = "machine.openshift.io/v1beta1" := by decide
    have told := tells_createdSeries (fun s => machineSetLabels s ++ [MachineSet.kind.apiVersion])
      sets
    rw [lastListed_concat_ok]
    refine ⟨rfl, ?_, tellsReplicas_replicaSeries _ rfl sets, tellsReplicas_replicaSeries _ rfl sets,
      tellsReplicas_replicaSeries _ rfl sets⟩
    rw [version] at told
    exact told

theorem MachineSetInventory.refreshMachines {sets : List MachineSet}
    (h : MachineSetInventory sets m) (listing : Except Failure (List Machine)) :
    MachineSetInventory sets (m.refreshMachines listing) := by
  cases listing with
  | error f => exact ⟨h.items, h.created, h.available, h.ready, h.replicas⟩
  | ok machines => exact ⟨h.items, h.created, h.available, h.ready, h.replicas⟩

theorem count_refreshMachines (m : Metrics) (listing : Except Failure (List Machine))
    (kind : String) :
    (m.refreshMachines listing).scrapeFailures.count [kind] =
      m.scrapeFailures.count [kind] +
        if kind = "mapi_machine_items" then (failures [listing] : Int) else 0 := by
  cases listing with
  | error f => simp [refreshMachines, countFailure, Series.count_increment]
  | ok machines => simp [refreshMachines]

theorem count_refreshMachineSets (m : Metrics) (listing : Except Failure (List MachineSet))
    (kind : String) :
    (m.refreshMachineSets listing).scrapeFailures.count [kind] =
      m.scrapeFailures.count [kind] +
        if kind = "mapi_machineset_items" then (failures [listing] : Int) else 0 := by
  cases listing with
  | error f => simp [refreshMachineSets, countFailure, Series.count_increment]
  | ok sets => simp [refreshMachineSets]

theorem Inventory.refresh {listings : List (Except Failure (List Machine))}
    {setListings : List (Except Failure (List MachineSet))} (h : Inventory listings setListings m)
    (listing : Except Failure (List Machine)) (setListing : Except Failure (List MachineSet)) :
    Inventory (listings ++ [listing]) (setListings ++ [setListing])
      ((m.refreshMachines listing).refreshMachineSets setListing) where
  machines := (h.machines.refreshMachines listing).refreshMachineSets setListing
  machineSets := (h.machineSets.refreshMachines listing).refreshMachineSets setListing
  machineFailures := by
    rw [count_refreshMachineSets, count_refreshMachines, h.machineFailures, failures_concat]
    simp
  machineSetFailures := by
    rw [count_refreshMachineSets, count_refreshMachines, h.machineSetFailures, failures_concat]
    simp

variable {σ : Type}

def afterRefreshes (s : Store (StateM σ)) (rs : List (Refresh σ)) : Metrics :=
  rs.foldl (fun m r => ((s.refreshInventory r.ns m).run r.state).1) .initial

theorem run_refreshInventory (s : Store (StateM σ)) (r : Refresh σ) (m : Metrics) :
    ((s.refreshInventory r.ns m).run r.state).1 =
      (m.refreshMachines (r.machines s)).refreshMachineSets (r.machineSets s) := rfl

/-- After any refreshes, over a store that may be like anything at each of them, the inventory of
each kind is told by the listings of that kind. -/
theorem afterRefreshes_inventory (s : Store (StateM σ)) (rs : List (Refresh σ)) :
    Inventory (rs.map (·.machines s)) (rs.map (·.machineSets s)) (afterRefreshes s rs) := by
  induction rs using List.reverseRecOn with
  | nil => exact inventory_initial
  | append_singleton rs r ih =>
    rw [afterRefreshes, List.foldl_concat, ← afterRefreshes, run_refreshInventory, List.map_append,
      List.map_append]
    exact ih.refresh _ _

section Sample

open Cluster.Sample

def createdMachine (m : Machine) (created : Instant) : Machine :=
  { m with metadata := { m.metadata with created := some created } }

def machineSet (name : String) (status : Option MachineSetStatus) : MachineSet where
  metadata := metadata (some "fleet") name
  replicas := none
  minReadySeconds := none
  deletePolicy := none
  selector := default
  template := none
  status := status

def sampleRefreshes : List (Refresh Cluster) :=
  let worker := createdMachine worker ⟨1700000000, 0, by decide⟩
  let master := createdMachine master ⟨1600000000, 0, by decide⟩
  let full := machineSet "full" (some { MachineSetStatus.blank with replicas := 3 })
  let idle := machineSet "idle" none
  let first := Cluster.ofLists [] [worker, master] [full] []
  let second := Cluster.ofLists [] [worker, fresh] [full] []
  let third := Cluster.ofLists [] [] [idle] []
  [⟨first, none⟩, ⟨second.setFault .down .machineSets, some "fleet"⟩,
    ⟨third.setFault .down .machines, none⟩]

def sampleInventory : Metrics := afterRefreshes Cluster.store sampleRefreshes

/-- The machines are those of the second listing and the machine sets those of the third. -/
theorem sampleRefreshes_inventory :
    (sampleInventory.machineItems = 2 ∧
      sampleInventory.machineCreated.get?
        ["worker", "fleet", "", "n1", "machine.openshift.io/v1beta1"] = some 1700000000 ∧
      sampleInventory.machineCreated.get?
        ["fresh", "fleet", "", "", "machine.openshift.io/v1beta1"] = none ∧
      sampleInventory.machineCreated.get?
        ["master", "fleet", "", "n0", "machine.openshift.io/v1beta1"] = none ∧
      sampleInventory.scrapeFailures.count ["mapi_machine_items"] = 1) ∧
    sampleInventory.machineSetItems = 1 ∧
      sampleInventory.machineSetReplicas.get? ["idle", "fleet"] = some 0 ∧
      sampleInventory.machineSetReplicas.get? ["full", "fleet"] = none ∧
      sampleInventory.machineSetCreated.get?
        ["idle", "fleet", "machine.openshift.io/v1beta1"] = none ∧
      sampleInventory.scrapeFailures.count ["mapi_machineset_items"] = 1 := by
  obtain ⟨machines, sets, failures, setFailures⟩ :=
    afterRefreshes_inventory Cluster.store sampleRefreshes
  refine ⟨⟨?_, ?_, ?_, ?_, ?_⟩, ?_, ?_, ?_, ?_, ?_⟩
  · exact machines.items.trans (by decide)
  · exact (machines.created _).trans (by decide)
  · exact (machines.created _).trans (by decide)
  · exact (machines.created _).trans (by decide)
  · exact failures.trans (by decide)
  · exact sets.items.trans (by decide)
  · exact (sets.replicas _).trans (by decide)
  · exact (sets.replicas _).trans (by decide)
  · exact (sets.created _).trans (by decide)
  · exact setFailures.trans (by decide)

end Sample

end Metrics

end FleetHealth
