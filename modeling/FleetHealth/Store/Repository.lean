import FleetHealth.Object.Machine
import FleetHealth.Object.MachineSet
import FleetHealth.Object.Node
import FleetHealth.Object.Policy

namespace FleetHealth

structure Repository (m : Type → Type) (α : Type) where
  get : Key → m (Except Failure (Option α))
  list : Option String → Selector → m (Except Failure (List α))
  /-- Writes back an object that was changed. It is refused if it was changed by others since. -/
  replace : α → m (Except Failure α)
  delete : Key → m (Except Failure Unit)

structure Store (m : Type → Type) where
  policies : Repository m Policy
  machines : Repository m Machine
  machineSets : Repository m MachineSet
  nodes : Repository m Node

end FleetHealth
