import SensorRelay.Bench.Environment
import SensorRelay.Inventory.Document
import SensorRelay.Reconcile

/-!
# Reconciling an inventory file

The inventory is read from its file and what is missing is made in the database. On demand the
resolved ids are then written back into the file; it is written only after everything else has
succeeded, so that a failure leaves it as it was.
-/

namespace SensorRelay

/-- An inventory with the ids that have been resolved for it. -/
structure Reconciled where
  inventory : Inventory
  resolution : Resolution

/-- Reads an inventory file and reconciles it. -/
def reconcileFile (path : String) (folder : Folder) (env : Environment) :
    Except Failure Reconciled × Environment :=
  match Inventory.load path (folder.read path) with
  | .error e => (.error (.inventory e), env)
  | .ok inventory =>
    match env.runStore (reconcile inventory.sensors) with
    | (.error f, env) => (.error f, env)
    | (.ok resolution, env) => (.ok ⟨inventory, resolution⟩, env)

/-- The files once the resolved ids are written back. -/
def Reconciled.writeBack (r : Reconciled) (path : String) (folder : Folder) :
    Except Failure Folder :=
  (r.inventory.withSensors (r.resolution.apply r.inventory.sensors)).dump path folder

end SensorRelay
