import SensorRelay.Inventory.Basic
import SensorRelay.Store.Gateway

/-!
# Reconciliation

Reconciling an inventory creates what is missing of the hierarchy it declares. For each
descriptor in turn the section, the module and the sensor are looked up and, if absent,
inserted (`findOrCreate`). Another process may insert the same row between the two; the broken
uniqueness rule then tells to look again. Any other failure ends the run.
-/

namespace SensorRelay

/-- Looks for something, makes it if it is absent, and looks again if someone else has made
it in between. -/
def findOrCreate {I : Interface} {α : Type} (what : String) (find : Program I (Option α))
    (create : Program I α) : Program I α := do
  match ← find with
  | some a => return a
  | none =>
    match ← create.attempt with
    | .ok a => return a
    | .error f =>
      if f.isDuplicateKey then
        match ← find with
        | some a => return a
        | none =>
          .raise (.storage (what ++ ": duplicate key on insert but not found on re-read"))
      else .raise f

/-- The row that an insert has made. -/
def created {I : Interface} {α : Type} (insert : Program I (Option α)) : Program I α := do
  match ← insert with
  | some row => return row
  | none => .raise .missingRow

/-- The section of this name. -/
def resolveSection (name : String) : Program storeInterface SectionRow :=
  findOrCreate ("section " ++ Text.quoted name)
    (StoreCall.ask (.sectionByName name))
    (created (StoreCall.ask (.insertSection (some name))))

/-- The module of this name in a section. -/
def resolveModule (parent : SectionRow) (name : String) : Program storeInterface ModuleRow :=
  findOrCreate ("module " ++ parent.name ++ "/" ++ name)
    (StoreCall.ask (.moduleByName name parent.name))
    (created (StoreCall.ask (.insertModule (some name) (some (parent.id : Int)))))

/-- The sensor of this name in a module of a section. Its topic is fixed when it is made. -/
def resolveSensor (parent : ModuleRow) (top : SectionRow) (name : String) :
    Program storeInterface SensorRow :=
  findOrCreate ("sensor " ++ top.name ++ "/" ++ parent.name ++ "/" ++ name)
    (StoreCall.ask (.sensorByPath ⟨top.name, parent.name, name⟩))
    (created (StoreCall.ask (.insertSensor (some name) (some (parent.id : Int))
      (some (sensorTopic top.name parent.name name)))))

/-- The sensor at a path. -/
def resolvePath (path : SensorPath) : Program storeInterface SensorRow := do
  let top ← resolveSection path.sectionName
  let parent ← resolveModule top path.moduleName
  resolveSensor parent top path.sensorName

/-- Resolves descriptors in turn, adding to what is already resolved. -/
def reconcileFrom (r : Resolution) : List Descriptor → Program storeInterface Resolution
  | [] => .done r
  | d :: ds => do
    let sensor ← resolvePath d.path
    reconcileFrom (r.insert d.path sensor.id) ds

/-- Creates what is missing and tells the ids of all declared sensors. -/
def reconcile (descriptors : List Descriptor) : Program storeInterface Resolution :=
  reconcileFrom Resolution.empty descriptors

end SensorRelay
