import SensorRelay.Topic

/-!
# The inventory

An inventory declares the sensors that should exist: a `Descriptor` names a sensor by its
path and may know its id. A `Resolution` tells the ids that the database has given to paths;
`Resolution.apply` writes them into descriptors.
-/

namespace SensorRelay

/-- The declared place of a sensor. -/
structure Descriptor where
  name : String
  id : Option Int
  sectionName : String
  moduleName : String
  typeCode : Int
deriving DecidableEq

namespace Descriptor

/-- The path that identifies the sensor. -/
def path (d : Descriptor) : SensorPath :=
  ⟨d.sectionName, d.moduleName, d.name⟩

/-- A descriptor has to name the sensor, its section and its module. -/
def isValid (d : Descriptor) : Bool :=
  !d.name.isEmpty && !d.sectionName.isEmpty && !d.moduleName.isEmpty

end Descriptor

/-- The declared sensors, in the order of the document. -/
structure Inventory where
  sensors : List Descriptor
deriving DecidableEq

namespace Inventory

/-- The id of the first descriptor of a path that has one. -/
def idFor? (inventory : Inventory) (path : SensorPath) : Option Int :=
  inventory.sensors.findSome? fun d => if d.path = path then d.id else none

/-- The id of a path; without one the sensor is unknown. -/
def idFor (inventory : Inventory) (path : SensorPath) : Except PipelineError Int :=
  match inventory.idFor? path with
  | some id => .ok id
  | none =>
    .error ⟨.unknownSensor, "no configured sensor for " ++ path.sectionName ++ "/"
      ++ path.moduleName ++ "/" ++ path.sensorName, []⟩

/-- The same document with other descriptors. -/
def withSensors (_ : Inventory) (sensors : List Descriptor) : Inventory :=
  ⟨sensors⟩

end Inventory

/-! ## Resolutions -/

/-- The ids of sensor paths, each path once, in the order in which they were first resolved. -/
structure Resolution where
  entries : List (SensorPath × Int)
deriving DecidableEq

namespace Resolution

/-- No path is resolved. -/
def empty : Resolution := ⟨[]⟩

/-- The id of a path. -/
def idFor? (r : Resolution) (path : SensorPath) : Option Int :=
  (r.entries.find? fun e => e.1 = path).map (·.2)

/-- Sets the id of the path in a list of entries, at its place or else at the end. -/
def setEntry (path : SensorPath) (id : Int) : List (SensorPath × Int) → List (SensorPath × Int)
  | [] => [(path, id)]
  | e :: es => if e.1 = path then (path, id) :: es else e :: setEntry path id es

/-- Resolves a path; an earlier id of it is replaced. -/
def insert (r : Resolution) (path : SensorPath) (id : Int) : Resolution :=
  ⟨setEntry path id r.entries⟩

/-- Resolves the paths of a list in turn. -/
def ofList (entries : List (SensorPath × Int)) : Resolution :=
  entries.foldl (fun r e => r.insert e.1 e.2) empty

/-- The number of paths. -/
def size (r : Resolution) : Nat := r.entries.length

/-- The descriptor with its id as resolved; one of another path stays as it is. -/
def applyTo (r : Resolution) (d : Descriptor) : Descriptor :=
  match r.idFor? d.path with
  | some id => { d with id := some id }
  | none => d

/-- The descriptors with their ids as resolved. -/
def apply (r : Resolution) (ds : List Descriptor) : List Descriptor :=
  ds.map r.applyTo

end Resolution
end SensorRelay
