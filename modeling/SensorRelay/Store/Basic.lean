import SensorRelay.Number.Binary64
import SensorRelay.Time.Timestamp

/-!
# The tables

Sections contain modules, modules contain sensors and sensors have records. Each table is a
list in the order of insertion, and a row's id is its place in it, counted from 1. A record
keeps the wall clock of its sample, without an offset.
-/

namespace SensorRelay

/-- A section of the installation. -/
structure SectionRow where
  id : Nat
  name : String
deriving DecidableEq

/-- A module of a section. -/
structure ModuleRow where
  id : Nat
  name : String
  sectionId : Nat
deriving DecidableEq

/-- A sensor of a module, with the topic its samples arrive on. -/
structure SensorRow where
  id : Nat
  name : String
  moduleId : Nat
  topic : String
deriving DecidableEq

/-- A stored sample of a sensor. -/
structure RecordRow where
  id : Nat
  sensorId : Nat
  value : Binary64
  wall : WallClock
deriving DecidableEq

/-- The four tables. -/
structure Store where
  sections : List SectionRow
  modules : List ModuleRow
  sensors : List SensorRow
  records : List RecordRow
deriving DecidableEq

namespace Store

/-- No rows. -/
def empty : Store := ⟨[], [], [], []⟩

/-! ## Rows by id -/

/-- The section with this id. -/
def sectionById? (s : Store) (id : Int) : Option SectionRow :=
  s.sections.find? fun r => (r.id : Int) = id

/-- The module with this id. -/
def moduleById? (s : Store) (id : Int) : Option ModuleRow :=
  s.modules.find? fun r => (r.id : Int) = id

/-- The sensor with this id. -/
def sensorById? (s : Store) (id : Int) : Option SensorRow :=
  s.sensors.find? fun r => (r.id : Int) = id

end Store
end SensorRelay
