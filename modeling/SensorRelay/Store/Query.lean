import SensorRelay.Store.Basic
import SensorRelay.Topic

/-!
# Reading the tables

Rows are found by their names below their parents, by topic or by id. Records are selected by
a window of wall clocks, both ends included, and come in the order of their wall clocks, then
of their ids. The hierarchy is listed with the modules of each section and the sensors of each
module inside it.
-/

namespace SensorRelay

/-- A module with its sensors. -/
structure ModuleTree where
  row : ModuleRow
  sensors : List SensorRow

/-- A section with its modules. -/
structure SectionTree where
  row : SectionRow
  modules : List ModuleTree

namespace Store

variable (s : Store)

/-! ## By name -/

/-- The section of this name. -/
def sectionByName? (name : String) : Option SectionRow :=
  s.sections.find? fun r => r.name == name

/-- Does the module lie in a section of this name? -/
def inSection (m : ModuleRow) (sectionName : String) : Bool :=
  s.sections.any fun r => r.id == m.sectionId && r.name == sectionName

/-- The module of this name in the section of that name. -/
def moduleByName? (name sectionName : String) : Option ModuleRow :=
  s.modules.find? fun m => m.name == name && s.inSection m sectionName

/-- Does the sensor lie in a module of this name in a section of that name? -/
def inModule (x : SensorRow) (moduleName sectionName : String) : Bool :=
  s.modules.any fun m => m.id == x.moduleId && m.name == moduleName && s.inSection m sectionName

/-- The sensor with this path. -/
def sensorByPath? (path : SensorPath) : Option SensorRow :=
  s.sensors.find? fun x =>
    x.name == path.sensorName && s.inModule x path.moduleName path.sectionName

/-- The sensor with this topic; of several the one with the smallest id. -/
def sensorByTopic? (topic : String) : Option SensorRow :=
  s.sensors.find? fun x => x.topic == topic

/-- Every sensor with the section and the module that it lies in. -/
def placedSensors : List (SectionRow × ModuleRow × SensorRow) :=
  s.sensors.filterMap fun x => do
    let m ← s.moduleById? x.moduleId
    let r ← s.sectionById? m.sectionId
    return (r, m, x)

/-- The topics of all sensors. -/
def topics : List String :=
  s.sensors.map (·.topic)

/-! ## Records -/

/-- A window of time; either end may be open. Only the wall clocks of the ends count. -/
structure Window where
  earliest : Option Timestamp
  latest : Option Timestamp

/-- All of time. -/
def Window.all : Window := ⟨none, none⟩

/-- Does the window hold the wall clock? -/
def Window.holds (w : Window) (wall : WallClock) : Bool :=
  w.earliest.all (fun t => t.wall.micros ≤ wall.micros)
    && w.latest.all (fun t => wall.micros ≤ t.wall.micros)

/-- The order in which records are listed. -/
def recordLe (a b : RecordRow) : Bool :=
  a.wall.micros < b.wall.micros || (a.wall.micros == b.wall.micros && a.id ≤ b.id)

/-- The records of a sensor in a window. -/
def recordsOf (sensorId : Int) (w : Window) : List RecordRow :=
  (s.records.filter fun r => (r.sensorId : Int) == sensorId && w.holds r.wall).mergeSort recordLe

/-! ## The hierarchy -/

/-- A module with its sensors. -/
def moduleTree (m : ModuleRow) : ModuleTree :=
  ⟨m, s.sensors.filter fun x => x.moduleId == m.id⟩

/-- A section with its modules. -/
def sectionTree (r : SectionRow) : SectionTree :=
  ⟨r, (s.modules.filter fun m => m.sectionId == r.id).map s.moduleTree⟩

/-- The order of sections in the listing: by name, character by character. -/
def sectionLe (a b : SectionRow) : Bool :=
  !(b.name < a.name)

/-- All sections in the order of their names. -/
def sectionTrees : List SectionTree :=
  (s.sections.mergeSort sectionLe).map s.sectionTree

end Store
end SensorRelay
