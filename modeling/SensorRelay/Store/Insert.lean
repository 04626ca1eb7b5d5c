import SensorRelay.Sample.Raw
import SensorRelay.Store.Basic
import SensorRelay.Store.Violation

/-!
# Inserting rows

An insert appends one row with the next id, or leaves the tables as they are. It fails if a
column is empty, if a row with the same name exists under the same parent, or if the parent
does not exist. Numbers beyond 64 bits do not reach the database.
-/

namespace SensorRelay

/-- The refusal of a column without a value. -/
def emptyColumn (table column : String) : Failure :=
  constraintFailure ("NOT NULL constraint failed: " ++ table ++ "." ++ column)

/-- The refusal of a row that exists already. -/
def existingRow (columns : String) : Failure :=
  constraintFailure ("UNIQUE constraint failed: " ++ columns)

/-- The refusal of a row without parent. -/
def missingParent : Failure :=
  constraintFailure "FOREIGN KEY constraint failed"

/-- The refusal of a number that the database cannot hold. -/
def oversizedKey : Failure :=
  .overflow "Python int too large to convert to SQLite INTEGER"

/-- A number that the database can hold. -/
def checkKey (id : Int) : Except Failure Unit :=
  if fitsSigned 64 id then .ok () else .error oversizedKey

/-- The value of a column that must not be empty. -/
def required {α : Type} (table column : String) : Option α → Except Failure α
  | some a => .ok a
  | none => .error (emptyColumn table column)

namespace Store

/-- Adds a section. -/
def insertSection (s : Store) (name : String) : Except Failure (SectionRow × Store) :=
  if s.sections.any fun r => r.name == name then .error (existingRow "sections.name")
  else
    let row : SectionRow := ⟨s.sections.length + 1, name⟩
    .ok (row, { s with sections := s.sections ++ [row] })

/-- Adds a module to a section. -/
def insertModule (s : Store) (name : String) (sectionId : Int) :
    Except Failure (ModuleRow × Store) := do
  checkKey sectionId
  if s.modules.any fun r => r.name == name && (r.sectionId : Int) == sectionId then
    .error (existingRow "modules.name, modules.section_id")
  else match s.sectionById? sectionId with
    | none => .error missingParent
    | some parent =>
      let row : ModuleRow := ⟨s.modules.length + 1, name, parent.id⟩
      .ok (row, { s with modules := s.modules ++ [row] })

/-- Adds a sensor to a module. -/
def insertSensor (s : Store) (name : String) (moduleId : Int) (topic : String) :
    Except Failure (SensorRow × Store) := do
  checkKey moduleId
  if s.sensors.any fun r => r.name == name && (r.moduleId : Int) == moduleId then
    .error (existingRow "sensors.name, sensors.module_id")
  else match s.moduleById? moduleId with
    | none => .error missingParent
    | some parent =>
      let row : SensorRow := ⟨s.sensors.length + 1, name, parent.id, topic⟩
      .ok (row, { s with sensors := s.sensors ++ [row] })

/-- Adds a record to a sensor. A value that is not a number is no value, and the two zeros
are one. -/
def insertRecord (s : Store) (sensorId : Int) (value : Binary64) (wall : WallClock) :
    Except Failure (RecordRow × Store) := do
  checkKey sensorId
  if value.isNaN then .error (emptyColumn "records" "value")
  else match s.sensorById? sensorId with
    | none => .error missingParent
    | some parent =>
      let row : RecordRow := ⟨s.records.length + 1, parent.id, value.plusZero, wall⟩
      .ok (row, { s with records := s.records ++ [row] })

end Store
end SensorRelay
