import SensorRelay.Program
import SensorRelay.Store.Insert
import SensorRelay.Store.Query

/-!
# Requests to the database

A `StoreCall` is one request to the database, answered in one step: it reads, or it inserts
one row or nothing. `Database.answer` gives the replies of a working database, whose tables may
have been dropped. A reply of `none` stands for an absent row.
-/

namespace SensorRelay

/-- A request to the database. Columns of a row to insert may be left without a value. -/
inductive StoreCall where
  | insertSection (name : Option String)
  | insertModule (name : Option String) (sectionId : Option Int)
  | insertSensor (name : Option String) (moduleId : Option Int) (topic : Option String)
  | insertRecord (sensorId : Option Int) (value : Quantity) (createdAt : Option Timestamp)
  | sectionByName (name : String)
  | moduleByName (name sectionName : String)
  | sensorByTopic (topic : String)
  | sensorByPath (path : SensorPath)
  | sectionTrees
  | sectionTree (id : Int)
  | moduleTree (id : Int)
  | sensorById (id : Int)
  | records (sensorId : Int) (window : Store.Window)
  | topics

/-- What a request to the database is answered with. -/
def StoreCall.Reply : StoreCall → Type
  | .insertSection _ => Option SectionRow
  | .insertModule _ _ => Option ModuleRow
  | .insertSensor _ _ _ => Option SensorRow
  | .insertRecord _ _ _ => Option RecordRow
  | .sectionByName _ => Option SectionRow
  | .moduleByName _ _ => Option ModuleRow
  | .sensorByTopic _ => Option SensorRow
  | .sensorByPath _ => Option SensorRow
  | .sectionTrees => Option (List SectionTree)
  | .sectionTree _ => Option SectionTree
  | .moduleTree _ => Option ModuleTree
  | .sensorById _ => Option SensorRow
  | .records _ _ => Option (List RecordRow)
  | .topics => Option (List String)

/-- The reply that holds no row. -/
def StoreCall.absent : (c : StoreCall) → c.Reply
  | .insertSection _ => (none : Option SectionRow)
  | .insertModule _ _ => (none : Option ModuleRow)
  | .insertSensor _ _ _ => (none : Option SensorRow)
  | .insertRecord _ _ _ => (none : Option RecordRow)
  | .sectionByName _ => (none : Option SectionRow)
  | .moduleByName _ _ => (none : Option ModuleRow)
  | .sensorByTopic _ => (none : Option SensorRow)
  | .sensorByPath _ => (none : Option SensorRow)
  | .sectionTrees => (none : Option (List SectionTree))
  | .sectionTree _ => (none : Option SectionTree)
  | .moduleTree _ => (none : Option ModuleTree)
  | .sensorById _ => (none : Option SensorRow)
  | .records _ _ => (none : Option (List RecordRow))
  | .topics => (none : Option (List String))

/-- The requests to the database as an interface. -/
def storeInterface : Interface := ⟨StoreCall, StoreCall.Reply⟩

/-- Makes one request to the database. -/
def StoreCall.ask (c : StoreCall) : Program storeInterface c.Reply :=
  @Program.call storeInterface c

/-- The operation that a request asks for. -/
inductive StoreMethod where
  | insertSection | insertModule | insertSensor | insertRecord
  | sectionByName | moduleByName | sensorByTopic | sensorByPath
  | sectionTrees | sectionTree | moduleTree | sensorById | records | topics
deriving DecidableEq

/-- The operation of a request. -/
def StoreCall.method : StoreCall → StoreMethod
  | .insertSection _ => .insertSection
  | .insertModule _ _ => .insertModule
  | .insertSensor _ _ _ => .insertSensor
  | .insertRecord _ _ _ => .insertRecord
  | .sectionByName _ => .sectionByName
  | .moduleByName _ _ => .moduleByName
  | .sensorByTopic _ => .sensorByTopic
  | .sensorByPath _ => .sensorByPath
  | .sectionTrees => .sectionTrees
  | .sectionTree _ => .sectionTree
  | .moduleTree _ => .moduleTree
  | .sensorById _ => .sensorById
  | .records _ _ => .records
  | .topics => .topics

/-- The table that an operation works on. -/
def StoreMethod.table : StoreMethod → String
  | .insertSection | .sectionByName | .sectionTrees | .sectionTree => "sections"
  | .insertModule | .moduleByName | .moduleTree => "modules"
  | .insertSensor | .sensorByTopic | .sensorByPath | .sensorById | .topics => "sensors"
  | .insertRecord | .records => "records"

namespace Store

/-! ## Rows with empty columns -/

/-- Adds a section, if the columns have values. -/
def addSection (s : Store) (name : Option String) : Except Failure (SectionRow × Store) := do
  let name ← required "sections" "name" name
  s.insertSection name

/-- Adds a module, if the columns have values. -/
def addModule (s : Store) (name : Option String) (sectionId : Option Int) :
    Except Failure (ModuleRow × Store) := do
  sectionId.forM checkKey
  let name ← required "modules" "name" name
  let sectionId ← required "modules" "section_id" sectionId
  s.insertModule name sectionId

/-- Adds a sensor, if the columns have values. -/
def addSensor (s : Store) (name : Option String) (moduleId : Option Int)
    (topic : Option String) : Except Failure (SensorRow × Store) := do
  moduleId.forM checkKey
  let name ← required "sensors" "name" name
  let moduleId ← required "sensors" "module_id" moduleId
  let topic ← required "sensors" "topic" topic
  s.insertSensor name moduleId topic

/-- Adds a record, if the columns have values. -/
def addRecord (s : Store) (sensorId : Option Int) (value : Binary64)
    (createdAt : Option Timestamp) : Except Failure (RecordRow × Store) := do
  sensorId.forM checkKey
  if value.isNaN then .error (emptyColumn "records" "value")
  let sensorId ← required "records" "sensor_id" sensorId
  let createdAt ← required "records" "created_at" createdAt
  s.insertRecord sensorId value createdAt.wall

/-! ## Replies -/

/-- The reply to an insert: the new row and the new tables, or the failure and the old ones. -/
def inserted {α : Type} (s : Store) :
    Except Failure (α × Store) → Except Failure (Option α) × Store
  | .ok (row, s') => (.ok (some row), s')
  | .error f => (.error f, s)

/-- Looks for something by an id that the database can hold. -/
def byKey {α : Type} (s : Store) (id : Int) (a : α) : Except Failure α × Store :=
  (do checkKey id; return a, s)

/-- The reply of the tables to a request, and the tables afterwards. -/
def answer (c : StoreCall) (s : Store) : Except Failure c.Reply × Store :=
  match c with
  | .insertSection name => s.inserted (s.addSection name)
  | .insertModule name sectionId => s.inserted (s.addModule name sectionId)
  | .insertSensor name moduleId topic => s.inserted (s.addSensor name moduleId topic)
  | .insertRecord sensorId value createdAt =>
    s.inserted (do s.addRecord sensorId (← value.toBinary64) createdAt)
  | .sectionByName name => (.ok (s.sectionByName? name), s)
  | .moduleByName name sectionName => (.ok (s.moduleByName? name sectionName), s)
  | .sensorByTopic topic => (.ok (s.sensorByTopic? topic), s)
  | .sensorByPath path => (.ok (s.sensorByPath? path), s)
  | .sectionTrees => (.ok (some s.sectionTrees), s)
  | .sectionTree id => s.byKey id ((s.sectionById? id).map s.sectionTree)
  | .moduleTree id => s.byKey id ((s.moduleById? id).map s.moduleTree)
  | .sensorById id => s.byKey id (s.sensorById? id)
  | .records sensorId window => s.byKey sensorId (some (s.recordsOf sensorId window))
  | .topics => (.ok (some s.topics), s)

end Store

/-- A database: its tables, unless they have been dropped. -/
abbrev Database := Option Store

namespace Database

/-- The failure of a request to a database without tables. -/
def missingTable (c : StoreCall) : Failure :=
  .storage ("(sqlite3.OperationalError) no such table: " ++ c.method.table)

/-- What goes wrong with a request before it reaches the database. -/
def refusedArgument? : StoreCall → Option Failure
  | .insertRecord _ value _ =>
    match value.toBinary64 with
    | .error f => some f
    | .ok _ => none
  | _ => none

/-- The reply of a database to a request, and the database afterwards. -/
def answer (c : StoreCall) : Database → Except Failure c.Reply × Database
  | some s => let (r, s) := Store.answer c s; (r, some s)
  | none => (.error ((refusedArgument? c).getD (missingTable c)), none)

end Database
end SensorRelay
