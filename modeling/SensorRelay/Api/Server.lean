import SensorRelay.Api.Request
import SensorRelay.Json.Basic
import SensorRelay.Store.Gateway

/-!
# The read interface

The interface answers questions about the hierarchy, the records of a sensor and the state of
the process. `serve` turns a request into a program over the database; a failure of the
database becomes an internal error.
-/

namespace SensorRelay.Api

/-! ## Responses -/

/-- What a response holds. -/
inductive Body where
  | nothing
  | internalError
  | status (word : String)
  | detail (text : String)
  | problems (ps : List ParamProblem)
  | sections (trees : List SectionTree)
  | oneSection (tree : SectionTree)
  | oneModule (tree : ModuleTree)
  | oneSensor (row : SensorRow) (records : List RecordRow)
  | topics (names : List String)

/-- A response. -/
structure Response where
  code : Nat
  body : Body

/-- The value of a sensor; `insertedAt` is the time at which its row was made. -/
def sensorFields (insertedAt : String) (x : SensorRow) : List (String × Json) :=
  [("id", .int x.id), ("name", .str x.name), ("module_id", .int x.moduleId),
    ("topic", .str x.topic), ("created_at", .str insertedAt)]

/-- The value of a module. -/
def moduleJson (insertedAt : String) (m : ModuleTree) : Json :=
  .obj [("id", .int m.row.id), ("name", .str m.row.name), ("section_id", .int m.row.sectionId),
    ("sensors", .arr (m.sensors.map fun x => .obj (sensorFields insertedAt x)))]

/-- The value of a section. -/
def sectionJson (insertedAt : String) (t : SectionTree) : Json :=
  .obj [("id", .int t.row.id), ("name", .str t.row.name),
    ("modules", .arr (t.modules.map (moduleJson insertedAt)))]

/-- The value of a record. -/
def recordJson (r : RecordRow) : Json :=
  .obj [("id", .int r.id), ("value", .double r.value),
    ("created_at", .str (Timestamp.iso ⟨r.wall, none⟩))]

/-- The value of a faulty parameter. -/
def problemJson (p : ParamProblem) : Json :=
  .obj [("loc", .arr [.str (if p.inPath then "path" else "query"), .str p.name]),
    ("type", .str p.fault.label)]

/-- The JSON of a response that has one. -/
def Body.json? (insertedAt : String) : Body → Option Json
  | .nothing | .internalError => none
  | .status word => some (.obj [("status", .str word)])
  | .detail text => some (.obj [("detail", .str text)])
  | .problems ps => some (.obj [("detail", .arr (ps.map problemJson))])
  | .sections trees => some (.arr (trees.map (sectionJson insertedAt)))
  | .oneSection tree => some (sectionJson insertedAt tree)
  | .oneModule tree => some (moduleJson insertedAt tree)
  | .oneSensor row records =>
    some (.obj (sensorFields insertedAt row ++ [("records", .arr (records.map recordJson))]))
  | .topics names => some (.obj [("topics", .arr (names.map .str))])

/-- The text of a response without JSON. -/
def Body.text : Body → String
  | .internalError => "Internal Server Error"
  | _ => ""

/-! ## Resources -/

/-- A list that the database must give. -/
def listed {α : Type} (p : Program storeInterface (Option α)) : Program storeInterface α := do
  match ← p with
  | some a => return a
  | none => .raise .missingRow

/-- The answer about something that may not exist. -/
def foundOr (missing : String) {α : Type} (body : α → Body)
    (p : Program storeInterface (Option α)) : Program storeInterface Response := do
  match ← p with
  | some a => return ⟨200, body a⟩
  | none => return ⟨404, .detail missing⟩

/-- The parameters were refused. -/
def refused (ps : List ParamProblem) : Program storeInterface Response :=
  .done ⟨422, .problems ps⟩

/-- Is the window the wrong way round? -/
def isReversed (earliest latest : Option Timestamp) : Bool :=
  match earliest, latest with
  | some a, some b => b.instant < a.instant
  | _, _ => false

/-- A sensor with its records in a window. -/
def sensorDetail (id : Int) (earliest latest : Option Timestamp) :
    Program storeInterface Response :=
  if isReversed earliest latest then .done ⟨422, .detail "since must be <= until"⟩
  else do
    match ← StoreCall.ask (.sensorById id) with
    | (none : Option SensorRow) => return ⟨404, .detail "sensor not found"⟩
    | some sensor =>
      let records ← listed (StoreCall.ask (.records id ⟨earliest, latest⟩))
      return ⟨200, .oneSensor sensor records⟩

/-- The answer about a resource. -/
def answerRoute (ready : Bool) (t : Target) : Route → Program storeInterface Response
  | .health => .done ⟨200, .status "ok"⟩
  | .readiness =>
    .done (if ready then ⟨200, .status "ready"⟩ else ⟨503, .detail "not ready"⟩)
  | .sections => do return ⟨200, .sections (← listed (StoreCall.ask .sectionTrees))⟩
  | .sectionOf text =>
    match readId "section_id" text with
    | .error ps => refused ps
    | .ok id => foundOr "section not found" .oneSection (StoreCall.ask (.sectionTree id))
  | .moduleOf text =>
    match readId "module_id" text with
    | .error ps => refused ps
    | .ok id => foundOr "module not found" .oneModule (StoreCall.ask (.moduleTree id))
  | .sensor text =>
    let id := readId "sensor_id" text
    let earliest := readBound t "since"
    let latest := readBound t "until"
    match id, earliest, latest with
    | .ok id, .ok earliest, .ok latest => sensorDetail id earliest latest
    | _, _, _ => refused (faultsOf id ++ faultsOf earliest ++ faultsOf latest)
  | .topics => do return ⟨200, .topics (← listed (StoreCall.ask .topics))⟩

/-- The answer to a request. A path with slashes at its end leads to the resource without
them. -/
def answerRequest (ready : Bool) (method : String) (t : Target) :
    Program storeInterface Response :=
  match Route.of? t.path with
  | some route =>
    if method = "GET" then answerRoute ready t route
    else .done ⟨405, if method = "HEAD" then .nothing else .detail "Method Not Allowed"⟩
  | none =>
    if t.path.endsWith "/" && (Route.of? (withoutFinalSlashes t.path)).isSome then
      .done ⟨307, .nothing⟩
    else .done ⟨404, if method = "HEAD" then .nothing else .detail "Not Found"⟩

/-- The answer to a request, whatever happens to the database. -/
def serve (ready : Bool) (method : String) (t : Target) : Program storeInterface Response := do
  match ← (answerRequest ready method t).attempt with
  | .ok r => return r
  | .error _ => return ⟨500, if method = "HEAD" then .nothing else .internalError⟩

end SensorRelay.Api
