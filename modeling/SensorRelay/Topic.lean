import SensorRelay.Error
import SensorRelay.Text.Split

/-!
# Topics

Topics are paths with `/` between their segments. A stage reads the topics under its own
first segment: `raw`, or the processed segment of the deployment (`processed` or `clean`). A
bare topic is the path of a sensor itself, section, module and name, under no stage.

`Topic.remainder?` is the part of a topic that a stage works on, `stageTopic` puts it under
another stage, and `SensorPath` is a remainder taken apart.
-/

namespace SensorRelay

open Text

/-- The segments of a path. -/
def segments (path : String) : List String :=
  (splitOn '/' path.toList).map String.ofList

/-- The path with these segments. -/
def ofSegments (parts : List String) : String :=
  String.ofList (joinWith '/' (parts.map String.toList))

/-- The stage of raw payloads. -/
def rawStage : String := "raw"

/-- The usual stage of intermediate payloads. -/
def processedStage : String := "processed"

/-- The segments that belong to stages. -/
def stageNames : List String := [rawStage, processedStage, "clean"]

/-- Three segments, none of them empty. -/
def isSensorPath (path : String) : Bool :=
  let parts := segments path
  parts.length == 3 && parts.all fun p => !p.isEmpty

/-- The part of a topic below a stage; below the empty stage, a bare topic itself. -/
def remainder? (stage : String) (topic : String) : Option String :=
  if stage.isEmpty then
    if (segments topic).head?.any stageNames.contains then none
    else if isSensorPath topic then some topic else none
  else (dropLead? (stage.toList ++ ['/']) topic.toList).map String.ofList

/-- The place of a sensor in the hierarchy. -/
structure SensorPath where
  sectionName : String
  moduleName : String
  sensorName : String
deriving DecidableEq

/-- The topic of the sensor `name` of a module of a section. -/
def sensorTopic (sectionName moduleName name : String) : String :=
  ofSegments [sectionName, moduleName, name]

/-- Takes a remainder apart. -/
def SensorPath.ofRemainder? (remainder : String) : Except PipelineError SensorPath :=
  match segments remainder with
  | [s, m, n] =>
    if isSensorPath remainder then .ok ⟨s, m, n⟩ else .error (refusal remainder)
  | _ => .error (refusal remainder)
where
  /-- The complaint about a remainder of another form. -/
  refusal (remainder : String) : PipelineError :=
    ⟨.unknownSensor, "topic path is not section/module/sensor: " ++ quoted remainder, []⟩

/-- The topic of a sensor. -/
def SensorPath.topic (p : SensorPath) : String :=
  sensorTopic p.sectionName p.moduleName p.sensorName

/-- The topic of a remainder below a stage. -/
def stageTopic (stage remainder : String) : String :=
  if stage.isEmpty then remainder else stage ++ "/" ++ remainder

/-- The subscriptions of a process: the stages it reads, and bare topics if it takes them. -/
def subscriptionFilters (processed : String) (readsRaw readsProcessed readsBare : Bool) :
    List String :=
  (if readsRaw then [rawStage ++ "/#"] else [])
    ++ (if readsProcessed then [processed ++ "/#"] else [])
    ++ (if readsBare then ["+/+/+"] else [])

/-- Does a filter cover the levels of a topic? A `+` stands for one level, a final `#` for
any number. -/
def filterCovers : List String → List String → Bool
  | ["#"], _ => true
  | f :: fs, t :: ts => (f == "+" || f == t) && filterCovers fs ts
  | [], [] => true
  | _, _ => false

/-- Does a subscription receive a topic? -/
def covers (filter topic : String) : Bool :=
  filterCovers (segments filter) (segments topic)

end SensorRelay
