import SensorRelay.Inventory.Basic
import SensorRelay.Pipeline.Effect
import SensorRelay.Pipeline.Result
import SensorRelay.Sample.Intermediate

/-!
# Stage handlers

The raw stage turns raw payloads into intermediate ones and publishes them under the processed
stage; the store stage turns intermediate payloads into records, for which a `Lookup` tells the
sensor. Whatever happens to a message is told by its result: handling itself does not fail.
-/

namespace SensorRelay

/-- A message from the broker. -/
structure Message where
  topic : String
  payload : Bytes
deriving DecidableEq

/-! ## Looking up sensors -/

/-- How the sensor of a remainder is found: by its topic in the database, or by its path in
what has been reconciled. -/
inductive Lookup where
  | byTopic
  | byResolution (r : Resolution)

/-- A sensor that is not known. -/
def unknownSensor (message : String) : Failure :=
  .pipeline ⟨.unknownSensor, message, []⟩

/-- The id of the sensor with this remainder. -/
def Lookup.resolve (lookup : Lookup) (remainder : String) : Program storeInterface Int :=
  match lookup with
  | .byTopic => .ask (.sensorByTopic remainder) fun r =>
    match (r : Except Failure (Option SensorRow)) with
    | .error f => .raise f
    | .ok (some sensor) => .done sensor.id
    | .ok none => .raise (unknownSensor ("sensor not found for topic " ++ Text.quoted remainder))
  | .byResolution r =>
    match SensorPath.ofRemainder? remainder with
    | .error e => .raise (.pipeline e)
    | .ok path =>
      match r.idFor? path with
      | some id => .done id
      | none =>
        .raise (unknownSensor ("no reconciled sensor for " ++ Text.quoted remainder))

/-! ## Handlers -/

/-- A stage handler. The raw stage knows where to publish, how long to wait for the broker and
the unit of raw timestamps; the store stage knows its stage, which is empty for bare topics. -/
inductive Handler where
  | raw (processed : String) (timeout : Binary64) (unit : String)
  | store (stage : String) (lookup : Lookup)

namespace Handler

/-- The name of the handler in results. -/
def name : Handler → String
  | raw _ _ _ => "raw"
  | store stage _ => if stage.isEmpty then "bare" else "store"

/-- The stage whose topics the handler takes. -/
def stage : Handler → String
  | raw _ _ _ => rawStage
  | store stage _ => stage

/-- The result as it stands, with the failure that ended the work if there is one. -/
abbrev Progress := HandlerResult × Option Failure

/-- Publishes the intermediate form of a raw payload. -/
def republish (processed : String) (timeout : Binary64) (unit : String) (r : HandlerResult)
    (remainder : String) (payload : Bytes) : Pipeline Progress :=
  match RawSample.decodeNamed unit payload with
  | .error f => .done (r, some f)
  | .ok reading =>
    let r := (r.push .decoded).push .transformed
    let next := stageTopic processed remainder
    .ask (Effect.publish next reading.widen.encode timeout) fun reply =>
      match reply with
      | .error f => .done (r, some f)
      | .ok _ => .done ({ r with nextTopic := some next }.push .republished, none)

/-- Stores the sample of an intermediate payload for a sensor. -/
def persist (r : HandlerResult) (sensorId : Int) (s : Sample) : Pipeline Progress :=
  .ask (Effect.store (.insertRecord (some sensorId) (.double s.value) (some s.timestamp)))
    fun reply =>
      match (reply : Except Failure (Option RecordRow)) with
      | .error f => .done (r, some f)
      | .ok none => .done (r, some .missingRow)
      | .ok (some row) => .done ({ r with recordId := some row.id }.push .persisted, none)

/-- Stores an intermediate payload. -/
def record (lookup : Lookup) (r : HandlerResult) (remainder : String) (payload : Bytes) :
    Pipeline Progress :=
  match Sample.decode payload with
  | .error e => .done (r, some (.pipeline e))
  | .ok s => do
    let r := r.push .decoded
    match ← (Pipeline.ofStore (lookup.resolve remainder)).attempt with
    | .error f => .done (r, some f)
    | .ok id => persist (r.push .transformed) id s

/-- What the handler does with a message of its stage. -/
def work (h : Handler) (r : HandlerResult) (remainder : String) (payload : Bytes) :
    Pipeline Progress :=
  match h with
  | raw processed timeout unit => republish processed timeout unit r remainder payload
  | store _ lookup => record lookup r remainder payload

/-- The result once the work has ended: acknowledged, or failed with the error. -/
def conclude : Progress → HandlerResult
  | (r, none) => r.push .acked
  | (r, some f) => { r with error := some f.asPipelineError }.push .failed

/-- Handles a message; one of another stage is ignored. -/
def handle (h : Handler) (m : Message) : Pipeline HandlerResult :=
  let r := HandlerResult.received m.topic h.name
  match remainder? h.stage m.topic with
  | none => .done (r.push .ignored)
  | some remainder => do
    return conclude (← h.work (r.push .matched) remainder m.payload)

end Handler
end SensorRelay
