import SensorRelay.Config.EnvFile
import SensorRelay.Number.Reading
import SensorRelay.DeadLetter.Sink
import SensorRelay.Mqtt.Receiver
import SensorRelay.Net.Authority
import SensorRelay.Simulator

/-!
# Settings

The settings of a process, read from its variables. Every setting has a usual value; a
variable that cannot be read, or that names something there is not, makes the settings
unreadable. They are read in a fixed order, so that of several mistakes always the same one is
reported: the address of the broker, the stage, the unit and the lookup come first.
-/

namespace SensorRelay.Config

open Number Text

/-! ## Choices -/

/-- The stage of intermediate payloads. -/
inductive ProcessedStage where
  | processed
  | clean
deriving DecidableEq

/-- The name of the stage in topics. -/
def ProcessedStage.name : ProcessedStage → String
  | .processed => "processed"
  | .clean => "clean"

/-- How sensors are looked up. -/
inductive LookupChoice where
  | topic
  | inventory
deriving DecidableEq

/-- The refusal of a choice that there is not. -/
def notAChoice (name first second text : String) : Failure :=
  .invalidValue (name ++ " must be '" ++ first ++ "' or '" ++ second ++ "', got: " ++ quoted text)

/-- The stage that the variables choose. -/
def readStage (v : Variables) : Except Failure ProcessedStage :=
  let name := trimChar '/' (trim (v.get "PIPELINE_PROCESSED_PREFIX" "processed"))
  if name = "processed" then .ok .processed
  else if name = "clean" then .ok .clean
  else .error (notAChoice "PIPELINE_PROCESSED_PREFIX" "processed" "clean" name)

/-- The unit of raw timestamps that the variables choose. -/
def readUnit (v : Variables) : Except Failure TimestampUnit :=
  let name := lower (trim (v.get "RAW_TIMESTAMP_UNIT" "ms"))
  match TimestampUnit.ofName? name with
  | some unit => .ok unit
  | none => .error (notAChoice "RAW_TIMESTAMP_UNIT" "ms" "ns" name)

/-- The lookup that the variables choose. -/
def readLookup (v : Variables) : Except Failure LookupChoice :=
  let name := lower (trim (v.get "SENSOR_LOOKUP" "topic"))
  if name = "topic" then .ok .topic
  else if name = "inventory" then .ok .inventory
  else .error (notAChoice "SENSOR_LOOKUP" "topic" "inventory" name)

/-- Is a switch on? -/
def isOn (v : Variables) (name : String) : Bool :=
  ["true", "1", "yes", "on"].contains (lower (trim (v.get name "false")))

/-- The integer that a variable gives, or the usual one if there is no such variable. -/
def readWhole (v : Variables) (name : String) (usual : Int) : Except Failure Int :=
  match v.find? name with
  | some text => readInteger text
  | none => .ok usual

/-! ## Addresses -/

/-- The usual port of a broker. -/
def usualBrokerPort : Int := 1883

/-- The port of a URL, which must be a number up to 65535. -/
def readPort (text : String) : Except Failure Int :=
  if text.toList.all isAsciiDigit then do
    let port ← readInteger text
    if port ≤ 65535 then return port
    else .error (.invalidValue "Port out of range 0-65535")
  else
    .error (.invalidValue ("Port could not be cast to integer value as " ++ quoted text))

/-- The port of an authority; none and zero stand for the usual one. -/
def brokerPort (a : Net.Authority) : Except Failure Int :=
  match a.port with
  | none => .ok usualBrokerPort
  | some text => (readPort text).map fun port => if port = 0 then usualBrokerPort else port

/-- The address of the broker by host and port. -/
def namedBroker (v : Variables) : Except Failure (String × Int) := do
  let port ← readWhole v "MQTT_BROKER_PORT" usualBrokerPort
  return (v.get "MQTT_BROKER_HOST" "localhost", port)

/-- The address of the broker: that of a URL with a host goes before host and port. -/
def readBroker (v : Variables) : Except Failure (String × Int) :=
  match v.given? "BROKER_URL" with
  | none => namedBroker v
  | some url => do
    let authority ← Net.Authority.ofUrl url
    match authority.host with
    | none => namedBroker v
    | some host => return (host, ← brokerPort authority)

/-- The URL of a database that is given by its parts, which are written as they are. -/
def assembleDatabaseUrl (user password host port database : String) : String :=
  "postgresql+psycopg2://" ++ user ++ ":" ++ password ++ "@" ++ host ++ ":" ++ port ++ "/"
    ++ database

/-- The URL of the database: one that is given, or one of its parts. -/
def databaseUrl (v : Variables) : String :=
  match (v.given? "DATABASE_URL").or (v.given? "DB_URL") with
  | some url => url
  | none =>
    assembleDatabaseUrl (v.get "DB_USER" "postgres") (v.get "DB_PASSWORD" "")
      (v.get "DB_HOST" "localhost") (v.get "DB_PORT" "5432") (v.get "DB_NAME" "telemetry")

end Config

/-! ## All settings -/

/-- The settings of a process. -/
structure Settings where
  databaseUrl : String
  brokerHost : String
  brokerPort : Int
  brokerUsername : Option String
  brokerPassword : Option String
  clientId : String
  keepalive : Int
  processedStage : Config.ProcessedStage
  deadline : Binary64
  rawUnit : TimestampUnit
  lookup : Config.LookupChoice
  acceptsBareTopics : Bool
  inventoryPath : String
  queueSize : Int
  workerCount : Int
  apiHost : String
  apiPort : Int
  sink : SinkSettings
  logLevel : String
  simulatorInterval : Int

namespace Settings

open Config Number Text

/-- Reads the settings from the variables of a process. -/
def ofVariables (v : Variables) : Except Failure Settings := do
  let (brokerHost, brokerPort) ← readBroker v
  let processedStage ← readStage v
  let rawUnit ← readUnit v
  let lookup ← readLookup v
  let keepalive ← readWhole v "MQTT_KEEPALIVE" 20
  let deadline ← readDouble (v.get "PIPELINE_DEADLINE_SECONDS" "10")
  let queueSize ← readWhole v "MQTT_QUEUE_SIZE" Pool.defaultCapacity
  let workerCount ← readWhole v "MQTT_NUM_WORKERS" Pool.defaultWorkers
  let apiPort ← readWhole v "API_PORT" 8080
  let sinkLength ← readWhole v "DLQ_MAX_LEN" DeadLetterQueue.defaultMaxLength
  let simulatorInterval ← readWhole v "SIMULATOR_INTERVAL_MS" Simulator.defaultInterval
  return {
    databaseUrl := Config.databaseUrl v
    brokerHost
    brokerPort
    brokerUsername := v.given? "MQTT_USERNAME"
    brokerPassword := v.given? "MQTT_PASSWORD"
    clientId := v.get "MQTT_CLIENT_ID" "telemetry-ingest"
    keepalive
    processedStage
    deadline
    rawUnit
    lookup
    acceptsBareTopics := isOn v "PIPELINE_ACCEPT_BARE_TOPICS"
    inventoryPath := v.get "INVENTORY_PATH" "configuration.json"
    queueSize
    workerCount
    apiHost := v.get "API_HOST" "0.0.0.0"
    apiPort
    sink := {
      enabled := isOn v "DLQ_ENABLED"
      url := v.get "REDIS_URL" "redis://localhost:6379/0"
      stream := v.get "DLQ_STREAM_NAME" DeadLetterQueue.defaultStream
      maxLength := sinkLength
    }
    logLevel := upper (v.get "LOG_LEVEL" "INFO")
    simulatorInterval
  }

/-- Reads the settings of a process, with the variables of its environment file. -/
def load (process : Variables) (folder : Folder) : Except Failure Settings := do
  ofVariables (← process.load folder)

/-- The settings of the receiver for these topics. -/
def broker (s : Settings) (topics : List String) : BrokerSettings where
  host := s.brokerHost
  port := s.brokerPort
  username := s.brokerUsername
  password := s.brokerPassword
  keepalive := s.keepalive
  qos := 1
  topics

end Settings
end SensorRelay
