import SensorRelay.Command.Run

/-!
# The program

The program carries out one command in a rehearsal: its settings come from the variables of the
process and from files of the current directory, its database is made anew, and its broker
delivers the messages of the standard input and takes everything. A message is a line with a
topic, a space and a payload in base 64; messages are delivered one to a wait. What the process
publishes is printed in the same form, and the files that it changes are written.
-/

namespace SensorRelay.Rehearsal

/-! ## Messages as lines -/

/-- The message of a line, if it is one. -/
def messageOfLine? (line : String) : Option Message := do
  let (topic, payload) ← Text.cutFirst? ' ' line.toList
  return ⟨String.ofList topic, ← Text.ofBase64Chars? payload⟩

/-- The line of a published message. -/
def lineOf (p : Publication) : String :=
  p.topic ++ " " ++ Text.toBase64 p.payload

/-! ## Around the process -/

/-- The variables that settings are read from. -/
def settingNames : List String :=
  ["IOT_ENV_FILE", "DATABASE_URL", "DB_URL", "DB_HOST", "DB_PORT", "DB_NAME", "DB_USER",
    "DB_PASSWORD", "BROKER_URL", "MQTT_BROKER_HOST", "MQTT_BROKER_PORT", "MQTT_USERNAME",
    "MQTT_PASSWORD", "MQTT_CLIENT_ID", "MQTT_KEEPALIVE", "MQTT_QUEUE_SIZE", "MQTT_NUM_WORKERS",
    "PIPELINE_PROCESSED_PREFIX", "PIPELINE_DEADLINE_SECONDS", "PIPELINE_ACCEPT_BARE_TOPICS",
    "RAW_TIMESTAMP_UNIT", "SENSOR_LOOKUP", "INVENTORY_PATH", "API_HOST", "API_PORT",
    "DLQ_ENABLED", "DLQ_STREAM_NAME", "DLQ_MAX_LEN", "REDIS_URL", "LOG_LEVEL",
    "SIMULATOR_INTERVAL_MS"]

/-- A broker and a sink that oblige, with these messages, at the start of 1970. -/
def surroundings (messages : List Message) : Surroundings where
  connection := .accepted
  sinkAnswers := true
  inbox := messages.map fun m => [m]
  loopback := false
  values := [0]
  now := ⟨⟨62135596800000000, by decide⟩, some UtcOffset.utc⟩

/-- The files that have other contents than before. -/
def changed (before after : Folder) : Folder :=
  List.filter (fun f => before.find? f.1 != some f.2) after

/-- What is said about an end, and the exit code. -/
def report : Ending → String × UInt32
  | .refused .help => ("usage: " ++ Command.program ++ " " ++ "|".intercalate Command.names, 0)
  | .refused (.wrong message) => (message, 2)
  | .exit code => ("", code.toUInt32)
  | .broken f => (f.message, 1)

/-! ## Input and output -/

/-- The variables of the process. -/
def readVariables : IO Config.Variables := do
  let found ← settingNames.mapM fun name => do return (← IO.getEnv name).map (name, ·)
  return found.filterMap id

/-- A file of the current directory, if it can be read. -/
def readFile (path : String) : IO Folder := do
  match ← (IO.FS.readBinFile path).toBaseIO with
  | .ok bytes => return [(plainPath path, bytes.toList)]
  | .error _ => return []

/-- The files that the settings name. -/
def readFolder (process : Config.Variables) : IO Folder := do
  let folder ← match process.file? with
    | some path => readFile path
    | none => pure []
  match Settings.load process folder with
  | .ok settings => return folder ++ (← readFile settings.inventoryPath)
  | .error _ => return folder

/-- The messages on the standard input. -/
partial def readMessages (input : IO.FS.Stream) : IO (List Message) := do
  let line ← input.getLine
  if line.isEmpty then return []
  let rest ← readMessages input
  return (messageOfLine? line.trimAscii.toString).toList ++ rest

end SensorRelay.Rehearsal

open SensorRelay Rehearsal in
/-- Carries out the command that the arguments ask for. -/
def main (args : List String) : IO UInt32 := do
  let process ← readVariables
  let folder ← readFolder process
  let messages ← readMessages (← IO.getStdin)
  let (ending, s) := (Session.new (surroundings messages) folder []).main process args
  for f in changed folder s.folder do
    IO.FS.writeBinFile f.1 ⟨f.2.toArray⟩
  for p in s.station.env.published do
    IO.println (lineOf p)
  let (said, code) := report ending
  if !said.isEmpty then IO.eprintln said
  return code
