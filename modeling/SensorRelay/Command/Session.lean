import SensorRelay.Bench.Station
import SensorRelay.Command.Roles
import SensorRelay.Command.WriteBack
import SensorRelay.Simulator
import SensorRelay.Store.Engine

/-!
# Sessions

A session is one process at work: its surroundings, which answer it, the files and databases it
finds, and everything it does to them, to the broker and to the sink. An `Act` is a step of the
process that may fail; what was done before a failure stays done.

A process waits until it is told to stop. During each wait but the last the broker delivers a
batch of messages, and the workers then do one round for each of them; in the last one the
process is told to stop.
-/

namespace SensorRelay

/-- What a process finds around it: how the broker answers, whether the sink does, the messages
that arrive during each wait, whether the broker delivers what the process itself publishes,
and the numbers and the time for a simulator. -/
structure Surroundings where
  connection : ConnectReply
  sinkAnswers : Bool
  inbox : List (List Message)
  loopback : Bool
  values : List Int
  now : Timestamp

/-- A server of the read interface that was started, with its log level: beside a pipeline, or
alone and ready or not. -/
inductive ServerStart where
  | beside (host : String) (port : Int) (level : String)
  | alone (host : String) (port : Int) (level : String) (ready : Bool)

/-- A wait, and whether the process was ready for readers at that time, if it has any. -/
structure Wait where
  time : Binary64
  ready : Option Bool

/-- A process at work. `databaseFile` is the file in which its database is. -/
structure Session where
  around : Surroundings
  folder : Folder
  databases : List (String × Store)
  databaseFile : Option String
  station : Station
  receiver : Option Receiver
  client : Option BrokerClient
  sinks : List SinkSettings
  servers : List ServerStart
  ready : Option Bool
  waits : List Wait
  drawn : Nat

/-- A step of a process. -/
abbrev Act (α : Type) := ExceptT Failure (StateM Session) α

namespace Session

/-- A process that has done nothing. -/
def new (around : Surroundings) (folder : Folder) (databases : List (String × Store)) :
    Session where
  around
  folder
  databases
  databaseFile := none
  station := .new (.new [] none) (Binary64.ofInt 1000)
  receiver := none
  client := none
  sinks := []
  servers := []
  ready := none
  waits := []
  drawn := 0

/-! ## The database -/

/-- The database in a file. -/
def databaseAt (s : Session) (file : String) : Option Store :=
  (s.databases.find? fun d => d.1 == file).map (·.2)

/-- Opens a database; its tables are made if it has none. -/
def useStore (s : Session) (file : Option String) (store : Store) : Session :=
  { s with
    databaseFile := file
    station := { s.station with env := { s.station.env with database := some store } } }

/-- The databases once the process has ended. -/
def finalDatabases (s : Session) : List (String × Store) :=
  match s.databaseFile, s.station.env.database with
  | some file, some store => (file, store) :: s.databases.filter fun d => d.1 != file
  | _, _ => s.databases

/-! ## The broker -/

/-- The name of the settings under which the process made its client. -/
def clientId (s : Session) : Option String := s.client.map (·.base)

/-- Delivers messages and lets the workers do a round for each of them. -/
def deliver (messages : List Message) (s : Session) : Session :=
  match s.receiver with
  | none => s
  | some r =>
    let r := messages.foldl (fun r m => s.station.deliver m r) r
    match r.pool with
    | none => { s with receiver := some r }
    | some p =>
      let (p, station) := s.station.work messages.length p
      { s with receiver := some { r with pool := some p }, station }

/-- The messages published since a time when there were `count`, as far as the process
subscribes to them. -/
def echoes (s : Session) (count : Nat) : List Message :=
  let filters := (s.receiver.map fun r => r.settings.topics).getD []
  ((s.station.env.published.drop count).filter fun p => filters.any fun f => covers f p.topic).map
    fun p => ⟨p.topic, p.payload⟩

/-- Delivers a batch; if the broker loops back, then what the process published meanwhile,
once. -/
def deliverBatch (messages : List Message) (s : Session) : Session :=
  let count := s.station.env.published.length
  let s := s.deliver messages
  if s.around.loopback then s.deliver (s.echoes count) else s

/-- Waits once more, and takes in a batch if one is given. -/
def wait (time : Binary64) (batch : Option (List Message)) (s : Session) : Session :=
  let s := { s with waits := s.waits ++ [⟨time, s.ready⟩] }
  match batch with
  | some messages => s.deliverBatch messages
  | none => s

/-- Waits until the process is told to stop. -/
def waitThrough (time : Binary64) : List (List Message) → Session → Session
  | [], s => s.wait time none
  | batch :: batches, s => waitThrough time batches (s.wait time (some batch))

/-- The batch that arrives in the next wait. -/
def nextBatch (s : Session) : Option (List Message) := s.around.inbox[s.waits.length]?

/-- Changes the receiver together with the station. -/
def withReceiver (s : Session) (f : Receiver → Station → Receiver × Station) : Session :=
  match s.receiver with
  | none => s
  | some r =>
    let (r, station) := f r s.station
    { s with receiver := some r, station }

end Session

namespace Act

/-! ## Steps -/

/-- A step that cannot fail. -/
def modify (f : Session → Session) : Act Unit := fun s => (.ok (), f s)

/-- Looks at the session. -/
def look {α : Type} (f : Session → α) : Act α := fun s => (.ok (f s), s)

/-- A result or a failure that is already there. -/
def ofExcept {α : Type} (r : Except Failure α) : Act α := fun s => (r, s)

/-- A step of the environment. -/
def inEnvironment {α : Type} (f : Environment → Except Failure α × Environment) : Act α :=
  fun s =>
    let (r, env) := f s.station.env
    (r, { s with station := { s.station with env } })

/-- Does something in any case after a step. -/
def ensuring {α : Type} (step : Act α) (cleanUp : Session → Session) : Act α := fun s =>
  let (r, s) := step s
  (r, cleanUp s)

/-- Opens the database of the settings. -/
def openStore (settings : Settings) : Act Unit := do
  let engine ← ofExcept (Engine.ofUrl settings.databaseUrl settings.deadline)
  let place ← ofExcept engine.place
  if !place.isReachable then ofExcept (.error .databaseUnreachable)
  else match place.localFile? with
    | none => modify fun s => s.useStore none .empty
    | some file => modify fun s => s.useStore (some file) ((s.databaseAt file).getD .empty)

/-- Reconciles the inventory of the settings, and writes the ids back if that is asked for. -/
def reconcileInventory (settings : Settings) (writeBack : Bool) : Act Resolution := do
  let path := settings.inventoryPath
  let folder ← look (·.folder)
  let r ← inEnvironment (reconcileFile path folder)
  if writeBack then
    let folder ← ofExcept (r.writeBack path folder)
    modify fun s => { s with folder }
  return r.resolution

/-- Makes a client and a receiver that subscribes to the given topics. -/
def newReceiver (settings : Settings) (topics : List String) : Act Unit :=
  modify fun s => { s with
    client := some (.new settings.clientId s.station.clock)
    receiver := some (.new (settings.broker topics)) }

/-- Connects to the broker, with a pool if one is given: did it answer in time? -/
def connect (pool : Option Pool) : Act Bool := fun s =>
  match s.receiver with
  | none => (.ok false, s)
  | some r =>
    let (connected, r, station) := s.station.startReceiver s.around.connection
      Station.defaultConnectTimeout pool r
    (.ok connected, { s with receiver := some r, station })

/-- Disconnects from the broker. -/
def disconnect (timeout : Option Binary64) (s : Session) : Session :=
  s.withReceiver fun r station => station.stopReceiver timeout r

end Act
end SensorRelay
