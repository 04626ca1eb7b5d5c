import SensorRelay.Bench.Feed
import SensorRelay.Command.Arguments
import SensorRelay.Command.Logging
import SensorRelay.Command.Session

/-!
# Carrying out commands

Each command is an `Act` with an exit code. A process whose settings cannot be read, or whose
work ends with an error that it reports, exits with 1; any other failure is not its own and
ends it as it is. Between its settings and its work a process sets up its log, and a failure
to do so is never its own.
-/

namespace SensorRelay

namespace Act

/-! ## Pipelines -/

/-- How often a pipeline reports, in seconds. -/
def reportInterval : Binary64 := Binary64.ofInt 60

/-- Opens the sink for dead letters, if there is one. -/
def openSink (sink : SinkSettings) : Act (Option DeadLetterQueue) := do
  let answers ← look (·.around.sinkAnswers)
  let queue ← ofExcept (sink.openQueue answers)
  modify fun s => { s with sinks := s.sinks ++ [sink] }
  return queue

/-- Publishes through the client from now on. -/
def publishThroughClient : Act Unit :=
  modify fun s => { s with
    station := { s.station with env := { s.station.env with publisher := .client 1 } } }

/-- Sets the readiness for readers, if there are any. -/
def setReady (ready : Bool) : Act Unit :=
  modify fun s => { s with ready := s.ready.map fun _ => ready }

/-- Runs a pipeline until the process is told to stop. -/
def runPipeline (settings : Settings) (roles : Roles) (lookup : Lookup) : Act Nat := do
  newReceiver settings (settings.filters roles)
  publishThroughClient
  let queue ← openSink settings.sink
  modify fun s => { s with
    station := { s.station with dispatcher := .new (settings.handlers roles lookup) queue } }
  if ← connect (some (.new settings.queueSize settings.workerCount)) then
    setReady true
    modify fun s => s.waitThrough reportInterval s.around.inbox
    setReady false
    modify (disconnect (some settings.deadline))
    return 0
  else
    modify (disconnect (some (.zero false)))
    return 1

/-! ## Simulating -/

/-- The reply to a simulator. -/
def answerSimulator : (q : SimulatorRequest) → Session → Except Failure q.Reply × Session
  | .topics, s =>
    let (r, env) := s.station.env.request .topics
    ((r : Except Failure (Option (List String))).map fun topics => topics.getD [],
      { s with station := { s.station with env } })
  | .draw _ _, s =>
    (.ok (Feed.valueAfter s.around.values s.drawn), { s with drawn := s.drawn + 1 })
  | .now, s => (.ok s.around.now, s)
  | .publish topic payload timeout, s =>
    let (r, env) := s.station.env.answerPublish topic payload timeout
    (r, { s with station := { s.station with env } })
  | .pause time, s => (.ok (), s.wait time s.nextBatch)

/-- Simulates until the process is told to stop. -/
def simulate (simulator : Simulator) : Act Unit := fun s =>
  match Program.run answerSimulator (simulator.run (s.around.inbox.length + 1)) s with
  | (.ok (r, _), s) => (r, s)
  | (.error f, s) => (.error f, s)

/-! ## Commands -/

/-- The interval to simulate with: zero stands for that of the settings. -/
def simulatorInterval (settings : Settings) (interval : Option Int) : Int :=
  match interval with
  | some n => if n = 0 then settings.simulatorInterval else n
  | none => settings.simulatorInterval

/-- The server of the read interface is started. -/
def noteServer (server : ServerStart) : Act Unit :=
  modify fun s => { s with servers := s.servers ++ [server] }

/-- Carries out `saver`. -/
def runSaver (settings : Settings) : Act Nat := do
  openStore settings
  let result ← if settings.lookup = .inventory then
      some <$> reconcileInventory settings false
    else pure none
  let lookup ← ofExcept (settings.chooseLookup result)
  runPipeline settings ⟨false, true⟩ lookup

/-- Carries out `run`. -/
def runEverything (settings : Settings) (writeBack : Bool) : Act Nat := do
  openStore settings
  let result ← reconcileInventory settings writeBack
  noteServer (.beside settings.apiHost settings.apiPort (Text.lower settings.logLevel))
  modify fun s => { s with ready := some false }
  let lookup ← ofExcept (settings.chooseLookup (some result))
  runPipeline settings ⟨true, true⟩ lookup

/-- Carries out `simulate`. -/
def runSimulator (settings : Settings) (interval : Option Int) : Act Nat := do
  openStore settings
  newReceiver settings []
  publishThroughClient
  if ← connect none then
    let simulator ← ofExcept (Simulator.new (simulatorInterval settings interval)
      settings.deadline settings.rawUnit.name)
    ensuring (simulate simulator) (disconnect none)
    return 0
  else
    modify (disconnect none)
    return 1

/-- Carries out a command. -/
def run (settings : Settings) : Command → Act Nat
  | .reconcile writeBack => do
    openStore settings
    let _ ← reconcileInventory settings writeBack
    return 0
  | .processor => runPipeline settings ⟨true, false⟩ .byTopic
  | .saver => runSaver settings
  | .run writeBack => runEverything settings writeBack
  | .api => do
    openStore settings
    noteServer (.alone settings.apiHost settings.apiPort (Text.lower settings.logLevel) true)
    return 0
  | .simulate interval => runSimulator settings interval

end Act

/-! ## Processes -/

/-- Does a process report the failure and exit with 1? -/
def Failure.isReported : Failure → Bool
  | .pipeline _ | .inventory _ | .invalidDocument _ | .invalidValue _ => true
  | _ => false

/-- How a process ends: its arguments are refused, it exits with a code, or it breaks down. -/
inductive Ending where
  | refused (r : Command.Refusal)
  | exit (code : Nat)
  | broken (f : Failure)

/-- The end after a failure. -/
def Ending.ofFailure (f : Failure) : Ending :=
  if f.isReported then .exit 1 else .broken f

/-- Carries out a command with the settings of its variables and files. -/
def Session.carryOut (s : Session) (process : Config.Variables) (c : Command) : Ending × Session :=
  match Settings.load process s.folder with
  | .error f => (.ofFailure f, s)
  | .ok settings =>
    match checkLogLevel settings.logLevel with
    | .error f => (.broken f, s)
    | .ok () =>
      match Act.run settings c s with
      | (.ok code, s) => (.exit code, s)
      | (.error f, s) => (.ofFailure f, s)

/-- Starts a process with arguments. -/
def Session.main (s : Session) (process : Config.Variables) (args : List String) :
    Ending × Session :=
  match Command.parse args with
  | .error r => (.refused r, s)
  | .ok c => s.carryOut process c

end SensorRelay
