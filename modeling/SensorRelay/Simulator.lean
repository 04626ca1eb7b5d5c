import SensorRelay.Mqtt.Publisher
import SensorRelay.Sample.Raw
import SensorRelay.Topic

/-!
# The simulator

The simulator stands in for the hardware: in each round it publishes one random raw sample per
known topic and then pauses. A sample that cannot be published is counted and the round goes
on; any other failure ends the round.
-/

namespace SensorRelay

/-- What a simulator asks for: the topics, a number of a range, the time, to publish a raw
payload, and to pause. -/
inductive SimulatorRequest where
  | topics
  | draw (low high : Int)
  | now
  | publish (topic : String) (payload : Bytes) (timeout : Binary64)
  | pause (time : Binary64)

/-- What a request is answered with. -/
def SimulatorRequest.Reply : SimulatorRequest → Type
  | .topics => List String
  | .draw _ _ => Int
  | .now => Timestamp
  | .publish _ _ _ => Unit
  | .pause _ => Unit

/-- The requests of a simulator as an interface. -/
def simulatorInterface : Interface := ⟨SimulatorRequest, SimulatorRequest.Reply⟩

/-- The simulator: the pause between rounds, how long to wait for the broker, the unit of raw
timestamps and what has been published and what not. -/
structure Simulator where
  interval : Binary64
  timeout : Binary64
  unit : String
  published : Nat
  failed : Nat

namespace Simulator

/-- The least value of a sample. -/
def lowest : Int := 0

/-- The greatest value of a sample. -/
def highest : Int := 100

/-- The usual pause in milliseconds. -/
def defaultInterval : Int := 1000

/-- A number of milliseconds in seconds, unless it is beyond all doubles. -/
def seconds (milliseconds : Int) : Except Failure Binary64 :=
  match Binary64.ofInt? milliseconds with
  | some x => .ok (x.divNat 1000)
  | none => .error (.overflow "int too large to convert to float")

/-- A simulator that has published nothing. -/
def new (milliseconds : Int) (timeout : Binary64) (unit : String) : Except Failure Simulator :=
  (seconds milliseconds).map fun interval => ⟨interval, timeout, unit, 0, 0⟩

/-- Publishes a sample: did it work? Only failures of messages are an answer. -/
def offerSample (topic : String) (payload : Bytes) (timeout : Binary64) :
    Program simulatorInterface Bool :=
  .ask (SimulatorRequest.publish (stageTopic rawStage topic) payload timeout) fun reply =>
    match reply with
    | .ok _ => .done true
    | .error (.pipeline _) => .done false
    | .error f => .raise f

/-- Makes a sample for a topic and publishes it. -/
def offer (s : Simulator) (topic : String) : Program simulatorInterface Bool :=
  .ask (SimulatorRequest.draw lowest highest) fun reply =>
    match (reply : Except Failure Int) with
    | .error f => .raise f
    | .ok value => .ask SimulatorRequest.now fun reply =>
      match (reply : Except Failure Timestamp) with
      | .error f => .raise f
      | .ok now =>
        match RawSample.encodeNamed s.unit (.whole value) now with
        | .error f => .raise f
        | .ok payload => offerSample topic payload s.timeout

/-- What has been published in a round and what not, and the failure that ended it, if any. -/
structure Round where
  sent : Nat
  lost : Nat
  failure : Option Failure

/-- Counts one more sample. -/
def Round.count (r : Round) (sent : Bool) : Round :=
  if sent then { r with sent := r.sent + 1 } else { r with lost := r.lost + 1 }

/-- Offers a sample of each topic. -/
def round (s : Simulator) : List String → Program simulatorInterface Round
  | [] => .done ⟨0, 0, none⟩
  | topic :: topics => do
    match ← (s.offer topic).attempt with
    | .error f => return ⟨0, 0, some f⟩
    | .ok sent => return (← s.round topics).count sent

/-- Adds up a round; what was published counts only if the round came to its end. -/
def add (s : Simulator) (r : Round) : Except Failure Nat × Simulator :=
  let s := { s with failed := s.failed + r.lost }
  match r.failure with
  | some f => (.error f, s)
  | none => (.ok r.sent, { s with published := s.published + r.sent })

/-- A round over the topics that are known now: how many samples were published. -/
def tick (s : Simulator) : Program simulatorInterface (Except Failure Nat × Simulator) :=
  .ask SimulatorRequest.topics fun reply =>
    match (reply : Except Failure (List String)) with
    | .error f => .done (.error f, s)
    | .ok topics => do return s.add (← s.round topics)

/-- Several rounds with a pause after each; a failure ends them. -/
def run : Nat → Simulator → Program simulatorInterface (Except Failure Unit × Simulator)
  | 0, s => .done (.ok (), s)
  | n + 1, s => do
    match ← s.tick with
    | (.error f, s) => return (.error f, s)
    | (.ok _, s) => .ask (SimulatorRequest.pause s.interval) fun _ => run n s

end Simulator
end SensorRelay
