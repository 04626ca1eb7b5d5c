import SensorRelay.Mqtt.Client
import SensorRelay.Worker.Pool

/-!
# The receiver

The receiver holds the connection to the broker. Connecting, losing the connection and every
incoming message are events that the network delivers at any time once the loop of the client
runs; each is one step. A message goes into the worker pool if the receiver is running, and is
counted one way or the other.

The pool with which a receiver is started is the same one each time. It is given as it was before
its first start, and the receiver keeps its state from then on.
-/

namespace SensorRelay

/-- Where to connect, as whom, and what to subscribe to. -/
structure BrokerSettings where
  host : String
  port : Int
  username : Option String
  password : Option String
  keepalive : Int
  qos : Int
  topics : List String

/-- The counters of the receiver. -/
structure ReceiveCounters where
  received : Nat
  enqueued : Nat
  queueFull : Nat
  notRunning : Nat
  reconnects : Nat
  lastMessageAt : Binary64

namespace ReceiveCounters

/-- Nothing has been received. -/
def zero : ReceiveCounters := ⟨0, 0, 0, 0, 0, Binary64.zero false⟩

/-- The messages that did not reach the pool. -/
def rejected (c : ReceiveCounters) : Nat := c.queueFull + c.notRunning

/-- The counters on one line. -/
def line (c : ReceiveCounters) : String :=
  let text := fun (n : Nat) => String.ofList (Text.natChars n)
  "received=" ++ text c.received ++ " enqueued=" ++ text c.enqueued ++ " queue_full="
    ++ text c.queueFull ++ " not_running=" ++ text c.notRunning ++ " reconnects="
    ++ text c.reconnects

end ReceiveCounters

/-- The receiver with the pool it feeds, if it was started with one. -/
structure Receiver where
  settings : BrokerSettings
  pool : Option Pool
  running : Bool
  connected : Bool
  everConnected : Bool
  counters : ReceiveCounters

namespace Receiver

/-- A receiver that has not been started. -/
def new (settings : BrokerSettings) : Receiver :=
  ⟨settings, none, false, false, false, .zero⟩

/-- The broker as statistics show it. -/
def broker (r : Receiver) : String :=
  r.settings.host ++ ":" ++ String.ofList (Text.intChars r.settings.port)

/-! ## Starting -/

/-- Takes over the pool, in the state that it has by now, and starts it. Without a pool the receiver
has none from then on. -/
def prepare (r : Receiver) (pool : Option Pool) : Receiver :=
  { r with pool := pool.map fun p => (r.pool.getD p).start }

/-- The credentials, if there are both a name and a password, and the connection. -/
def connectCalls (s : BrokerSettings) : List ClientCall :=
  (match s.username, s.password with
    | some u, some p => if u.isEmpty || p.isEmpty then [] else [.credentials u p]
    | _, _ => [])
  ++ [.connect s.host s.port s.keepalive]

/-- The connection was refused: the pool is stopped at once. -/
def abandon (r : Receiver) : Receiver :=
  { r with pool := r.pool.map fun p => p.close.dismiss }

/-- The loop of the client has been started. -/
def markRunning (r : Receiver) : Receiver := { r with running := true }

/-! ## Events -/

/-- The broker has answered the connection; after a success the topics are subscribed. -/
def onConnect (r : Receiver) (failure : Bool) : Receiver × List ClientCall :=
  if failure then ({ r with connected := false }, [])
  else
    let counters := if r.everConnected then
      { r.counters with reconnects := r.counters.reconnects + 1 } else r.counters
    ({ r with connected := true, everConnected := true, counters },
      if r.settings.topics.isEmpty then []
      else [.subscribe (r.settings.topics.map fun t => (t, r.settings.qos))])

/-- The connection was lost. -/
def onDisconnect (r : Receiver) : Receiver := { r with connected := false }

/-- A message has arrived. -/
def onMessage (r : Receiver) (m : Message) (now : Binary64) : Receiver :=
  let c := { r.counters with received := r.counters.received + 1, lastMessageAt := now }
  match r.running, r.pool with
  | true, some pool =>
    let (taken, pool) := pool.enqueue m
    let c := if taken then { c with enqueued := c.enqueued + 1 }
      else { c with queueFull := c.queueFull + 1 }
    { r with pool := some pool, counters := c }
  | _, _ => { r with counters := { c with notRunning := c.notRunning + 1 } }

/-! ## Stopping -/

/-- Stops taking messages: what to tell the broker first. Nothing, if it is not running. -/
def beginStop (r : Receiver) : Receiver × List ClientCall :=
  ({ r with running := false },
    if r.connected && !r.settings.topics.isEmpty then [.unsubscribe r.settings.topics] else [])

/-- What to tell the client once the pool is drained. -/
def endStopCalls : List ClientCall := [.loopStop, .disconnect]

/-- Running and connected. -/
def isHealthy (r : Receiver) : Bool := r.running && r.connected

end Receiver
end SensorRelay
