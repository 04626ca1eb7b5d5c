import SensorRelay.Bench.Environment
import SensorRelay.Mqtt.Receiver

/-!
# A station

A station is where a worker pool stands: the environment and the dispatcher its workers use and
a clock that only sleeping moves. The waits of the pool and the receiver are loops of short
naps; while a pool is drained, its workers do one round during each nap if the station is busy.
A wait ends when its condition holds or its time is up, and `napBound` counts the naps after
which the time is up for certain.
-/

namespace SensorRelay

/-- What the workers of a pool stand in. A message of the `brittle` topic breaks the
dispatcher. -/
structure Station where
  env : Environment
  dispatcher : Dispatcher
  brittle : Option String
  clock : Binary64
  naps : List Binary64
  busy : Bool

/-- How the broker answers when a receiver connects. -/
inductive ConnectReply where
  | refused
  | silent
  | accepted
  | declined
deriving DecidableEq

namespace Station

/-- A station where nothing has happened. -/
def new (dispatcher : Dispatcher) (clock : Binary64) : Station :=
  ⟨.new, dispatcher, none, clock, [], true⟩

/-! ## Working -/

/-- A worker dispatches a message. -/
def dispatch (m : Message) (s : Station) : Except Failure HandlerResult × Station :=
  if s.brittle == some m.topic then (.error (.invalidState m.topic), s)
  else
    let (r, dispatcher, env) := s.env.dispatch s.dispatcher m
    (r, { s with dispatcher, env })

/-- Several rounds of work. -/
def work (n : Nat) (p : Pool) (s : Station) : Pool × Station :=
  Pool.work dispatch n p s

/-! ## Waiting -/

/-- Sleeps for a while. -/
def sleep (d : Binary64) (s : Station) : Station :=
  { s with clock := s.clock.add d, naps := s.naps ++ [d] }

/-- More naps than fit into the time; an unlimited time counts as an enormous one. -/
def napBound (time : Binary64) (napsPerSecond : Nat) : Nat :=
  (time.scale (2 * napsPerSecond)).truncate.toNat + 2

/-- Draining is a matter of a twentieth of a second at a time. -/
def drainNap : Binary64 := (Binary64.ofInt 1).divNat 20

/-- Naps until the pool is drained or the deadline has come. -/
def drainUntil (deadline : Option Binary64) : Nat → Pool → Station → Pool × Station
  | 0, p, s => (p, s)
  | n + 1, p, s =>
    if p.isDrained || deadline.any fun d => Binary64.le d s.clock then (p, s)
    else
      let s := s.sleep drainNap
      let (p, s) := if s.busy then p.workOnce dispatch s else (p, s)
      drainUntil deadline n p s

/-- Waits for the pool to be drained, at most for the given time. -/
def drain (timeout : Option Binary64) (p : Pool) (s : Station) : Pool × Station :=
  drainUntil (timeout.map s.clock.add)
    (p.queue.length + ((timeout.map fun t => napBound t 20).getD 0)) p s

/-- Stops the pool, after draining it if that is asked for. -/
def stopPool (drains : Bool) (timeout : Option Binary64) (p : Pool) (s : Station) :
    Pool × Station :=
  let p := p.close
  let (p, s) := if drains then s.drain timeout p else (p, s)
  (p.dismiss, s)

/-! ## Receiving -/

/-- Waiting for the connection is a matter of a tenth of a second at a time. -/
def connectNap : Binary64 := (Binary64.ofInt 1).divNat 10

/-- The usual time to wait for the connection. -/
def defaultConnectTimeout : Binary64 := Binary64.ofInt 5

/-- Naps until the time is up. -/
def waitFor (timeout : Binary64) : Nat → Binary64 → Station → Station
  | 0, _, s => s
  | n + 1, waited, s =>
    if Binary64.lt waited timeout then
      waitFor timeout n (waited.add connectNap) (s.sleep connectNap)
    else s

/-- Tells the client of the broker. -/
def tell (calls : List ClientCall) (s : Station) : Station :=
  { s with env := s.env.note calls }

/-- The broker answers a connection. -/
def connack (failure : Bool) (r : Receiver) (s : Station) : Receiver × Station :=
  let (r, calls) := r.onConnect failure
  (r, s.tell calls)

/-- The broker's answer while the loop of the client starts. -/
def answerConnect (reply : ConnectReply) (r : Receiver) (s : Station) : Receiver × Station :=
  match reply with
  | .accepted => s.connack false r
  | .declined => s.connack true r
  | _ => (r, s)

/-- Starts a receiver with a pool, if it has one: is it connected in time? -/
def startReceiver (reply : ConnectReply) (timeout : Binary64) (pool : Option Pool)
    (r : Receiver) (s : Station) : Bool × Receiver × Station :=
  let r := r.prepare pool
  let s := s.tell (Receiver.connectCalls r.settings)
  if reply = .refused then (false, r.abandon, s)
  else
    let (r, s) := (s.tell [.loopStart]).answerConnect reply r
    let r := r.markRunning
    if r.connected then (true, r, s)
    else (false, r, s.waitFor timeout (napBound timeout 10) (.zero false))

/-- Stops a receiver: the pool is drained while the connection still stands. -/
def stopReceiver (timeout : Option Binary64) (r : Receiver) (s : Station) : Receiver × Station :=
  if !r.running then (r, s)
  else
    let (r, calls) := r.beginStop
    let s := s.tell calls
    let (r, s) := match r.pool with
      | none => (r, s)
      | some p =>
        let (p, s) := s.stopPool true timeout p
        ({ r with pool := some p }, s)
    (r, s.tell Receiver.endStopCalls)

/-- Delivers a message to a receiver. -/
def deliver (m : Message) (r : Receiver) (s : Station) : Receiver :=
  r.onMessage m s.clock

end Station
end SensorRelay
