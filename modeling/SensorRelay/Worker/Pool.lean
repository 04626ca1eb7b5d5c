import SensorRelay.Pipeline.Handler

/-!
# The worker pool

The network callback only puts messages into a queue; workers take them out, dispatch them and
count what became of them. Each step of the pool is atomic: a message is enqueued or dropped,
taken by a worker, finished. A message that has been taken and not finished is held by its
worker, and the pool is drained when neither the queue nor a worker has one.
-/

namespace SensorRelay

/-- How a worker is done with a message: with a result, or because dispatching broke down. -/
inductive Outcome where
  | acked
  | failed
  | ignored
  | broken
deriving DecidableEq

/-- The outcome of a dispatch. -/
def Outcome.of : Except Failure HandlerResult → Outcome
  | .error _ => .broken
  | .ok r => if r.isAcked then .acked else if r.isFailed then .failed else .ignored

/-- The pool: its limits, its workers by number, the queue, the messages that workers hold and
the counters. A capacity that is not positive is no limit. -/
structure Pool where
  capacity : Int
  workersPerStart : Int
  workers : List Nat
  accepting : Bool
  queue : List Message
  held : List Message
  enqueued : Nat
  dropped : Nat
  acked : Nat
  failed : Nat
  ignored : Nat
  errors : Nat

namespace Pool

/-- A pool that has not been started. -/
def new (capacity workersPerStart : Int) : Pool :=
  ⟨capacity, workersPerStart, [], false, [], [], 0, 0, 0, 0, 0, 0⟩

/-- The usual capacity. -/
def defaultCapacity : Int := 1000

/-- The usual number of workers. -/
def defaultWorkers : Int := 4

/-- Adds workers and begins to accept messages. -/
def start (p : Pool) : Pool :=
  { p with workers := p.workers ++ List.range p.workersPerStart.toNat, accepting := true }

/-- Is there no room in the queue? -/
def isFull (p : Pool) : Bool :=
  0 < p.capacity && p.capacity ≤ p.queue.length

/-- Puts a message into the queue, or drops it if the pool is full or stopped. -/
def enqueue (p : Pool) (m : Message) : Bool × Pool :=
  if p.accepting && !p.isFull then
    (true, { p with queue := p.queue ++ [m], enqueued := p.enqueued + 1 })
  else (false, { p with dropped := p.dropped + 1 })

/-- Enqueues messages in order: which of them were taken. -/
def enqueueAll (p : Pool) : List Message → List Bool × Pool
  | [] => ([], p)
  | m :: ms =>
    let (taken, p) := p.enqueue m
    let (rest, p) := enqueueAll p ms
    (taken :: rest, p)

/-- A worker takes the oldest message. -/
def take (p : Pool) : Option (Message × Pool) :=
  match p.queue with
  | [] => none
  | m :: rest => some (m, { p with queue := rest, held := p.held ++ [m] })

/-- Counts an outcome. -/
def count (p : Pool) : Outcome → Pool
  | .acked => { p with acked := p.acked + 1 }
  | .failed => { p with failed := p.failed + 1 }
  | .ignored => { p with ignored := p.ignored + 1 }
  | .broken => { p with errors := p.errors + 1 }

/-- A worker is done with the message it holds. -/
def finish (p : Pool) (m : Message) (o : Outcome) : Pool :=
  let p := p.count o
  { p with held := p.held.erase m }

/-- Stops accepting messages. -/
def close (p : Pool) : Pool := { p with accepting := false }

/-- Is every message that was accepted done? -/
def isDrained (p : Pool) : Bool := p.queue.isEmpty && p.held.isEmpty

/-- Sends the workers home. -/
def dismiss (p : Pool) : Pool := { p with workers := [] }

/-- The name of a worker. -/
def workerName (n : Nat) : String :=
  "pipeline-worker-" ++ String.ofList (Text.natChars n)

/-- One round of a worker: takes a message, if there is one, dispatches and finishes it. -/
def workOnce {σ : Type} (dispatch : Message → σ → Except Failure HandlerResult × σ)
    (p : Pool) (s : σ) : Pool × σ :=
  match p.take with
  | none => (p, s)
  | some (m, p) =>
    let (r, s) := dispatch m s
    (p.finish m (.of r), s)

/-- Several rounds. -/
def work {σ : Type} (dispatch : Message → σ → Except Failure HandlerResult × σ) :
    Nat → Pool → σ → Pool × σ
  | 0, p, s => (p, s)
  | n + 1, p, s =>
    let (p, s) := p.workOnce dispatch s
    work dispatch n p s

end Pool
end SensorRelay
