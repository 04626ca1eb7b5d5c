import SensorRelay.Pipeline.Handler

/-!
# The dispatcher

Every subscriber sees the topics of all stages, so a message is offered to each handler in turn
and the first that does not ignore it decides the result. The dispatcher counts the results and
posts a dead letter for each failure.
-/

namespace SensorRelay

/-- How many messages came to which end. -/
structure Counts where
  acked : Nat
  failed : Nat
  ignored : Nat
deriving DecidableEq

namespace Counts

/-- Nothing is counted. -/
def zero : Counts := ⟨0, 0, 0⟩

/-- Counts one result. -/
def add (c : Counts) (r : HandlerResult) : Counts :=
  if r.isAcked then { c with acked := c.acked + 1 }
  else if r.isFailed then { c with failed := c.failed + 1 }
  else { c with ignored := c.ignored + 1 }

end Counts

/-- Posts a letter through a queue: what came of it, and the queue afterwards. A sink that
breaks down is not counted. -/
def DeadLetterQueue.send (q : DeadLetterQueue) (letter : DeadLetter) :
    Pipeline (Except Failure Bool × DeadLetterQueue) :=
  if !q.enabled then .done (.ok false, q)
  else
    .ask (Effect.post (q.posting letter)) fun reply =>
      match (reply : Except Failure Bool) with
      | .ok taken => .done (.ok taken, q.count taken)
      | .error f => .done (.error f, q)

/-- The handlers in the order in which they are asked, the counters and the queue for dead
letters, if there is one. -/
structure Dispatcher where
  handlers : List Handler
  counts : Counts
  deadLetters : Option DeadLetterQueue

namespace Dispatcher

/-- A dispatcher that has seen no message. -/
def new (handlers : List Handler) (deadLetters : Option DeadLetterQueue) : Dispatcher :=
  ⟨handlers, .zero, deadLetters⟩

/-- The first result that is not to ignore the message. -/
def offer (m : Message) : List Handler → Pipeline (Option HandlerResult)
  | [] => .done none
  | h :: hs => do
    let r ← h.handle m
    if r.isIgnored then offer m hs else return some r

/-- The dead letter about a failed message. -/
def letterAbout (m : Message) (r : HandlerResult) (e : PipelineError) : DeadLetter :=
  .about m.topic m.payload e.message e.kind.label r.stage

/-- Posts the dead letter of a failed result. -/
def bury (d : Dispatcher) (m : Message) (r : HandlerResult) :
    Pipeline (Except Failure HandlerResult × Dispatcher) :=
  match r.error, d.deadLetters with
  | some e, some q => do
    let (sent, q) ← q.send (letterAbout m r e)
    return (sent.map fun _ => r, { d with deadLetters := some q })
  | _, _ => .done (.ok r, d)

/-- Counts a result and posts a dead letter if it is a failure. -/
def report (d : Dispatcher) (m : Message) (r : HandlerResult) :
    Pipeline (Except Failure HandlerResult × Dispatcher) :=
  let d := { d with counts := d.counts.add r }
  if r.isFailed then d.bury m r else .done (.ok r, d)

/-- The result of a message that no handler takes. -/
def unclaimed (m : Message) : HandlerResult :=
  (HandlerResult.received m.topic "none").push .ignored

/-- Dispatches a message: its result, or the failure of a broken sink, and the dispatcher
afterwards. -/
def dispatch (d : Dispatcher) (m : Message) :
    Pipeline (Except Failure HandlerResult × Dispatcher) := do
  match ← offer m d.handlers with
  | some r => d.report m r
  | none => d.report m (unclaimed m)

end Dispatcher
end SensorRelay
