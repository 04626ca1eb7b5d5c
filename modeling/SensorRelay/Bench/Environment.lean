import SensorRelay.Bench.Client
import SensorRelay.Pipeline.Dispatcher

/-!
# An environment in memory

An environment answers the requests of the pipeline from a database in memory, a publisher and
a sink for dead letters. How the publisher and the sink behave can be set, and a fault can be
laid on any operation of the database: its next calls then fail, or find nothing, without
having any effect. Everything that is published and posted is kept, and so are the calls to
the client of the broker, through which a publisher may work.
-/

namespace SensorRelay

/-- The next `times` calls of an operation fail or, without a failure, give no row. -/
structure StoreFault where
  method : StoreMethod
  times : Nat
  failure : Option Failure

/-- How the publisher behaves; it may be an obliging client. -/
inductive PublisherMode where
  | works
  | unacknowledged
  | breaks (f : Failure)
  | client (qos : Int)

/-- How the sink for dead letters behaves: it takes them, it has an error of its own, or it
breaks down. -/
inductive SinkMode where
  | works
  | refuses
  | breaks (f : Failure)

/-- A published message. -/
structure Publication where
  topic : String
  payload : Bytes
  timeout : Binary64

/-- The world of a pipeline. -/
structure Environment where
  database : Database
  faults : List StoreFault
  publisher : PublisherMode
  published : List Publication
  calls : List ClientCall
  sink : SinkMode
  postings : List Posting

namespace Environment

/-- Empty tables, and everything works. -/
def new : Environment := ⟨some Store.empty, [], .works, [], [], .works, []⟩

/-! ## Faults -/

/-- Lays a fault on an operation in place of an earlier one. -/
def layFault (e : Environment) (f : StoreFault) : Environment :=
  { e with faults := f :: e.faults.filter fun g => g.method != f.method }

/-- The fault that is due at an operation. -/
def dueFault? (e : Environment) (m : StoreMethod) : Option StoreFault :=
  e.faults.find? fun f => f.method == m && f.times != 0

/-- One call of a faulty operation has passed. -/
def spendFault (e : Environment) (m : StoreMethod) : Environment :=
  { e with faults := e.faults.map fun f =>
    if f.method == m then { f with times := f.times - 1 } else f }

/-! ## Replies -/

/-- The reply of the database, unless a fault is due. -/
def answerStore (c : StoreCall) (e : Environment) : Except Failure c.Reply × Environment :=
  match e.dueFault? c.method with
  | some f =>
    (match f.failure with
      | some g => .error g
      | none => .ok c.absent, e.spendFault c.method)
  | none =>
    let (r, database) := Database.answer c e.database
    (r, { e with database })

/-- Keeps a published message. -/
def keep (e : Environment) (p : Publication) : Environment :=
  { e with published := e.published ++ [p] }

/-- Keeps calls to the client of the broker. -/
def note (e : Environment) (calls : List ClientCall) : Environment :=
  { e with calls := e.calls ++ calls }

/-- The reply of the publisher. -/
def answerPublish (topic : String) (payload : Bytes) (timeout : Binary64) (e : Environment) :
    Except Failure Unit × Environment :=
  match e.publisher with
  | .works => (.ok (), e.keep ⟨topic, payload, timeout⟩)
  | .unacknowledged => (.error (notAcknowledged topic timeout), e)
  | .breaks f => (.error f, e)
  | .client qos =>
    match ClientScript.obliging.publish qos topic payload timeout with
    | (.ok (), calls) => (.ok (), (e.note calls).keep ⟨topic, payload, timeout⟩)
    | (.error f, calls) => (.error f, e.note calls)

/-- The reply of the sink. -/
def answerPost (p : Posting) (e : Environment) : Except Failure Bool × Environment :=
  match e.sink with
  | .works => (.ok true, { e with postings := e.postings ++ [p] })
  | .refuses => (.ok false, e)
  | .breaks f => (.error f, e)

/-- The reply to any request of the pipeline. -/
def answer (q : Effect) (e : Environment) : Except Failure q.Reply × Environment :=
  match q with
  | .store c => e.answerStore c
  | .publish topic payload timeout => e.answerPublish topic payload timeout
  | .post p => e.answerPost p

/-- Runs a computation of the pipeline. -/
def run {α : Type} (p : Pipeline α) (e : Environment) : Except Failure α × Environment :=
  Program.run (fun q s => answer q s) p e

/-- Runs a computation over the database. -/
def runStore {α : Type} (p : Program storeInterface α) (e : Environment) :
    Except Failure α × Environment :=
  Program.run (fun q s => answerStore q s) p e

/-- Makes one request to the database. -/
def request (c : StoreCall) (e : Environment) : Except Failure c.Reply × Environment :=
  e.answerStore c

/-- Dispatches a message. -/
def dispatch (d : Dispatcher) (m : Message) (e : Environment) :
    Except Failure HandlerResult × Dispatcher × Environment :=
  match e.run (d.dispatch m) with
  | (.ok (r, d), e) => (r, d, e)
  | (.error f, e) => (.error f, d, e)

end Environment
end SensorRelay
