import SensorRelay.DeadLetter
import SensorRelay.Store.Gateway

/-!
# The effects of the pipeline

Handling a message may make requests to the database, publish a message and post a dead
letter. A posting is answered by whether the sink took it.
-/

namespace SensorRelay

/-- A request of the pipeline. -/
inductive Effect where
  | store (c : StoreCall)
  | publish (topic : String) (payload : Bytes) (timeout : Binary64)
  | post (p : Posting)

/-- What a request is answered with. -/
def Effect.Reply : Effect → Type
  | .store c => c.Reply
  | .publish _ _ _ => Unit
  | .post _ => Bool

/-- The requests of the pipeline as an interface. -/
def pipelineInterface : Interface := ⟨Effect, Effect.Reply⟩

/-- A computation of the pipeline. -/
abbrev Pipeline (α : Type) := Program pipelineInterface α

namespace Pipeline

/-- A computation over the database alone. -/
def ofStore {α : Type} (p : Program storeInterface α) : Pipeline α :=
  p.within Effect.store fun _ r => r

end Pipeline
end SensorRelay
