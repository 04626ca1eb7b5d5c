import SensorRelay.Error

/-!
# Message results

A message at a stage runs through statuses: it is received, then ignored or matched, decoded,
transformed, and republished or persisted before it is acknowledged. Ignored, acked and failed
are final. A `HandlerResult` keeps the whole run with the error, the next topic and the id of
the record, whichever there are.
-/

namespace SensorRelay

/-- How far a message has come. -/
inductive MessageStatus where
  | received
  | matched
  | ignored
  | decoded
  | transformed
  | republished
  | persisted
  | acked
  | failed
deriving DecidableEq

namespace MessageStatus

/-- The status in words. -/
def label : MessageStatus → String
  | received => "received"
  | matched => "matched"
  | ignored => "ignored"
  | decoded => "decoded"
  | transformed => "transformed"
  | republished => "republished"
  | persisted => "persisted"
  | acked => "acked"
  | failed => "failed"

/-- All statuses. -/
def all : List MessageStatus :=
  [received, matched, ignored, decoded, transformed, republished, persisted, acked, failed]

/-- The status with this name. -/
def ofLabel (name : String) : Except Failure MessageStatus :=
  match all.find? fun s => s.label == name with
  | some s => .ok s
  | none => .error (.invalidValue (Text.quoted name ++ " is not a valid MessageStatus"))

/-- Nothing follows a final status. -/
def isFinal : MessageStatus → Bool
  | ignored | acked | failed => true
  | _ => false

end MessageStatus

/-- What became of a message at a stage. -/
structure HandlerResult where
  topic : String
  stage : String
  history : List MessageStatus
  error : Option PipelineError
  nextTopic : Option String
  recordId : Option Nat
deriving DecidableEq

namespace HandlerResult

/-- A message that has just been received. -/
def received (topic stage : String) : HandlerResult :=
  ⟨topic, stage, [.received], none, none, none⟩

/-- How far the message has come. -/
def status (r : HandlerResult) : MessageStatus :=
  r.history.getLastD .received

def isIgnored (r : HandlerResult) : Bool := r.status == .ignored
def isAcked (r : HandlerResult) : Bool := r.status == .acked
def isFailed (r : HandlerResult) : Bool := r.status == .failed

/-- The next status. -/
def push (r : HandlerResult) (s : MessageStatus) : HandlerResult :=
  { r with history := r.history ++ [s] }

/-- The refusal to go on after the end. -/
def alreadyFinal (r : HandlerResult) (s : MessageStatus) : Failure :=
  .invalidState ("message already terminal (" ++ r.status.label ++ "), cannot move to " ++ s.label)

/-- Moves to a status, unless the message has come to its end. -/
def advance (r : HandlerResult) (s : MessageStatus) : Except Failure Unit × HandlerResult :=
  if r.status.isFinal then (.error (r.alreadyFinal s), r) else (.ok (), r.push s)

/-- Records an error and then moves to the failed status, unless the message has come to its
end; the error is recorded in any case. -/
def fail (r : HandlerResult) (e : PipelineError) : Except Failure Unit × HandlerResult :=
  advance { r with error := some e } .failed

end HandlerResult
end SensorRelay
