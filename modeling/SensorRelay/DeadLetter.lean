import SensorRelay.Text.Encoding

/-!
# Dead letters

A message that the pipeline gives up is kept as a dead letter: the payload up to a size, the
error text up to a length, and where it happened. The queue counts the letters that the sink
took and those it did not; a queue without a sink takes none.
-/

namespace SensorRelay

/-- The most bytes of a payload that a dead letter keeps. -/
def maxLetterPayload : Nat := 5000

/-- The most characters of an error text that a dead letter keeps. -/
def maxLetterError : Nat := 1000

/-- A message that was given up. -/
structure DeadLetter where
  topic : String
  payload : Bytes
  error : String
  errorType : String
  source : String
deriving DecidableEq

namespace DeadLetter

/-- The letter about a message, cut to the limits. -/
def about (topic : String) (payload : Bytes) (error errorType source : String) : DeadLetter :=
  ⟨topic, payload.take maxLetterPayload, String.ofList (error.toList.take maxLetterError),
    errorType, source⟩

/-- The payload as the sink keeps it. -/
def payloadText (d : DeadLetter) : String := Text.toBase64 d.payload

/-- The names of the fields that the sink keeps, in order. -/
def fieldNames : List String :=
  ["topic", "payload_b64", "error", "error_type", "source", "timestamp", "created_at"]

/-- The letter as the sink keeps it, with the time of sending in two forms. -/
def entry (d : DeadLetter) (timestamp createdAt : String) : List (String × String) :=
  fieldNames.zip [d.topic, d.payloadText, d.error, d.errorType, d.source, timestamp, createdAt]

end DeadLetter

/-- A letter on its way to a stream of bounded length. -/
structure Posting where
  stream : String
  maxLength : Int
  letter : DeadLetter
deriving DecidableEq

/-- The queue for dead letters, with its counters. -/
structure DeadLetterQueue where
  stream : String
  maxLength : Int
  enabled : Bool
  sent : Nat
  errors : Nat
deriving DecidableEq

namespace DeadLetterQueue

/-- The usual stream. -/
def defaultStream : String := "dlq:telemetry"

/-- The usual length of the stream. -/
def defaultMaxLength : Int := 10000

/-- A queue that has sent nothing. -/
def new (stream : String) (maxLength : Int) (enabled : Bool) : DeadLetterQueue :=
  ⟨stream, maxLength, enabled, 0, 0⟩

/-- What the queue posts for a letter. -/
def posting (q : DeadLetterQueue) (letter : DeadLetter) : Posting :=
  ⟨q.stream, q.maxLength, letter⟩

/-- Counts what became of a posting. -/
def count (q : DeadLetterQueue) (taken : Bool) : DeadLetterQueue :=
  if taken then { q with sent := q.sent + 1 } else { q with errors := q.errors + 1 }

end DeadLetterQueue
end SensorRelay
