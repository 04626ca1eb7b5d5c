import SensorRelay.Text.Quoted

/-!
# What can go wrong

A `PipelineError` is a failure that concerns one message: its `ErrorKind` decides how the
message is counted and filed, its text is for people. `FieldProblem` says what is wrong with
one field of a document. A `Failure` is anything an operation may end with instead of a
result: a pipeline error, an inventory that cannot be used, or a fault that is not part of
the pipeline's vocabulary.
-/

namespace SensorRelay

/-! ## Problems in documents -/

/-- A step on the way to a field. -/
inductive Place where
  | field (name : String)
  | item (index : Nat)
deriving DecidableEq

/-- What is wrong with a field. -/
inductive FieldFault where
  | missing
  | notNumber
  | notTimestampText
  | notIso (text : String)
  | notString
  | notList
  | notInteger
  | unparsableInteger
  | oversizedInteger
  | fractionalInteger
  | notInventory
  | notDescriptor
deriving DecidableEq

namespace FieldFault

/-- The name of the class of faults. -/
def label : FieldFault → String
  | missing => "missing"
  | notNumber | notTimestampText | notIso _ => "value_error"
  | notString => "string_type"
  | notList => "list_type"
  | notInteger => "int_type"
  | unparsableInteger => "int_parsing"
  | oversizedInteger => "int_parsing_size"
  | fractionalInteger => "int_from_float"
  | notInventory | notDescriptor => "model_type"

/-- The fault in words. -/
def message : FieldFault → String
  | missing => "Field required"
  | notNumber => "Value error, value must be a number"
  | notTimestampText => "Value error, timestamp must be an ISO-8601 string"
  | notIso text => "Value error, timestamp is not ISO-8601: " ++ Text.quoted text
  | notString => "Input should be a valid string"
  | notList => "Input should be a valid list"
  | notInteger => "Input should be a valid integer"
  | unparsableInteger =>
    "Input should be a valid integer, unable to parse string as an integer"
  | oversizedInteger => "Unable to parse input string as an integer, exceeded maximum size"
  | fractionalInteger =>
    "Input should be a valid integer, got a number with a fractional part"
  | notInventory => "Input should be a valid dictionary or instance of InventoryConfig"
  | notDescriptor => "Input should be a valid dictionary or instance of SensorDescriptor"

end FieldFault

/-- A fault and where it is. -/
structure FieldProblem where
  place : List Place
  fault : FieldFault
deriving DecidableEq

/-! ## Errors of the pipeline -/

/-- The kinds of pipeline errors; a duplicate key is a storage error. -/
inductive ErrorKind where
  | pipeline
  | malformedPayload
  | unknownSensor
  | transport
  | storage
  | duplicateKey
deriving DecidableEq

namespace ErrorKind

/-- The kind as counters and dead letters show it. -/
def label : ErrorKind → String
  | pipeline => "pipeline_error"
  | malformedPayload => "malformed_payload"
  | unknownSensor => "unknown_sensor"
  | transport => "transport_error"
  | storage => "storage_error"
  | duplicateKey => "duplicate_key"

end ErrorKind

/-- The failure of one message. `problems` is empty unless a document was refused for its
fields. -/
structure PipelineError where
  kind : ErrorKind
  message : String
  problems : List FieldProblem := []
deriving DecidableEq

/-- An inventory that cannot be used. -/
structure InventoryError where
  message : String
  problems : List FieldProblem := []
deriving DecidableEq

/-! ## Failures in general -/

/-- What an operation ends with when it has no result. -/
inductive Failure where
  | pipeline (e : PipelineError)
  | inventory (e : InventoryError)
  | invalidDocument (problems : List FieldProblem)
  | invalidValue (message : String)
  | invalidType (message : String)
  | invalidState (message : String)
  | overflow (message : String)
  | missingRow
  | badDatabaseUrl
  | unknownDatabase
  | databaseUnreachable
  | foreign (label message : String)
deriving DecidableEq

namespace Failure

/-- The text of a failure. -/
def message : Failure → String
  | pipeline e => e.message
  | inventory e => e.message
  | invalidDocument _ => ""
  | invalidValue m | invalidType m | invalidState m | overflow m | foreign _ m => m
  | missingRow => "'NoneType' object has no attribute 'id'"
  | badDatabaseUrl => "not the URL of a database"
  | unknownDatabase => "no such kind of database"
  | databaseUnreachable => "database cannot be opened"

/-- A failure as the error of the message being handled: pipeline errors stay as they are,
anything else is unexpected. -/
def asPipelineError : Failure → PipelineError
  | pipeline e => e
  | f => ⟨.pipeline, "unexpected error: " ++ f.message, []⟩

end Failure

/-- A storage error with this text. -/
def Failure.storage (message : String) : Failure :=
  .pipeline ⟨.storage, message, []⟩

/-- A broken uniqueness rule. -/
def Failure.duplicateKey (message : String) : Failure :=
  .pipeline ⟨.duplicateKey, message, []⟩

/-- Is it a broken uniqueness rule? -/
def Failure.isDuplicateKey : Failure → Bool
  | .pipeline e => e.kind == .duplicateKey
  | _ => false

end SensorRelay
