import SensorRelay.Error
import SensorRelay.Number.Binary64
import SensorRelay.Time.Timestamp

/-!
# Samples

A sensor reading travels in two forms: as a `RawSample`, a whole number with a timestamp, and
as a `Sample`, where the number has become a double (`RawSample.widen`).
-/

namespace SensorRelay

/-- A number given from outside, which may be of any size. -/
inductive Quantity where
  | whole (n : Int)
  | double (x : Binary64)

/-- The double nearest to a quantity; a whole number beyond the doubles has none. -/
def Quantity.toBinary64 : Quantity → Except Failure Binary64
  | .double x => .ok x
  | .whole n =>
    match Binary64.ofInt? n with
    | some x => .ok x
    | none => .error (.overflow "int too large to convert to float")

/-- A reading as a device sends it. -/
structure RawSample where
  value : Int
  timestamp : Timestamp
deriving DecidableEq

/-- A reading as it is stored. -/
structure Sample where
  value : Binary64
  timestamp : Timestamp
deriving DecidableEq

/-- The reading with its value as a double, unscaled. -/
def RawSample.widen (s : RawSample) : Sample :=
  ⟨Binary64.ofInt s.value, s.timestamp⟩

/-- A payload that is no reading. -/
def malformed (message : String) : PipelineError :=
  ⟨.malformedPayload, message, []⟩

/-- A document that is no reading because of its fields. -/
def malformedFields (message : String) (problems : List FieldProblem) : PipelineError :=
  ⟨.malformedPayload, message, problems⟩

end SensorRelay
