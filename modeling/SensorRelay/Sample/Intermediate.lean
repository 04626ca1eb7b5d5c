import SensorRelay.Json.Parser
import SensorRelay.Json.Printer
import SensorRelay.Sample.Basic
import SensorRelay.Time.IsoText

/-!
# The intermediate form

Between the two stages a sample is a JSON object with the members `value`, a number, and
`timestamp`, an ISO 8601 text. Writing always gives the same compact form; reading accepts any
layout of the object and any form of the timestamp, and takes a naive one as UTC.
-/

namespace SensorRelay

/-- The document of a sample. -/
def Sample.toJson (s : Sample) : Json :=
  .obj [("value", .double s.value), ("timestamp", .str s.timestamp.asUtc.iso)]

/-- The text of a sample. -/
def Sample.encodeText (s : Sample) : String :=
  s.toJson.compact

/-- The payload of a sample. -/
def Sample.encode (s : Sample) : Bytes :=
  Text.utf8 s.encodeText

/-- The kind of value that was found where an object is needed. -/
def Json.typeName : Json → String
  | .null => "NoneType"
  | .bool _ => "bool"
  | .int _ => "int"
  | .double _ => "float"
  | .str _ => "str"
  | .arr _ => "list"
  | .obj _ => "dict"

/-- The value of a sample: any number, but nothing that only looks like one. -/
def readValue (j : Option Json) : Except FieldFault Binary64 :=
  match j with
  | none => .error .missing
  | some (.int n) => .ok (Binary64.ofInt n)
  | some (.double x) => .ok x
  | some _ => .error .notNumber

/-- The timestamp of a sample. -/
def readTimestamp (j : Option Json) : Except FieldFault Timestamp :=
  match j with
  | none => .error .missing
  | some (.str s) =>
    match Timestamp.ofIso? s with
    | some t => .ok t.asUtc
    | none => .error (.notIso s)
  | some _ => .error .notTimestampText

/-- The problem of a field, if reading it failed. -/
def problemIn {α : Type} (name : String) : Except FieldFault α → List FieldProblem
  | .ok _ => []
  | .error fault => [⟨[.field name], fault⟩]

/-- Reads the payload of a sample. -/
def Sample.decode (payload : Bytes) : Except PipelineError Sample :=
  match Json.document? payload with
  | none => .error (malformed "invalid JSON")
  | some (.obj fields) =>
    let value := readValue (Json.lookup "value" fields)
    let timestamp := readTimestamp (Json.lookup "timestamp" fields)
    match value, timestamp with
    | .ok value, .ok timestamp => .ok ⟨value, timestamp⟩
    | _, _ =>
      .error (malformedFields "invalid intermediate payload"
        (problemIn "value" value ++ problemIn "timestamp" timestamp))
  | some j => .error (malformed ("expected JSON object, got " ++ j.typeName))

end SensorRelay
