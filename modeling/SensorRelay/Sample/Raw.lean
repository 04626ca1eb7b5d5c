import SensorRelay.Sample.Basic
import SensorRelay.Text.Digit
import SensorRelay.Text.Encoding

/-!
# The raw form

A raw payload has twelve bytes: the ticks since 1970 as a signed 64-bit number and the value
as a signed 32-bit number, both with the most significant byte first. A tick is a millisecond
or a nanosecond; of nanoseconds only whole microseconds are kept.
-/

namespace SensorRelay

/-! ## Bytes of whole numbers -/

/-- The last `width` bytes of a number, the most significant first. -/
def bigEndian : Nat → Nat → Bytes
  | 0, _ => []
  | width + 1, n => bigEndian width (n / 256) ++ [UInt8.ofNat n]

/-- The number that bytes stand for, the most significant first. -/
def ofBigEndian (bytes : Bytes) : Nat :=
  bytes.foldl (fun n b => 256 * n + b.toNat) 0

/-- A signed number of `width` bytes in two's complement. -/
def signedBytes (width : Nat) (n : Int) : Bytes :=
  bigEndian width (n % Nat.pow 256 width).toNat

/-- The signed number that bytes stand for. -/
def ofSignedBytes (bytes : Bytes) : Int :=
  let n := ofBigEndian bytes
  if 2 * n < Nat.pow 256 bytes.length then n else (n : Int) - Nat.pow 256 bytes.length

/-- Does the number fit in a signed word of this many bits? -/
def fitsSigned (bits : Nat) (n : Int) : Bool :=
  -(Nat.pow 2 (bits - 1) : Int) ≤ n && n < Nat.pow 2 (bits - 1)

/-! ## Ticks -/

/-- What a tick of a raw timestamp is. -/
inductive TimestampUnit where
  | milliseconds
  | nanoseconds
deriving DecidableEq

namespace TimestampUnit

/-- The short name of the unit. -/
def name : TimestampUnit → String
  | milliseconds => "ms"
  | nanoseconds => "ns"

/-- The unit with this short name. -/
def ofName? (name : String) : Option TimestampUnit :=
  if name = "ms" then some .milliseconds
  else if name = "ns" then some .nanoseconds
  else none

/-- The instant that a number of ticks since 1970 names; it may lie outside the calendar. -/
def instant (unit : TimestampUnit) (ticks : Int) : Int :=
  match unit with
  | milliseconds => Timestamp.epoch + ticks * 1000
  | nanoseconds => Timestamp.epoch + Int.fdiv ticks 1000

/-- The ticks of an instant, rounded down. -/
def ticks (unit : TimestampUnit) (instant : Int) : Int :=
  match unit with
  | milliseconds => Int.fdiv (instant - Timestamp.epoch) 1000
  | nanoseconds => (instant - Timestamp.epoch) * 1000

/-- The ticks as a message about them shows them: nanoseconds as microseconds. -/
def shownTicks (unit : TimestampUnit) (ticks : Int) : Int :=
  match unit with
  | milliseconds => ticks
  | nanoseconds => Int.fdiv ticks 1000

end TimestampUnit

/-! ## Payloads -/

/-- The bytes of a raw payload. -/
def rawPayloadSize : Nat := 12

/-- The refusal of a payload of another size. -/
def badRawLength (size : Nat) : PipelineError :=
  malformed ("invalid raw payload length: expected " ++ String.ofList (Text.natChars rawPayloadSize)
    ++ ", got " ++ String.ofList (Text.natChars size))

/-- Reads a raw payload. -/
def RawSample.decode (unit : TimestampUnit) (payload : Bytes) : Except PipelineError RawSample :=
  if payload.length ≠ rawPayloadSize then .error (badRawLength payload.length)
  else
    let ticks := ofSignedBytes (payload.take 8)
    match Timestamp.ofInstant? (unit.instant ticks) with
    | some t => .ok ⟨ofSignedBytes (payload.drop 8), t⟩
    | none =>
      .error (malformed ("raw timestamp out of range: "
        ++ String.ofList (Text.intChars (unit.shownTicks ticks))))

/-- The refusal of a sample that has no raw form. -/
def cannotEncode (reason : String) : PipelineError :=
  malformed ("cannot encode raw sample: " ++ reason)

/-- Writes a raw payload. The ticks are checked before the value. -/
def RawSample.encodeQuantity (unit : TimestampUnit) (value : Quantity) (t : Timestamp) :
    Except PipelineError Bytes :=
  let ticks := unit.ticks t.instant
  if !fitsSigned 64 ticks then .error (cannotEncode "int too large to convert")
  else match value with
    | .double _ => .error (cannotEncode "required argument is not an integer")
    | .whole n =>
      if fitsSigned 32 n then .ok (signedBytes 8 ticks ++ signedBytes 4 n)
      else if fitsSigned 64 n then
        .error (cannotEncode "'i' format requires -2147483648 <= number <= 2147483647")
      else .error (cannotEncode "argument out of range")

/-- Writes a raw payload. -/
def RawSample.encode (unit : TimestampUnit) (s : RawSample) : Except PipelineError Bytes :=
  encodeQuantity unit (.whole s.value) s.timestamp

/-! ## Units by name -/

/-- The complaint about a unit of another name. -/
def unsupportedUnit (name : String) : Failure :=
  .invalidValue ("unsupported timestamp unit: " ++ Text.quoted name)

/-- Reads a raw payload with the unit of this name; the size is checked first. -/
def RawSample.decodeNamed (unit : String) (payload : Bytes) : Except Failure RawSample :=
  match TimestampUnit.ofName? unit with
  | some u => (decode u payload).mapError .pipeline
  | none =>
    if payload.length ≠ rawPayloadSize then .error (.pipeline (badRawLength payload.length))
    else .error (unsupportedUnit unit)

/-- Writes a raw payload with the unit of this name. -/
def RawSample.encodeNamed (unit : String) (value : Quantity) (t : Timestamp) :
    Except Failure Bytes :=
  match TimestampUnit.ofName? unit with
  | some u => (encodeQuantity u value t).mapError .pipeline
  | none => .error (unsupportedUnit unit)

end SensorRelay
