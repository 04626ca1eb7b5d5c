import SensorRelay.Error
import SensorRelay.Json.Basic
import SensorRelay.Text.Blank
import SensorRelay.Text.Digit
import SensorRelay.Text.Split

/-!
# Integers given loosely

Where a document or a path asks for an integer, a boolean, a double without fraction and a
numeral in a string will do as well. A numeral may have blanks around it, a sign, leading
zeros, single underscores between digits and a fraction of zeros.
-/

namespace SensorRelay

open Text

/-- The numeral without a fraction that consists of zeros. -/
def dropZeroFraction (cs : List Char) : Option (List Char) :=
  match cutFirst? '.' cs with
  | none => some cs
  | some (whole, zeros) =>
    if !zeros.isEmpty && zeros.all (· == '0') then some whole else none

/-- The most characters that a numeral may have. -/
def maxNumeralLength : Nat := 4300

/-- Reads a numeral in a string. -/
def laxNumeral (s : String) : Except FieldFault Int :=
  let cs := trimBy isWhiteSpace s.toList
  if maxNumeralLength < cs.length then .error .oversizedInteger
  else
    let (negative, rest) := takeSign cs
    match (dropZeroFraction rest).bind groupedDigits? with
    | none => .error .unparsableInteger
    | some ds => .ok (if negative then -(ofDigits ds : Int) else ofDigits ds)

/-- A double as an integer: its size must fit in 63 bits and it must have no fraction. -/
def laxDouble (x : Binary64) : Except FieldFault Int :=
  if !x.isFinite then .error .fractionalInteger
  else if !x.isWhole then .error .fractionalInteger
  else if x.truncate.natAbs < Nat.pow 2 63 then .ok x.truncate
  else .error .oversizedInteger

/-- Reads an integer given loosely. -/
def laxInteger : Json → Except FieldFault Int
  | .int n => .ok n
  | .bool b => .ok (if b then 1 else 0)
  | .double x => laxDouble x
  | .str s => laxNumeral s
  | _ => .error .notInteger

end SensorRelay
