import SensorRelay.Number.Binary64
import SensorRelay.Text.Digit

/-!
# Decimal numerals

A numeral is a sign, the digits before and after the point and an exponent. `toBinary64` is
the double nearest to it; `leadingDigits` takes the digits a text starts with.
-/

namespace SensorRelay

/-- A decimal numeral, read but not yet rounded. -/
structure Numeral where
  negative : Bool
  whole : List Nat
  fraction : List Nat
  exponent : Int
deriving DecidableEq

namespace Numeral

/-- The double nearest to the numeral. -/
def toBinary64 (n : Numeral) : Binary64 :=
  let digits := n.whole ++ n.fraction
  Binary64.ofMagnitude n.negative
    (Binary64.nearestDecimal (Text.ofDigits digits) digits.length
      (n.exponent - n.fraction.length))

/-- The integer before the point. -/
def toInt (n : Numeral) : Int :=
  if n.negative then -(Text.ofDigits n.whole : Int) else Text.ofDigits n.whole

end Numeral

end SensorRelay
