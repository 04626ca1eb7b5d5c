/-!
# Doubles

A double is its 64 bits. The low 63 of them, the magnitude, grow with the absolute value, and
a finite magnitude stands for a whole number of units of `2 ^ -1074` (`unitsOf`). Every
operation is therefore exact arithmetic on whole numbers followed by one rounding, to the
nearest magnitude and on a tie to the even one (`nearest`).
-/

namespace SensorRelay

/-- A double precision number, by its bits. -/
structure Binary64 where
  bits : UInt64
deriving DecidableEq, Inhabited

namespace Binary64

/-! ## Fields -/

/-- The magnitude of infinity; larger ones are not numbers. -/
def infinityMagnitude : Nat := 0x7FF0000000000000

/-- The bits below the sign. -/
def magnitude (x : Binary64) : Nat := x.bits.toNat % Nat.pow 2 63

/-- Is the sign bit set? -/
def negative (x : Binary64) : Bool := Nat.pow 2 63 ≤ x.bits.toNat

/-- Neither infinite nor not a number. -/
def isFinite (x : Binary64) : Bool := x.magnitude < infinityMagnitude

/-- Not a number. -/
def isNaN (x : Binary64) : Bool := infinityMagnitude < x.magnitude

/-- Plus or minus infinity. -/
def isInfinite (x : Binary64) : Bool := x.magnitude == infinityMagnitude

/-- The double with this sign and magnitude. -/
def ofMagnitude (negative : Bool) (magnitude : Nat) : Binary64 :=
  ⟨UInt64.ofNat (magnitude + if negative then Nat.pow 2 63 else 0)⟩

/-- Plus or minus zero. -/
def zero (negative : Bool) : Binary64 := ofMagnitude negative 0

/-- Plus or minus infinity. -/
def infinity (negative : Bool) : Binary64 := ofMagnitude negative infinityMagnitude

/-- The quiet value that is not a number. -/
def nan : Binary64 := ⟨0x7FF8000000000000⟩

/-- The units of `2 ^ -1074` in a magnitude. -/
def unitsOf (magnitude : Nat) : Nat :=
  if magnitude < Nat.pow 2 52 then magnitude
  else (magnitude % Nat.pow 2 52 + Nat.pow 2 52) * Nat.pow 2 (magnitude / Nat.pow 2 52 - 1)

/-- The signed number of units of `2 ^ -1074`. -/
def units (x : Binary64) : Int :=
  if x.negative then -(unitsOf x.magnitude) else unitsOf x.magnitude

/-! ## Rounding -/

/-- The quotient rounded to the nearest whole number, a half to the even neighbour. -/
def roundDiv (num den : Nat) : Nat :=
  let q := num / den
  let r := num % den
  if 2 * r < den then q else if den < 2 * r then q + 1 else q + q % 2

/-- The magnitude nearest to `num / den` units; beyond the largest double it is infinity. -/
def nearestUnits (num den : Nat) : Nat :=
  let k := (num / den).log2 - 52
  min infinityMagnitude (k * Nat.pow 2 52 + roundDiv num (den * Nat.pow 2 k))

/-- The magnitude nearest to the quotient `num / den`. -/
def nearest (num den : Nat) : Nat :=
  nearestUnits (num * Nat.pow 2 1074) den

/-- The double nearest to `n / den` units, with the sign of `n`. -/
def ofUnits (n : Int) (den : Nat) : Binary64 :=
  ofMagnitude (n < 0) (nearestUnits n.natAbs den)

/-- The double nearest to an integer. -/
def ofInt (n : Int) : Binary64 :=
  ofMagnitude (n < 0) (nearest n.natAbs 1)

/-- The double nearest to an integer, unless the integer is too large. -/
def ofInt? (n : Int) : Option Binary64 :=
  let x := ofInt n
  if x.isFinite then some x else none

/-- The magnitude nearest to `m * 10 ^ e`. Exponents far outside the range of doubles are
answered from the number of digits of `m`, `digits`, without computing the power. -/
def nearestDecimal (m digits : Nat) (e : Int) : Nat :=
  if m = 0 then 0
  else if 400 < e then infinityMagnitude
  else if e + digits < -400 then 0
  else if 0 ≤ e then nearest (m * Nat.pow 10 e.toNat) 1
  else nearest m (Nat.pow 10 (-e).toNat)

/-! ## Arithmetic and order -/

/-- The sum, rounded. -/
def add (x y : Binary64) : Binary64 :=
  if x.isNaN || y.isNaN then nan
  else if x.isInfinite then
    if y.isInfinite && x.negative != y.negative then nan else x
  else if y.isInfinite then y
  else
    let n := x.units + y.units
    if n = 0 then zero (x.negative && y.negative) else ofUnits n 1

/-- The product with a positive whole number, rounded. -/
def scale (x : Binary64) (k : Nat) : Binary64 :=
  if !x.isFinite then x
  else ofMagnitude x.negative (nearestUnits (unitsOf x.magnitude * k) 1)

/-- The quotient by a positive whole number, rounded. -/
def divNat (x : Binary64) (k : Nat) : Binary64 :=
  if !x.isFinite then x
  else ofMagnitude x.negative (nearestUnits (unitsOf x.magnitude) k)

/-- Strictly less, never with a value that is not a number. -/
def lt (x y : Binary64) : Bool :=
  if x.isNaN || y.isNaN then false
  else if x.isInfinite || y.isInfinite then
    (if x.isInfinite then (if x.negative then -1 else 1) else (0 : Int))
      < (if y.isInfinite then (if y.negative then -1 else 1) else (0 : Int))
  else decide (x.units < y.units)

/-- Less or equal, never with a value that is not a number. -/
def le (x y : Binary64) : Bool :=
  !x.isNaN && !y.isNaN && !lt y x

/-- The whole part of a finite double, cut toward zero. -/
def truncate (x : Binary64) : Int :=
  Int.tdiv x.units (Nat.pow 2 1074)

/-- A finite double without fractional part. -/
def isWhole (x : Binary64) : Bool :=
  x.isFinite && unitsOf x.magnitude % Nat.pow 2 1074 == 0

/-- The same magnitude without distinguishing the two zeros. -/
def plusZero (x : Binary64) : Binary64 :=
  if x.magnitude = 0 then zero false else x

end Binary64
end SensorRelay
