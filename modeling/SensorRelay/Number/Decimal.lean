import SensorRelay.Number.Binary64
import SensorRelay.Text.Digit

/-!
# Doubles as decimal text

`shortest` finds the fewest decimal digits that are still closer to a given double than to
any other, and of those the nearest to it. `wireChars` writes them the way payloads do:
positional between `10 ^ -5` and `10 ^ 16`, always with a point, otherwise with an exponent.
`fixedChars` writes a given number of decimal places.
-/

namespace SensorRelay.Binary64

/-! ## The fewest digits -/

/-- Does `d * 10 ^ e` round to the magnitude? Half way to a neighbour it does if the
magnitude is even. Both sides are in half units of `2 ^ -1074`. -/
def readsBack (magnitude d : Nat) (e : Int) : Bool :=
  let num := d * Nat.pow 10 e.toNat * Nat.pow 2 1075
  let den := Nat.pow 10 (-e).toNat
  let low := (unitsOf (magnitude - 1) + unitsOf magnitude) * den
  let high := (unitsOf magnitude + unitsOf (magnitude + 1)) * den
  if magnitude % 2 = 0 then low ≤ num && num ≤ high else low < num && num < high

/-- The multiple of `10 ^ e` that reads back as the magnitude, if one of the two next to it
does; of two the nearer, and of two equally near the even one. -/
def onGrid? (magnitude : Nat) (e : Int) : Option Nat :=
  let num := unitsOf magnitude * Nat.pow 10 (-e).toNat
  let den := Nat.pow 2 1074 * Nat.pow 10 e.toNat
  let d := num / den
  let twice := 2 * (num % den)
  let upFirst := den < twice || (den = twice && d % 2 = 1)
  let first := if upFirst then d + 1 else d
  let second := if upFirst then d else d + 1
  if readsBack magnitude first e then some first
  else if readsBack magnitude second e then some second
  else none

/-- Tries the grids `10 ^ e`, `10 ^ (e - 1)`, ... in turn; after the last one all digits of
the magnitude are taken. -/
def searchGrids (magnitude : Nat) : Nat → Int → Nat × Int
  | 0, _ => (unitsOf magnitude * Nat.pow 5 1074, -1074)
  | steps + 1, e =>
    match onGrid? magnitude e with
    | some d => (d, e)
    | none => searchGrids magnitude steps (e - 1)

/-- An exponent `e` with the magnitude below `10 ^ e`, and not far below. -/
def decimalBound (magnitude : Nat) : Int :=
  ((unitsOf magnitude).log2 - 1073 : Int) * 30103 / 100000 + 1

/-- The digits `d` and the exponent `e` of the shortest `d * 10 ^ e` that reads back as a
non-zero finite magnitude. -/
def shortest (magnitude : Nat) : Nat × Int :=
  searchGrids magnitude 20 (decimalBound magnitude)

/-! ## Layout -/

/-- The digits of `d * 10 ^ e` laid out; the point stands `lead` digits after the start. -/
def layout (d : Nat) (e : Int) : List Char :=
  let digits := Text.natChars d
  let lead : Int := digits.length + e
  if -5 < lead ∧ lead ≤ 16 then
    if lead ≤ 0 then
      '0' :: '.' :: (List.replicate (-lead).toNat '0' ++ digits)
    else if 0 ≤ e then
      digits ++ List.replicate e.toNat '0' ++ ['.', '0']
    else
      digits.take lead.toNat ++ '.' :: digits.drop lead.toNat
  else
    let mantissa := match digits with
      | [] => []
      | [c] => [c]
      | c :: cs => c :: '.' :: cs
    let exponent := lead - 1
    mantissa ++ 'e' :: (if exponent < 0 then '-' else '+') :: Text.natChars exponent.natAbs

/-- A finite double the way payloads hold it. -/
def wireChars (x : Binary64) : List Char :=
  let sign := if x.negative then ['-'] else []
  if x.magnitude = 0 then sign ++ ['0', '.', '0']
  else
    let (d, e) := shortest x.magnitude
    sign ++ layout d e

/-- A double with a fixed number of decimal places, rounded half to even. -/
def fixedChars (places : Nat) (x : Binary64) : List Char :=
  if x.isNaN then ['n', 'a', 'n']
  else
    let sign := if x.negative then ['-'] else []
    if x.isInfinite then sign ++ ['i', 'n', 'f']
    else
      let n := roundDiv (unitsOf x.magnitude * Nat.pow 10 places) (Nat.pow 2 1074)
      sign ++ Text.natChars (n / Nat.pow 10 places) ++
        (if places = 0 then [] else '.' :: Text.paddedNat places (n % Nat.pow 10 places))

end SensorRelay.Binary64
