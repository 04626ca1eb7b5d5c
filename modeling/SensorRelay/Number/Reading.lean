import SensorRelay.Error
import SensorRelay.Number.Numeral
import SensorRelay.Text.Blank
import SensorRelay.Text.Quoted

/-!
# Reading numbers

Settings and arguments give numbers as people write them: with white space around them, a sign,
digits of any script and single underscores between digits. `readInteger` reads integers and
`readDouble` doubles, for which infinity and what is not a number have names.
-/

namespace SensorRelay.Number

open Text

/-- The numeral without white space at its ends and with the digits `0` to `9`. -/
def plainNumeral (s : String) : List Char :=
  (trimBy isWhiteSpace s.toList).map fun c =>
    match digitValue? c with
    | some d => digitChar d
    | none => c

/-- Is the character one of the digits `0` to `9`? -/
def isAsciiDigit (c : Char) : Bool := (asciiDigit? c).isSome

/-! ## Integers -/

/-- The most digits an integer may have. -/
def maxDigits : Nat := 4300

/-- The refusal of an integer with too many digits. -/
def tooManyDigits (count : Nat) : Failure :=
  .invalidValue ("Exceeds the limit (" ++ String.ofList (natChars maxDigits)
    ++ " digits) for integer string conversion: value has " ++ String.ofList (natChars count)
    ++ " digits; use sys.set_int_max_str_digits() to increase the limit")

/-- The most characters of a text that its refusal as an integer shows. -/
def maxShown : Nat := 200

/-- The refusal of a text that is no integer. -/
def notInteger (s : String) : Failure :=
  .invalidValue ("invalid literal for int() with base 10: "
    ++ String.ofList ((quoted s).toList.take maxShown))

/-- Reads an integer. Too many digits are refused even if something else follows them. -/
def readInteger (s : String) : Except Failure Int :=
  let (negative, cs) := takeSign (plainNumeral s)
  match groupedDigits? (cs.takeWhile fun c => isAsciiDigit c || c == '_') with
  | none => .error (notInteger s)
  | some digits =>
    if maxDigits < digits.length then .error (tooManyDigits digits.length)
    else if !(cs.dropWhile fun c => isAsciiDigit c || c == '_').isEmpty then
      .error (notInteger s)
    else .ok (if negative then -(ofDigits digits : Int) else ofDigits digits)

/-! ## Doubles -/

/-- The numeral without its underscores, each of which must stand between two digits. -/
def dropUnderscores? : Bool → List Char → Option (List Char)
  | _, [] => some []
  | afterDigit, c :: cs =>
    if c = '_' then
      if afterDigit && cs.head?.any isAsciiDigit then dropUnderscores? false cs else none
    else (dropUnderscores? (isAsciiDigit c) cs).map (c :: ·)

/-- The digits after a point, if there is one, and what follows them. -/
def takeFraction : List Char → List Nat × List Char
  | '.' :: cs => leadingDigits cs
  | cs => ([], cs)

/-- The exponent that ends a numeral. -/
def exponent? : List Char → Option Int
  | [] => some 0
  | c :: cs =>
    if c.toLower = 'e' then
      let (negative, cs) := takeSign cs
      (readNat? cs).map fun n => if negative then -(n : Int) else n
    else none

/-- Digits with or without a point, at least one of them, and an exponent. -/
def unsigned? (negative : Bool) (cs : List Char) : Option Numeral :=
  let (whole, cs) := leadingDigits cs
  let (fraction, cs) := takeFraction cs
  if whole.isEmpty && fraction.isEmpty then none
  else (exponent? cs).map fun e => ⟨negative, whole, fraction, e⟩

/-- The value that a word stands for. -/
def namedDouble? (negative : Bool) (word : String) : Option Binary64 :=
  if word = "inf" ∨ word = "infinity" then some (.infinity negative)
  else if word = "nan" then some .nan
  else none

/-- Reads a double, if the text is one. -/
def double? (s : String) : Option Binary64 :=
  match dropUnderscores? false (plainNumeral s) with
  | none => none
  | some cs =>
    let (negative, cs) := takeSign cs
    (namedDouble? negative (String.ofList (cs.map Char.toLower))).or
      ((unsigned? negative cs).map Numeral.toBinary64)

/-- Reads a double. -/
def readDouble (s : String) : Except Failure Binary64 :=
  match double? s with
  | some x => .ok x
  | none => .error (.invalidValue ("could not convert string to float: " ++ quoted s))

end SensorRelay.Number
