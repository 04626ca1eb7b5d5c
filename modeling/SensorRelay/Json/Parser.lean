import SensorRelay.Json.Basic
import SensorRelay.Number.Numeral
import SensorRelay.Text.Encoding
import SensorRelay.Text.Split

/-!
# Reading JSON

`Json.parse?` reads one value from a text, with nothing but white space around it.
`Json.document?` is the reading of a document that arrives as bytes: well-formed UTF-8, a
nesting of at most 1024, integers beyond 64 bits as doubles, and no number that overflows.
-/

namespace SensorRelay.Json

open Text

/-- The four characters that may stand between tokens. -/
def isSpace (c : Char) : Bool :=
  c == ' ' || c == '\t' || c == '\n' || c == '\r'

/-- The text after its leading spaces. -/
def skipSpace (cs : List Char) : List Char :=
  cs.dropWhile isSpace

/-- Skips spaces, then the character `c`. -/
def skipTo? (c : Char) (cs : List Char) : Option (List Char) :=
  match skipSpace cs with
  | d :: rest => if d = c then some rest else none
  | [] => none

/-! ## Strings -/

/-- The character a one-letter escape stands for. -/
def escaped? (c : Char) : Option Char :=
  if c = '"' ∨ c = '\\' ∨ c = '/' then some c
  else if c = 'b' then some '\x08'
  else if c = 'f' then some '\x0c'
  else if c = 'n' then some '\n'
  else if c = 'r' then some '\r'
  else if c = 't' then some '\t'
  else none

/-- Is it the first unit of a pair? -/
def isHighUnit (n : Nat) : Bool := 0xD800 ≤ n && n < 0xDC00

/-- Is it the second unit of a pair? -/
def isLowUnit (n : Nat) : Bool := 0xDC00 ≤ n && n < 0xE000

/-- Puts a character in front of the text that was read. -/
def consText (c : Char) (r : Option (List Char × List Char)) : Option (List Char × List Char) :=
  r.map fun (cs, rest) => (c :: cs, rest)

/-- The text of a string after its opening quote, and what follows the closing one. After a
first unit of a pair, `high`, only the second one may follow. -/
def stringBody? (high : Option Nat) : List Char → Option (List Char × List Char)
  | [] => none
  | c :: rest =>
    if c = '"' then if high.isNone then some ([], rest) else none
    else if c = '\\' then
      match rest with
      | [] => none
      | e :: rest =>
        if e = 'u' then
          match rest with
          | a :: b :: c :: d :: rest =>
            match hexNumber? [a, b, c, d], high with
            | none, _ => none
            | some n, some h =>
              if isLowUnit n then
                consText (Char.ofNat (0x10000 + (h - 0xD800) * 0x400 + (n - 0xDC00)))
                  (stringBody? none rest)
              else none
            | some n, none =>
              if isHighUnit n then stringBody? (some n) rest
              else if isLowUnit n then none
              else consText (Char.ofNat n) (stringBody? none rest)
          | _ => none
        else
          match escaped? e, high with
          | some x, none => consText x (stringBody? none rest)
          | _, _ => none
    else if high.isSome ∨ c.toNat < 0x20 then none
    else consText c (stringBody? none rest)

/-! ## Numbers -/

/-- The whole part of a number: digits without a leading zero. -/
def wholePart? (cs : List Char) : Option (List Nat × List Char) :=
  match leadingDigits cs with
  | ([], _) => none
  | (0 :: _ :: _, _) => none
  | r => some r

/-- A point and at least one digit, or nothing. -/
def fractionPart? (cs : List Char) : Option (List Nat × List Char) :=
  match dropLead? ['.'] cs with
  | none => some ([], cs)
  | some rest =>
    match leadingDigits rest with
    | ([], _) => none
    | r => some r

/-- The letter, an optional sign and at least one digit, or nothing. -/
def exponentPart? (cs : List Char) : Option (Option Int × List Char) :=
  match cs with
  | [] => some (none, [])
  | c :: rest =>
    if c = 'e' ∨ c = 'E' then
      let (negative, rest) := match rest with
        | '-' :: more => (true, more)
        | '+' :: more => (false, more)
        | more => (false, more)
      match leadingDigits rest with
      | ([], _) => none
      | (ds, rest) =>
        let n : Int := ofDigits ds
        some (some (if negative then -n else n), rest)
    else some (none, cs)

/-- A number; it is an integer exactly when it has neither point nor exponent. -/
def number? (cs : List Char) : Option (Json × List Char) := do
  let (negative, rest) := match dropLead? ['-'] cs with
    | some rest => (true, rest)
    | none => (false, cs)
  let (whole, rest) ← wholePart? rest
  let (fraction, rest) ← fractionPart? rest
  let (exponent, rest) ← exponentPart? rest
  let n : Numeral := ⟨negative, whole, fraction, exponent.getD 0⟩
  if fraction.isEmpty ∧ exponent.isNone then return (.int n.toInt, rest)
  else return (.double n.toBinary64, rest)

/-! ## Values -/

mutual

/-- A value at the start of a text that begins with no space. The first argument bounds the
number of nested and successive values; twice the length of the text is enough. -/
def value? : Nat → List Char → Option (Json × List Char)
  | 0, _ => none
  | fuel + 1, cs =>
    match cs with
    | [] => none
    | '"' :: rest => (stringBody? none rest).map fun (s, rest) => (.str (String.ofList s), rest)
    | '[' :: rest =>
      match skipTo? ']' rest with
      | some rest => some (.arr [], rest)
      | none => (items? fuel rest).map fun (js, rest) => (.arr js, rest)
    | '{' :: rest =>
      match skipTo? '}' rest with
      | some rest => some (.obj [], rest)
      | none => (fields? fuel rest).map fun (fs, rest) => (.obj fs, rest)
    | 't' :: rest => (dropLead? ['r', 'u', 'e'] rest).map fun rest => (.bool true, rest)
    | 'f' :: rest => (dropLead? ['a', 'l', 's', 'e'] rest).map fun rest => (.bool false, rest)
    | 'n' :: rest => (dropLead? ['u', 'l', 'l'] rest).map fun rest => (.null, rest)
    | cs => number? cs

/-- The items of an array up to its closing bracket; there is at least one. -/
def items? : Nat → List Char → Option (List Json × List Char)
  | 0, _ => none
  | fuel + 1, cs =>
    match value? fuel (skipSpace cs) with
    | none => none
    | some (j, rest) =>
      match skipSpace rest with
      | ']' :: rest => some ([j], rest)
      | ',' :: rest => (items? fuel rest).map fun (js, rest) => (j :: js, rest)
      | _ => none

/-- The members of an object up to its closing brace; there is at least one. -/
def fields? : Nat → List Char → Option (List (String × Json) × List Char)
  | 0, _ => none
  | fuel + 1, cs =>
    match skipSpace cs with
    | '"' :: rest =>
      match stringBody? none rest with
      | none => none
      | some (name, rest) =>
        match skipTo? ':' rest with
        | none => none
        | some rest =>
          match value? fuel (skipSpace rest) with
          | none => none
          | some (j, rest) =>
            match skipSpace rest with
            | '}' :: rest => some ([(String.ofList name, j)], rest)
            | ',' :: rest =>
              (fields? fuel rest).map fun (fs, rest) => ((String.ofList name, j) :: fs, rest)
            | _ => none
    | _ => none

end

/-- Reads a text that holds one value. -/
def parse? (cs : List Char) : Option Json :=
  match value? (2 * cs.length + 2) (skipSpace cs) with
  | some (j, rest) => if (skipSpace rest).isEmpty then some j else none
  | none => none

/-! ## Documents -/

/-- The integers that a document can hold as such. -/
def isWireInt (n : Int) : Bool := -(Nat.pow 2 63 : Int) ≤ n && n < Nat.pow 2 64

mutual

/-- Turns the integers beyond 64 bits into doubles; refuses numbers that overflow. -/
def settle? : Json → Option Json
  | .int n =>
    if isWireInt n then some (.int n) else (Binary64.ofInt? n).map .double
  | .double x => if x.isFinite then some (.double x) else none
  | .arr items => (settleItems? items).map .arr
  | .obj fields => (settleFields? fields).map .obj
  | j => some j

/-- Settles every item. -/
def settleItems? : List Json → Option (List Json)
  | [] => some []
  | j :: js =>
    match settle? j, settleItems? js with
    | some j, some js => some (j :: js)
    | _, _ => none

/-- Settles every member. -/
def settleFields? : List (String × Json) → Option (List (String × Json))
  | [] => some []
  | (name, j) :: fs =>
    match settle? j, settleFields? fs with
    | some j, some fs => some ((name, j) :: fs)
    | _, _ => none

end

/-- The greatest nesting of a document. -/
def maxDepth : Nat := 1024

/-- Reads a document. -/
def document? (bytes : Bytes) : Option Json :=
  match ofUtf8? bytes with
  | none => none
  | some s =>
    match parse? s.toList with
    | none => none
    | some j => if j.depth ≤ maxDepth then settle? j else none

end SensorRelay.Json
