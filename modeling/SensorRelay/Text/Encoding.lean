import SensorRelay.Text.Digit
import SensorRelay.Text.Quoted

/-!
# Bytes as text

Hexadecimal, base 64 with padding, percent escapes and UTF-8. Bytes are lists of `UInt8`
throughout the library.
-/

namespace SensorRelay

/-- A payload. -/
abbrev Bytes := List UInt8

namespace Text

/-! ## Hexadecimal -/

/-- The value of a hexadecimal digit in either case. -/
def hexValue? (c : Char) : Option Nat :=
  if '0' ≤ c ∧ c ≤ '9' then some (c.toNat - 48)
  else if 'a' ≤ c ∧ c ≤ 'f' then some (c.toNat - 87)
  else if 'A' ≤ c ∧ c ≤ 'F' then some (c.toNat - 55)
  else none

/-- Two small digits per byte. -/
def toHex (bytes : Bytes) : String :=
  String.ofList (bytes.flatMap fun b => hexChars 2 b.toNat)

/-- Reads two digits per byte. -/
def ofHexChars? : List Char → Option Bytes
  | [] => some []
  | [_] => none
  | a :: b :: rest => do
    let hi ← hexValue? a
    let lo ← hexValue? b
    let bytes ← ofHexChars? rest
    return UInt8.ofNat (16 * hi + lo) :: bytes

/-- The bytes a hexadecimal text stands for. -/
def ofHex? (s : String) : Option Bytes :=
  ofHexChars? s.toList

/-- The number a hexadecimal text stands for. -/
def hexNumber? (cs : List Char) : Option Nat :=
  if cs.isEmpty then none
  else (cs.mapM hexValue?).map fun ds => ds.foldl (fun n d => 16 * n + d) 0

/-! ## Base 64 -/

/-- The sixty-four signs in order. -/
def base64Sign (n : Nat) : Char :=
  if n < 26 then Char.ofNat (65 + n)
  else if n < 52 then Char.ofNat (71 + n)
  else if n < 62 then Char.ofNat (n - 4)
  else if n = 62 then '+' else '/'

/-- Three bytes give four signs; one or two at the end are filled up with `=`. -/
def base64Chars : Bytes → List Char
  | [] => []
  | [a] =>
    let n := a.toNat * 16
    [base64Sign (n / 64), base64Sign (n % 64), '=', '=']
  | [a, b] =>
    let n := (a.toNat * 256 + b.toNat) * 4
    [base64Sign (n / 4096), base64Sign (n / 64 % 64), base64Sign (n % 64), '=']
  | a :: b :: c :: rest =>
    let n := a.toNat * 65536 + b.toNat * 256 + c.toNat
    base64Sign (n / 262144) :: base64Sign (n / 4096 % 64) :: base64Sign (n / 64 % 64)
      :: base64Sign (n % 64) :: base64Chars rest

/-- The base 64 text of some bytes. -/
def toBase64 (bytes : Bytes) : String :=
  String.ofList (base64Chars bytes)

/-- The value of one of the sixty-four signs. -/
def base64Value? (c : Char) : Option Nat :=
  if 'A' ≤ c ∧ c ≤ 'Z' then some (c.toNat - 65)
  else if 'a' ≤ c ∧ c ≤ 'z' then some (c.toNat - 71)
  else if '0' ≤ c ∧ c ≤ '9' then some (c.toNat + 4)
  else if c = '+' then some 62
  else if c = '/' then some 63
  else none

/-- Reads groups of four signs, the last one filled up with `=`. -/
def ofBase64Chars? : List Char → Option Bytes
  | [] => some []
  | [a, b, '=', '='] => do
    let n := (← base64Value? a) * 64 + (← base64Value? b)
    return [UInt8.ofNat (n / 16)]
  | [a, b, c, '='] => do
    let n := (← base64Value? a) * 4096 + (← base64Value? b) * 64 + (← base64Value? c)
    return [UInt8.ofNat (n / 1024), UInt8.ofNat (n / 4 % 256)]
  | a :: b :: c :: d :: rest => do
    let n := (← base64Value? a) * 262144 + (← base64Value? b) * 4096
      + (← base64Value? c) * 64 + (← base64Value? d)
    let bytes ← ofBase64Chars? rest
    return UInt8.ofNat (n / 65536) :: UInt8.ofNat (n / 256 % 256) :: UInt8.ofNat (n % 256)
      :: bytes
  | _ => none

/-! ## UTF-8 -/

/-- The UTF-8 bytes of a text. -/
def utf8 (s : String) : Bytes :=
  s.toUTF8.toList

/-- The text with these UTF-8 bytes, if they are well formed. -/
def ofUtf8? (bytes : Bytes) : Option String :=
  String.fromUTF8? ⟨bytes.toArray⟩

/-- How many bytes follow a lead byte, and the bounds of the first of them. -/
def followers (lead : UInt8) : Nat × UInt8 × UInt8 :=
  if lead < 0xC2 then (0, 0, 0)
  else if lead < 0xE0 then (1, 0x80, 0xBF)
  else if lead = 0xE0 then (2, 0xA0, 0xBF)
  else if lead = 0xED then (2, 0x80, 0x9F)
  else if lead < 0xF0 then (2, 0x80, 0xBF)
  else if lead = 0xF0 then (3, 0x90, 0xBF)
  else if lead < 0xF4 then (3, 0x80, 0xBF)
  else if lead = 0xF4 then (3, 0x80, 0x8F)
  else (0, 0, 0)

/-- How many bytes after a lead byte go on with its character. -/
def validRun (lead : UInt8) (bytes : Bytes) : Nat :=
  let (count, low, high) := followers lead
  match bytes.take count with
  | [] => 0
  | b :: bs =>
    if low ≤ b && b ≤ high then 1 + (bs.takeWhile fun b => 0x80 ≤ b && b ≤ 0xBF).length else 0

/-- The text with these UTF-8 bytes; the beginning of a character that is not completed, and a
byte that begins none, are shown by one replacement character each. -/
def utf8Lossy : Nat → Bytes → List Char
  | 0, _ => []
  | _, [] => []
  | fuel + 1, b :: bs =>
    let n := validRun b bs
    match ofUtf8? (b :: bs.take n) with
    | some s => s.toList ++ utf8Lossy fuel (bs.drop n)
    | none => Char.ofNat 0xFFFD :: utf8Lossy fuel (bs.drop n)

/-- The text with these UTF-8 bytes, replacing what is not well formed. -/
def ofUtf8Lossy (bytes : Bytes) : String :=
  String.ofList (utf8Lossy bytes.length bytes)

/-! ## Percent escapes -/

/-- Resolves `%XX` in UTF-8 bytes; an incomplete escape stands for itself. -/
def percentDecodeBytes : Bytes → Bytes
  | [] => []
  | [a] => [a]
  | [a, b] => [a, b]
  | a :: b :: c :: rest =>
    match hexValue? (Char.ofNat b.toNat), hexValue? (Char.ofNat c.toNat) with
    | some hi, some lo =>
      if a = 0x25 then UInt8.ofNat (16 * hi + lo) :: percentDecodeBytes rest
      else a :: percentDecodeBytes (b :: c :: rest)
    | _, _ => a :: percentDecodeBytes (b :: c :: rest)

/-- The text with its percent escapes resolved. -/
def percentDecode (s : String) : String :=
  ofUtf8Lossy (percentDecodeBytes (utf8 s))

/-- The characters that are never escaped. -/
def isUnreserved (c : Char) : Bool :=
  c.isAlphanum || c == '-' || c == '.' || c == '_' || c == '~'

/-- Escapes every byte outside the unreserved and the `safe` characters. -/
def percentEncode (safe : List Char) (s : String) : String :=
  String.ofList ((utf8 s).flatMap fun b =>
    let c := Char.ofNat b.toNat
    if b < 0x80 && (isUnreserved c || safe.contains c) then [c]
    else '%' :: (hexChars 2 b.toNat).map Char.toUpper)

end Text
end SensorRelay
