import SensorRelay.Json.Basic
import SensorRelay.Number.Decimal
import SensorRelay.Text.Quoted

/-!
# Writing JSON

`Json.compactChars` writes a value without any space, `Json.indentedChars` with each item and
member on a line of its own, two spaces per level. In strings only the quote, the backslash
and the controls below the space are escaped. A double that is not finite is `null`.
-/

namespace SensorRelay.Json

/-- One character of a string. -/
def stringChar (c : Char) : List Char :=
  if c = '"' then ['\\', '"']
  else if c = '\\' then ['\\', '\\']
  else if 0x20 ≤ c.toNat then [c]
  else if c = '\x08' then ['\\', 'b']
  else if c = '\t' then ['\\', 't']
  else if c = '\n' then ['\\', 'n']
  else if c = '\x0c' then ['\\', 'f']
  else if c = '\r' then ['\\', 'r']
  else '\\' :: 'u' :: Text.hexChars 4 c.toNat

/-- A string with its quotes. -/
def stringChars (s : String) : List Char :=
  '"' :: s.toList.flatMap stringChar ++ ['"']

/-- A double; there is no text for one that is not finite. -/
def doubleChars (x : Binary64) : List Char :=
  if x.isFinite then x.wireChars else "null".toList

/-- A value without parts. -/
def leafChars : Json → List Char
  | .bool b => (if b then "true" else "false").toList
  | .int n => Text.intChars n
  | .double x => doubleChars x
  | .str s => stringChars s
  | _ => "null".toList

mutual

/-- The text of a value without spaces. -/
def compactChars : Json → List Char
  | .arr items => '[' :: compactItems items ++ [']']
  | .obj fields => '\x7b' :: compactFields fields ++ ['\x7d']
  | j => leafChars j

/-- Items with commas between them. -/
def compactItems : List Json → List Char
  | [] => []
  | [j] => compactChars j
  | j :: js => compactChars j ++ ',' :: compactItems js

/-- Members with commas between them. -/
def compactFields : List (String × Json) → List Char
  | [] => []
  | [(name, j)] => stringChars name ++ ':' :: compactChars j
  | (name, j) :: fs => stringChars name ++ ':' :: compactChars j ++ ',' :: compactFields fs

end

/-- A line end and the spaces of a level. -/
def newLine (level : Nat) : List Char :=
  '\n' :: List.replicate (2 * level) ' '

mutual

/-- The text of a value that stands at `level`, one item or member to a line. -/
def indentedChars (level : Nat) : Json → List Char
  | .arr [] => ['[', ']']
  | .obj [] => ['\x7b', '\x7d']
  | .arr items => '[' :: indentedItems (level + 1) items ++ newLine level ++ [']']
  | .obj fields => '\x7b' :: indentedFields (level + 1) fields ++ newLine level ++ ['\x7d']
  | j => leafChars j

/-- Items, each on a line. -/
def indentedItems (level : Nat) : List Json → List Char
  | [] => []
  | [j] => newLine level ++ indentedChars level j
  | j :: js => newLine level ++ indentedChars level j ++ ',' :: indentedItems level js

/-- Members, each on a line. -/
def indentedFields (level : Nat) : List (String × Json) → List Char
  | [] => []
  | [(name, j)] => newLine level ++ stringChars name ++ ':' :: ' ' :: indentedChars level j
  | (name, j) :: fs =>
    newLine level ++ stringChars name ++ ':' :: ' ' :: indentedChars level j
      ++ ',' :: indentedFields level fs

end

/-- The text of a value without spaces. -/
def compact (j : Json) : String := String.ofList (compactChars j)

/-- The text of a value, two spaces per level. -/
def indented (j : Json) : String := String.ofList (indentedChars 0 j)

end SensorRelay.Json
