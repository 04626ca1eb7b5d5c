/-!
# Blanks and trimming

The characters that count as blank at the ends of a setting: the ASCII spaces and line ends,
the four ASCII separators and the spaces of Unicode. `trim` takes them from both ends and
`trimChar` takes one given character.
-/

namespace SensorRelay.Text

/-- The code point ranges of the blank characters. -/
def blanks : List (Nat × Nat) :=
  [(0x9, 0xD), (0x1C, 0x20), (0x85, 0x85), (0xA0, 0xA0), (0x1680, 0x1680), (0x2000, 0x200A),
   (0x2028, 0x2029), (0x202F, 0x202F), (0x205F, 0x205F), (0x3000, 0x3000)]

/-- Does the character count as blank? -/
def isBlank (c : Char) : Bool :=
  blanks.any fun r => r.1 ≤ c.toNat && c.toNat ≤ r.2

/-- White space in the sense of Unicode: the blanks without the four ASCII separators. -/
def isWhiteSpace (c : Char) : Bool :=
  isBlank c && !(0x1C ≤ c.toNat && c.toNat ≤ 0x1F)

/-- Drops the characters of a class from both ends. -/
def trimBy (p : Char → Bool) (cs : List Char) : List Char :=
  (((cs.dropWhile p).reverse).dropWhile p).reverse

/-- The text without blanks at its ends. -/
def trim (s : String) : String :=
  String.ofList (trimBy isBlank s.toList)

/-- The text without `c` at its ends. -/
def trimChar (c : Char) (s : String) : String :=
  String.ofList (trimBy (· == c) s.toList)

end SensorRelay.Text
