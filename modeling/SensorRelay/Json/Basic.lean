import SensorRelay.Number.Binary64

/-!
# JSON values

A document value. Integers and doubles are kept apart because the wire formats treat them
differently, and the members of an object keep their order; of members with the same name
the last one counts (`field?`).
-/

namespace SensorRelay

/-- A JSON value. -/
inductive Json where
  | null
  | bool (b : Bool)
  | int (n : Int)
  | double (x : Binary64)
  | str (s : String)
  | arr (items : List Json)
  | obj (fields : List (String × Json))
deriving Inhabited

namespace Json

/-- The value of the last member with this name. -/
def lookup (name : String) (fields : List (String × Json)) : Option Json :=
  (fields.reverse.find? fun f => f.1 == name).map (·.2)

/-- The member of an object; other values have none. -/
def field? (j : Json) (name : String) : Option Json :=
  match j with
  | .obj fields => lookup name fields
  | _ => none

/-- The nesting that the object holding these members, or the array holding these items,
adds to theirs. -/
def deeper (inner : Nat) : Nat := inner + 1

mutual

/-- How many arrays and objects stand inside one another. -/
def depth : Json → Nat
  | .arr items => deeper (depthOfItems items)
  | .obj fields => deeper (depthOfFields fields)
  | _ => 0

/-- The greatest depth of some items. -/
def depthOfItems : List Json → Nat
  | [] => 0
  | j :: js => max (depth j) (depthOfItems js)

/-- The greatest depth of some members. -/
def depthOfFields : List (String × Json) → Nat
  | [] => 0
  | (_, j) :: fs => max (depth j) (depthOfFields fs)

end

end Json
end SensorRelay
