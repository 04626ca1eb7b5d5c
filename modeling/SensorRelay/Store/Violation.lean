import SensorRelay.Error
import SensorRelay.Text.Casing
import SensorRelay.Text.Split

/-!
# Broken constraints

A database reports a broken constraint by a code, or only by its message. `isUniqueViolation`
tells a broken uniqueness rule from the others, and `constraintFailure` files it under its own
kind of error.
-/

namespace SensorRelay

/-- The code for a broken uniqueness rule. -/
def uniqueCode : String := "23505"

/-- What messages about broken uniqueness rules contain, in small letters. -/
def uniqueMarkers : List String := ["unique constraint", "duplicate key", "duplicate entry"]

/-- The first code that is given and not empty. -/
def firstCode? (codes : List (Option String)) : Option String :=
  codes.findSome? fun c => c.filter fun code => !code.isEmpty

/-- Is it a broken uniqueness rule? A code decides; without one the message does. -/
def isUniqueViolation (codes : List (Option String)) (message : String) : Bool :=
  match firstCode? codes with
  | some code => code == uniqueCode
  | none =>
    let small := (Text.lower message).toList
    uniqueMarkers.any fun m => Text.occursIn m.toList small

/-- The failure for a broken constraint that is known only by its message. -/
def constraintFailure (message : String) : Failure :=
  if isUniqueViolation [] message then .duplicateKey message else .storage message

end SensorRelay
