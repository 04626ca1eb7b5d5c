import SensorRelay.Text.Encoding
import SensorRelay.Text.Split

/-!
# Queries

The query of a URL is a list of pairs with `&` between them. In names and values `+` is a space
and percent escapes are resolved.
-/

namespace SensorRelay.Net

open Text

/-- A text of a query: `+` is a space, and escapes are resolved. -/
def queryText (cs : List Char) : String :=
  percentDecode (String.ofList (cs.map fun c => if c = '+' then ' ' else c))

/-- The pairs of a query, in order; one without `=` has an empty value. -/
def queryPairs (cs : List Char) : List (String × String) :=
  ((splitOn '&' cs).filter fun p => !p.isEmpty).map fun p =>
    match cutFirst? '=' p with
    | some (name, value) => (queryText name, queryText value)
    | none => (queryText p, "")

end SensorRelay.Net
