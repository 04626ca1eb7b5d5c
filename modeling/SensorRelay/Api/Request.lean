import SensorRelay.Json.LaxInteger
import SensorRelay.Net.Query
import SensorRelay.Time.QueryText

/-!
# Requests of the read interface

A request names a resource by its path and may bound it in time by a query. `Target.of`
takes a target apart into path and query, `Route.of?` finds the resource.
-/

namespace SensorRelay.Api

open Text Net

/-! ## Targets -/

/-- The path without `.` and `..` segments; `..` takes the segment before it away. -/
def withoutDots (segments : List (List Char)) : List (List Char) :=
  segments.foldl (fun out s =>
    if s = ['.'] then out
    else if s = ['.', '.'] then if out.isEmpty || out = [[]] then out else out.dropLast
    else out ++ [s]) []

/-- A path and the pairs of its query. -/
structure Target where
  path : String
  query : List (String × String)

/-- Takes a target apart. What follows a `#` is not sent. -/
def Target.of (text : String) : Target :=
  let cs := text.toList.takeWhile (· != '#')
  let (path, query) := match cutFirst? '?' cs with
    | some (p, q) => (p, queryPairs q)
    | none => (cs, [])
  let path := joinWith '/' (withoutDots (splitOn '/' ('/' :: path.dropWhile (· == '/'))))
  ⟨percentDecode (String.ofList path), query⟩

/-- Sets parameters; earlier ones of the same name are dropped. -/
def Target.withParams (t : Target) (params : List (String × String)) : Target :=
  { t with query := (t.query.filter fun q => params.all fun p => p.1 != q.1) ++ params }

/-- The last value of a parameter. -/
def Target.param? (t : Target) (name : String) : Option String :=
  (t.query.reverse.find? fun q => q.1 == name).map (·.2)

/-! ## Routes -/

/-- A resource. The ids are as they stand in the path. -/
inductive Route where
  | health
  | readiness
  | sections
  | sectionOf (id : String)
  | moduleOf (id : String)
  | sensor (id : String)
  | topics

/-- The resource at a path. -/
def Route.of? (path : String) : Option Route :=
  match splitOn '/' path.toList with
  | [[], name] =>
    if name = "health".toList then some .health
    else if name = "readyz".toList then some .readiness
    else if name = "sections".toList then some .sections
    else if name = "topics".toList then some .topics
    else none
  | [[], name, id] =>
    if id.isEmpty then none
    else if name = "sections".toList then some (.sectionOf (String.ofList id))
    else if name = "modules".toList then some (.moduleOf (String.ofList id))
    else if name = "sensors".toList then some (.sensor (String.ofList id))
    else none
  | _ => none

/-- The path without slashes at its end. -/
def withoutFinalSlashes (path : String) : String :=
  String.ofList ((path.toList.reverse.dropWhile (· == '/')).reverse)

/-! ## Parameters -/

/-- What is wrong with a parameter. -/
inductive ParamFault where
  | integer (fault : FieldFault)
  | time

/-- The name of the class of faults. -/
def ParamFault.label : ParamFault → String
  | integer fault => fault.label
  | time => "datetime_parsing"

/-- A fault in the path or the query. -/
structure ParamProblem where
  inPath : Bool
  name : String
  fault : ParamFault

/-- The id in a path. -/
def readId (name text : String) : Except (List ParamProblem) Int :=
  (laxNumeral text).mapError fun fault => [⟨true, name, .integer fault⟩]

/-- A time bound in a query; it may be absent. -/
def readBound (t : Target) (name : String) : Except (List ParamProblem) (Option Timestamp) :=
  match t.param? name with
  | none => .ok none
  | some text =>
    match Timestamp.ofQuery? text with
    | some bound => .ok (some bound.asUtc)
    | none => .error [⟨false, name, .time⟩]

/-- The faults of a parameter. -/
def faultsOf {α : Type} : Except (List ParamProblem) α → List ParamProblem
  | .ok _ => []
  | .error ps => ps

end SensorRelay.Api
