import SensorRelay.Files
import SensorRelay.Store.Url

/-!
# How a database is opened

The deadline of the pipeline bounds what a server does for one statement and how long a
connection is waited for. A database in a file or in memory has no such limits.
-/

namespace SensorRelay

/-- The pool of connections to a server, with its times in seconds. -/
structure ConnectionLimits where
  size : Nat
  overflow : Nat
  recycle : Nat
  patience : Binary64

/-- What a connection is opened with: options for a server, or whether a file is for one thread
only. -/
inductive ConnectArgument where
  | options (text : String)
  | checkSameThread (on : Bool)
deriving DecidableEq

/-- What a database is opened with; a server cuts a statement off after so many
milliseconds. -/
structure Engine where
  url : DatabaseUrl
  statementLimit : Option Int
  limits : Option ConnectionLimits
  argument : Option ConnectArgument

/-- Where a database is. -/
inductive DatabasePlace where
  | memory
  | file (path : String)
  | server
deriving DecidableEq

/-- The kind of databases on a server. -/
def serverKind : String := "postgresql"

/-- The kind of databases in files. -/
def fileKind : String := "sqlite"

/-- A time in whole milliseconds, cut off. -/
def wholeMilliseconds (seconds : Binary64) : Except Failure Int :=
  let x := seconds.scale 1000
  if x.isNaN then .error (.invalidValue "cannot convert float NaN to integer")
  else if x.isInfinite then .error (.overflow "cannot convert float infinity to integer")
  else .ok x.truncate

namespace Engine

/-- The options of a connection to a server. -/
def serverOptions (limit : Int) : String :=
  "-c statement_timeout=" ++ String.ofList (Text.intChars limit)

/-- The engine for a URL, given the deadline in seconds. -/
def ofUrl (url : String) (deadline : Binary64) : Except Failure Engine := do
  let url ← DatabaseUrl.parse url
  if url.kind = serverKind then
    let limit ← wholeMilliseconds deadline
    return ⟨url, some limit, some ⟨5, 10, 300, deadline⟩, some (.options (serverOptions limit))⟩
  else if url.kind = fileKind then return ⟨url, none, none, some (.checkSameThread false)⟩
  else return ⟨url, none, none, none⟩

/-- A part that is there and not empty. -/
def hasText (part : Option String) : Bool := part.any fun s => !s.isEmpty

/-- Where the database is. A file has neither a user nor a host. -/
def place (e : Engine) : Except Failure DatabasePlace :=
  if e.url.kind = serverKind then .ok .server
  else if e.url.kind = fileKind then
    if hasText e.url.user || hasText e.url.password || hasText e.url.host
        || e.url.port.any (· != 0) then .error .badDatabaseUrl
    else match e.url.database with
      | none => .ok .memory
      | some path => if path = "" ∨ path = ":memory:" then .ok .memory else .ok (.file path)
  else .error .unknownDatabase

end Engine

namespace DatabasePlace

/-- The file in the current directory in which the database is, if it is one. -/
def localFile? : DatabasePlace → Option String
  | .file path =>
    let name := plainPath path
    if name.toList.contains '/' || name == "." then none else some name
  | _ => none

/-- Can the database be opened? Servers are out of reach, and so are other directories. -/
def isReachable : DatabasePlace → Bool
  | .memory => true
  | .file path => (localFile? (.file path)).isSome
  | .server => false

end DatabasePlace
end SensorRelay
