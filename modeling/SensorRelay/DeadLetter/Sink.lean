import SensorRelay.DeadLetter
import SensorRelay.Error
import SensorRelay.Number.Binary64

/-!
# The sink for dead letters

A process opens the sink once, when it starts. Without dead letters, or if the sink does not
answer, it works without a queue; a sink whose URL has an unknown scheme cannot be opened.
-/

namespace SensorRelay

/-- Whether there are dead letters, and where they go. -/
structure SinkSettings where
  enabled : Bool
  url : String
  stream : String
  maxLength : Int

namespace SinkSettings

/-- How long to wait for the sink, in seconds. -/
def patience : Binary64 := Binary64.ofInt 5

/-- The schemes of the URLs of sinks. -/
def schemes : List String := ["redis://", "rediss://", "unix://"]

/-- Refuses a URL without one of the schemes. -/
def checkScheme (s : SinkSettings) : Except Failure Unit :=
  if schemes.any fun scheme => scheme.toList.isPrefixOf s.url.toList then .ok ()
  else .error (.invalidValue ("Redis URL must specify one of the following schemes ("
    ++ ", ".intercalate schemes ++ ")"))

/-- The URL that is opened, if any. -/
def opened (s : SinkSettings) : Option String :=
  if s.enabled then some s.url else none

/-- The queue to work with, given whether the sink answers. -/
def queue? (s : SinkSettings) (answers : Bool) : Option DeadLetterQueue :=
  if s.enabled && answers then some (.new s.stream s.maxLength true) else none

/-- Opens the sink. Its URL is looked at only if there are dead letters. -/
def openQueue (s : SinkSettings) (answers : Bool) : Except Failure (Option DeadLetterQueue) := do
  if s.enabled then s.checkScheme
  return s.queue? answers

end SinkSettings
end SensorRelay
