import SensorRelay.Bench.Environment
import SensorRelay.Simulator

/-!
# A feed for simulators

A feed answers a simulator from fixed topics, numbers that are drawn in turn, around and
around, a clock that stands still and a list of topics that cannot be published to. It keeps
what it was asked for.
-/

namespace SensorRelay

/-- The answers to a simulator, and what it has asked. -/
structure Feed where
  topics : List String
  values : List Int
  now : Timestamp
  refused : List String
  ranges : List (Int × Int)
  messages : List Publication
  pauses : List Binary64

namespace Feed

/-- A feed that has not been asked. -/
def new (topics : List String) (values : List Int) (now : Timestamp) (refused : List String) :
    Feed :=
  ⟨topics, values, now, refused, [], [], []⟩

/-- The number that is drawn after `n` others. -/
def valueAfter (values : List Int) (n : Nat) : Int :=
  (values[n % values.length]?).getD 0

/-- The reply to a simulator. -/
def answer : (q : SimulatorRequest) → Feed → Except Failure q.Reply × Feed
  | .topics, s => (.ok s.topics, s)
  | .draw low high, s =>
    (.ok (valueAfter s.values s.ranges.length), { s with ranges := s.ranges ++ [(low, high)] })
  | .now, s => (.ok s.now, s)
  | .publish topic payload timeout, s =>
    if s.refused.contains topic then (.error (notAcknowledged topic timeout), s)
    else (.ok (), { s with messages := s.messages ++ [⟨topic, payload, timeout⟩] })
  | .pause time, s => (.ok (), { s with pauses := s.pauses ++ [time] })

/-- Runs a computation of a simulator. -/
def run {α : Type} (p : Program simulatorInterface α) (s : Feed) : Except Failure α × Feed :=
  Program.run answer p s

/-- Several rounds of a simulator, whatever comes of them. -/
def ticks (feed : Feed) : Nat → Simulator → List (Except Failure Nat) × Simulator × Feed
  | 0, s => ([], s, feed)
  | n + 1, s =>
    match feed.run s.tick with
    | (.error f, feed) => ([.error f], s, feed)
    | (.ok (r, s), feed) =>
      let (rs, s, feed) := ticks feed n s
      (r :: rs, s, feed)

end Feed
end SensorRelay
