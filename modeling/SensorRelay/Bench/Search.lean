import SensorRelay.Bench.Environment
import SensorRelay.Reconcile

/-!
# A scripted search

A search in an environment follows a script: each time something is looked for, the script
says by which name, or that nothing is found, and what is made is a section, unless the script
has a failure for that. Both kinds of calls are counted.
-/

namespace SensorRelay

/-- The script of a search and its state. -/
structure Search where
  env : Environment
  finds : List (Option String)
  creates : Option String
  failure : Option Failure
  found : Nat
  made : Nat

/-- What a search asks for. -/
inductive SearchCall where
  | find
  | make

/-- What a call is answered with. -/
def SearchCall.Reply : SearchCall → Type
  | .find => Option (Option SectionRow)
  | .make => Option SectionRow

/-- The calls of a search as an interface. -/
def searchInterface : Interface := ⟨SearchCall, SearchCall.Reply⟩

namespace Search

/-- A search that has not begun. -/
def new (env : Environment) (finds : List (Option String)) (creates : Option String)
    (failure : Option Failure) : Search :=
  ⟨env, finds, creates, failure, 0, 0⟩

/-- The reply to a call. -/
def answer : (q : SearchCall) → Search → Except Failure q.Reply × Search
  | .find, s =>
    let next := { s with finds := s.finds.drop 1, found := s.found + 1 }
    match s.finds.head?.join with
    | none => (.ok (none : Option (Option SectionRow)), next)
    | some name =>
      let (r, env) := s.env.request (.sectionByName name)
      ((r : Except Failure (Option SectionRow)).map fun row => row.map some, { next with env })
  | .make, s =>
    let next := { s with made := s.made + 1 }
    match s.failure with
    | some f => (.error f, next)
    | none =>
      let (r, env) := s.env.request (.insertSection s.creates)
      (r, { next with env })

/-- One call. -/
def call (q : SearchCall) : Program searchInterface q.Reply :=
  @Program.call searchInterface q

/-- Finds or creates what the script says. -/
def run (what : String) (s : Search) : Except Failure (Option SectionRow) × Search :=
  Program.run answer (findOrCreate what (call .find) (call .make)) s

end Search
end SensorRelay
