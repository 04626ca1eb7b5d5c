import SensorRelay.Error

/-!
# Programs that make requests

The parts that talk to a database, a broker or a sink are written as a `Program`: it is
finished, it has failed, or it makes one request and goes on with the reply, which may itself
be a failure. What answers the requests is not part of a program. `Program.run` lets one
answerer with a state of its own reply to all of them; taking single steps of several programs
in turn interleaves them.
-/

namespace SensorRelay

/-- The requests of an interface, and what each is answered with. -/
structure Interface where
  Request : Type
  Reply : Request → Type

/-- A computation over an interface. -/
inductive Program (I : Interface) (α : Type) where
  | done (a : α)
  | raise (f : Failure)
  | ask (q : I.Request) (next : Except Failure (I.Reply q) → Program I α)

namespace Program

variable {I : Interface} {α β : Type}

/-- Goes on with the result; a failure ends the whole program. -/
def bind : Program I α → (α → Program I β) → Program I β
  | .done a, k => k a
  | .raise f, _ => .raise f
  | .ask q next, k => .ask q fun r => (next r).bind k

instance : Monad (Program I) where
  pure := .done
  bind := bind

/-- Makes one request; a failure in the reply is the failure of the program. -/
def call (q : I.Request) : Program I (I.Reply q) :=
  .ask q fun r => match r with
    | .ok a => .done a
    | .error f => .raise f

/-- A result or a failure that is already there. -/
def ofExcept : Except Failure α → Program I α
  | .ok a => .done a
  | .error f => .raise f

/-- Makes the outcome of a program its result, so that it no longer fails. -/
def attempt : Program I α → Program I (Except Failure α)
  | .done a => .done (.ok a)
  | .raise f => .done (.error f)
  | .ask q next => .ask q fun r => (next r).attempt

/-- Lets `answer` reply to every request. -/
def run {σ : Type} (answer : (q : I.Request) → σ → Except Failure (I.Reply q) × σ) :
    Program I α → σ → Except Failure α × σ
  | .done a, s => (.ok a, s)
  | .raise f, s => (.error f, s)
  | .ask q next, s =>
    let (r, s) := answer q s
    (next r).run answer s

/-- The same program over a larger interface. -/
def within {J : Interface} (inject : I.Request → J.Request)
    (reply : (q : I.Request) → J.Reply (inject q) → I.Reply q) : Program I α → Program J α
  | .done a => .done a
  | .raise f => .raise f
  | .ask q next => .ask (inject q) fun r => (next (r.map (reply q))).within inject reply

end Program
end SensorRelay
