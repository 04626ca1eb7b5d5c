import SensorRelay.Mqtt.Publisher

/-!
# A client that follows a script

A scripted client answers a publisher with one return code, one word on the acknowledgement and
the faults it has been given, and keeps the calls that were made to it.
-/

namespace SensorRelay

/-- What the client answers: the code for a message, a fault on sending or on waiting, and
whether the acknowledgement has come. -/
structure ClientScript where
  code : Int
  sendFault : Option Failure
  awaitFault : Option Failure
  acknowledged : Bool

namespace ClientScript

/-- A client that takes every message and has it acknowledged. -/
def obliging : ClientScript := ⟨0, none, none, true⟩

/-- A reply, unless there is a fault. -/
def faultOr {α : Type} (fault : Option Failure) (a : α) : Except Failure α :=
  match fault with
  | some f => .error f
  | none => .ok a

/-- The reply to a request of the publisher; the call is kept in any case. -/
def answer (script : ClientScript) : (q : PublishRequest) → List ClientCall →
    Except Failure q.Reply × List ClientCall
  | .send topic payload qos, log =>
    (faultOr script.sendFault script.code, log ++ [.publish topic payload qos])
  | .await timeout, log => (faultOr script.awaitFault (), log ++ [.awaitPublish timeout])
  | .isPublished, log => (.ok script.acknowledged, log)

/-- Publishes a message through the client: what came of it and the calls that were made. -/
def publish (script : ClientScript) (qos : Int) (topic : String) (payload : Bytes)
    (timeout : Binary64) : Except Failure Unit × List ClientCall :=
  Program.run script.answer (publishMessage qos topic payload timeout) []

end ClientScript
end SensorRelay
