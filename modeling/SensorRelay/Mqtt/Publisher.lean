import SensorRelay.Mqtt.Client
import SensorRelay.Program

/-!
# Publishing with a deadline

A message counts as published once the broker has acknowledged it in time. Everything else is
a transport error: an empty topic or payload, a refusal by the client, a fault of the client
and an acknowledgement that does not come.
-/

namespace SensorRelay

/-- A failure to publish. -/
def transportError (message : String) : Failure :=
  .pipeline ⟨.transport, message, []⟩

/-- The acknowledgement did not come in time. -/
def notAcknowledged (topic : String) (timeout : Binary64) : Failure :=
  transportError ("publish to " ++ topic ++ " not acknowledged within "
    ++ String.ofList (timeout.fixedChars 1) ++ "s")

/-- What publishing asks of the client. -/
inductive PublishRequest where
  | send (topic : String) (payload : Bytes) (qos : Int)
  | await (timeout : Binary64)
  | isPublished

/-- Sending is answered by a return code, zero if the message was taken. -/
def PublishRequest.Reply : PublishRequest → Type
  | .send _ _ _ => Int
  | .await _ => Unit
  | .isPublished => Bool

/-- The client as a publisher needs it. -/
def publishInterface : Interface := ⟨PublishRequest, PublishRequest.Reply⟩

/-- The faults of a client that are failures to publish. -/
def isClientFault : Failure → Bool
  | .invalidValue _ | .invalidState _ => true
  | _ => false

/-- Sends a message, waits for the acknowledgement and tells whether it came. -/
def sendAndAwait (qos : Int) (topic : String) (payload : Bytes) (timeout : Binary64) :
    Program publishInterface Bool :=
  .ask (PublishRequest.send topic payload qos) fun reply =>
    match (reply : Except Failure Int) with
    | .error f => .raise f
    | .ok (code : Int) =>
      if code ≠ 0 then
        .raise (transportError ("publish to " ++ topic ++ " rejected: " ++ returnText code))
      else .ask (PublishRequest.await timeout) fun reply =>
        match reply with
        | .error f => .raise f
        | .ok _ => .ask PublishRequest.isPublished fun reply => .ofExcept reply

/-- Publishes a message. -/
def publishMessage (qos : Int) (topic : String) (payload : Bytes) (timeout : Binary64) :
    Program publishInterface Unit :=
  if topic.isEmpty then .raise (transportError "topic cannot be empty")
  else if payload.isEmpty then .raise (transportError "payload cannot be empty")
  else do
    match ← (sendAndAwait qos topic payload timeout).attempt with
    | .ok true => return ()
    | .ok false => .raise (notAcknowledged topic timeout)
    | .error f =>
      if isClientFault f then
        .raise (transportError ("publish to " ++ topic ++ " failed: " ++ f.message))
      else .raise f

end SensorRelay
