import SensorRelay.Number.Decimal
import SensorRelay.Text.Encoding

/-!
# The broker client

What is asked of the client of the broker, in the order in which it is asked. `returnText`
words the codes with which the client refuses a message.
-/

namespace SensorRelay

/-- A call to the client of the broker. -/
inductive ClientCall where
  | credentials (username password : String)
  | connect (host : String) (port keepalive : Int)
  | loopStart
  | loopStop
  | disconnect
  | subscribe (filters : List (String × Int))
  | unsubscribe (filters : List String)
  | publish (topic : String) (payload : Bytes) (qos : Int)
  | awaitPublish (timeout : Binary64)

/-- The version of the protocol that the client speaks: 3.1.1. -/
def protocolVersion : Nat := 4

/-- The name under which a client connects: its own with the second of its start. -/
def clientName (base : String) (now : Binary64) : String :=
  base ++ "-" ++ String.ofList (Text.intChars now.truncate)

/-- A client: the name it was given, the name under which the broker knows it, and the version of
the protocol. -/
structure BrokerClient where
  base : String
  name : String
  protocol : Nat

/-- Makes a client at a time. -/
def BrokerClient.new (base : String) (now : Binary64) : BrokerClient :=
  ⟨base, clientName base now, protocolVersion⟩

/-- The words for the codes 1 to 16. -/
def returnTexts : List String :=
  ["Out of memory.",
   "A network protocol error occurred when communicating with the broker.",
   "Invalid function arguments provided.",
   "The client is not currently connected.",
   "The connection was refused.",
   "Message not found (internal error).",
   "The connection was lost.",
   "A TLS error occurred.",
   "Payload too large.",
   "This feature is not supported.",
   "Authorisation failed.",
   "Access denied by ACL.",
   "Unknown error.",
   "Error defined by errno.",
   "Message queue full.",
   "Client or broker did not communicate in the keepalive interval."]

/-- The words for a code. -/
def returnText (code : Int) : String :=
  if 1 ≤ code then (returnTexts[(code - 1).toNat]?).getD "Unknown error." else "Unknown error."

end SensorRelay
