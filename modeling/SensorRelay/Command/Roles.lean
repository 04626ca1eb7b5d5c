import SensorRelay.Config.Settings
import SensorRelay.Pipeline.Handler

/-!
# Roles

A process may take part in the raw stage, in the store stage or in both. From the roles and the
settings follow its handlers and its subscriptions; the store stage takes bare topics as well
if the settings say so.
-/

namespace SensorRelay

/-- The stages a process takes part in. -/
structure Roles where
  raw : Bool
  store : Bool
deriving DecidableEq

namespace Settings

/-- The lookup for the store stage. One by the inventory needs what has been reconciled. -/
def chooseLookup (s : Settings) (result : Option Resolution) : Except Failure Lookup :=
  match s.lookup, result with
  | .topic, _ => .ok .byTopic
  | .inventory, some r => .ok (.byResolution r)
  | .inventory, none =>
    .error (.invalidValue "SENSOR_LOOKUP=inventory requires a reconciliation result")

/-- The handler of the raw stage. -/
def rawHandler (s : Settings) : Handler :=
  .raw s.processedStage.name s.deadline s.rawUnit.name

/-- The handlers of the store stage. -/
def storeHandlers (s : Settings) (lookup : Lookup) : List Handler :=
  .store s.processedStage.name lookup
    :: if s.acceptsBareTopics then [.store "" lookup] else []

/-- The handlers for the roles. -/
def handlers (s : Settings) (roles : Roles) (lookup : Lookup) : List Handler :=
  (if roles.raw then [s.rawHandler] else [])
    ++ if roles.store then s.storeHandlers lookup else []

/-- The subscriptions for the roles. -/
def filters (s : Settings) (roles : Roles) : List String :=
  subscriptionFilters s.processedStage.name roles.raw roles.store
    (roles.store && s.acceptsBareTopics)

end Settings
end SensorRelay
