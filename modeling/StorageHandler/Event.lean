import StorageHandler.Datum

/-!
# Events

What the library logs: every event has a name, a level and fields.
-/

namespace StorageHandler

/-- A logged event. -/
inductive Event where
  /-- A token for a service is about to be imported. -/
  | credentialsImported (service : String)
  /-- A Kudu token of another service was passed over. -/
  | credentialsSkipped (service expected : String)
  /-- A client was built. -/
  | clientCreated (addresses : String)
  /-- A client that will not reach the caller could not be closed. -/
  | closeFailed (error : String)
  /-- Artifacts were added to a ship-list. -/
  | artifactsAdded (uris : List String)
  deriving DecidableEq, Repr

/-- How much an event matters. -/
inductive Level where
  | debug | info | warning
  deriving DecidableEq, Repr

/-- The name of a level. -/
def Level.name : Level → String
  | .debug => "debug"
  | .info => "info"
  | .warning => "warning"

namespace Event

/-- The name of an event. -/
def name : Event → String
  | .credentialsImported _ => "credentials_imported"
  | .credentialsSkipped .. => "credentials_skipped"
  | .clientCreated _ => "kudu_client_created"
  | .closeFailed _ => "kudu_client_close_failed"
  | .artifactsAdded _ => "dependency_jars_added"

/-- The level of an event. -/
def level : Event → Level
  | .credentialsImported _ => .debug
  | .credentialsSkipped .. => .debug
  | .clientCreated _ => .info
  | .closeFailed _ => .warning
  | .artifactsAdded _ => .info

/-- The fields of an event. -/
def fields : Event → List (String × Datum)
  | .credentialsImported service => [("service", .text service)]
  | .credentialsSkipped service expected =>
    [("service", .text service), ("expected_service", .text expected)]
  | .clientCreated addresses => [("master_addresses", .text addresses)]
  | .closeFailed error => [("error", .text error)]
  | .artifactsAdded uris => [("jars", .list (uris.map .text))]

/-- An event as one record. -/
def record (e : Event) : Datum :=
  .record (e.fields ++ [("event", .text e.name), ("level", .text e.level.name)])

end Event

end StorageHandler
