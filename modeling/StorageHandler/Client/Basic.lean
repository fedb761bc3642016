import StorageHandler.Conf.Address
import StorageHandler.Conf.Masters
import StorageHandler.Event
import StorageHandler.Token.File

/-!
# Clients and runs

A client is what a builder returns: it names its service, imports secrets and can perhaps be closed.
All that is done with clients is a `Run`: the actions in order, and the result or the error that
ended them.
-/

namespace StorageHandler

/-- Why an operation with a client fails. -/
inductive ClientError where
  | environment (error : EnvironmentError)
  | entry (error : ConfError)
  | masters (error : MastersMissing)
  | addresses (error : AddressError)
  | credentials (error : TokenFileError)
  /-- The client library is not installed. -/
  | libraryMissing
  /-- The client library cannot import secrets. -/
  | importMissing
  /-- Foreign code failed. -/
  | foreign (failure : Failure)
  /-- The builder failed in an ordinary way. -/
  | unreachable (list : String) (cause : Failure)

namespace ClientError

/-- What the failure says. -/
def message : ClientError → String
  | .environment error => error.message
  | .entry error => error.failure.message
  | .masters error => error.message
  | .addresses error => error.message
  | .credentials error => error.message
  | .libraryMissing =>
    "Connecting to Kudu requires kudu-python, but it is not installed. "
      ++ "Install the 'kudu' extra to build Kudu clients."
  | .importMissing =>
    "The installed kudu client cannot import authentication credentials. "
      ++ "Upgrade kudu-python or run the job without a Kudu delegation token."
  | .foreign failure => failure.text
  | .unreachable list cause =>
    "Failed to connect to Kudu masters " ++ list ++ ": " ++ cause.text
      ++ ". Check that the masters are reachable and retry."

/-- The kind of the failure. -/
def kind : ClientError → Failure.Kind
  | .environment error => error.kind
  | .entry error => error.kind
  | .masters _ => .configuration
  | .addresses _ => .configuration
  | .credentials error => error.kind
  | .libraryMissing => .missingLibrary
  | .importMissing => .missingLibrary
  | .foreign failure => failure.kind
  | .unreachable .. => .connection

/-- The failure that caused this one. -/
def cause? : ClientError → Option Failure
  | .unreachable _ cause => some cause
  | _ => none

/-- An error as the failure that it is for code that did not raise it. -/
def failure : ClientError → Failure
  | .foreign failure => failure
  | error => ⟨error.kind, error.message⟩

/-- A builder's error as it leaves. The library's own, an interrupt and an exit stay as they are;
any other becomes a failure to connect. -/
def ofBuilder (list : String) (error : ClientError) : ClientError :=
  if error.kind.isOwn || !error.kind.isOrdinary then error
  else .unreachable list error.failure

end ClientError

/-- Something that was done. -/
inductive Action where
  /-- An event was logged. -/
  | log (event : Event)
  /-- A builder was asked for a client. -/
  | build (addresses : String)
  /-- The client library was asked to connect to hosts, each at its port. -/
  | connect (hosts : List String) (ports : List Int)
  /-- A client was asked to import a secret. -/
  | importSecret (secret : List UInt8) (succeeded : Bool)
  /-- A client was closed. -/
  | close
  deriving DecidableEq, Repr

/-- The event that an action logs. -/
def Action.event? : Action → Option Event
  | .log event => some event
  | _ => none

/-- Actions and how they ended. -/
structure Run (α : Type) where
  actions : List Action
  outcome : Except ClientError α

namespace Run

variable {α β : Type}

/-- A single action. -/
def act (a : Action) : Run Unit := ⟨[a], .ok ()⟩

/-- No action, and a result or an error. -/
def ofExcept (outcome : Except ClientError α) : Run α := ⟨[], outcome⟩

/-- A failure without an action. -/
def fail (e : ClientError) : Run α := ⟨[], .error e⟩

instance : Monad Run where
  pure a := ⟨[], .ok a⟩
  bind r f :=
    match r.outcome with
    | .error e => ⟨r.actions, .error e⟩
    | .ok a => ⟨r.actions ++ (f a).actions, (f a).outcome⟩

/-- Changes the error that ends a run. -/
def mapError (f : ClientError → ClientError) (r : Run α) : Run α :=
  ⟨r.actions, r.outcome.mapError f⟩

/-- What is done after an error, before it leaves. An error on the way takes its place. -/
def onError (r : Run α) (cleanup : Run Unit) : Run α :=
  match r.outcome with
  | .ok a => ⟨r.actions, .ok a⟩
  | .error e =>
    match cleanup.outcome with
    | .ok _ => ⟨r.actions ++ cleanup.actions, .error e⟩
    | .error e' => ⟨r.actions ++ cleanup.actions, .error e'⟩

/-- The events that a run logs. -/
def events (r : Run α) : List Event := r.actions.filterMap Action.event?

end Run

/-- A connected client. -/
structure Client where
  /-- What the client calls its service: the addresses of its masters. -/
  service : String
  /-- How the import of a secret fails, if it does. -/
  importing : List UInt8 → Option ClientError
  /-- How closing fails, if it does; nothing if the client cannot be closed. -/
  closing : Option (Option Failure)

namespace Client

/-- Imports a secret. -/
def importSecret (c : Client) (secret : List UInt8) : Run Unit :=
  match c.importing secret with
  | none => Run.act (.importSecret secret true)
  | some e => ⟨[.importSecret secret false], .error e⟩

/-- Closes a client that can be closed. -/
def close (c : Client) : Run Unit :=
  match c.closing with
  | none => pure ()
  | some none => Run.act .close
  | some (some f) => ⟨[.close], .error (.foreign f)⟩

/-- Closes a client that will not reach the caller. An ordinary failure is only logged. -/
def closeQuietly (c : Client) : Run Unit :=
  match c.closing with
  | some (some f) =>
    if f.kind.isOrdinary then ⟨[.close, .log (.closeFailed f.text)], .ok ()⟩ else c.close
  | _ => c.close

end Client

/-- What a provider has: the credentials of the process, or none at all. -/
abbrev Provider := Except ClientError (Option (List Credentials))

/-- Makes a client for masters. -/
abbrev Builder := String → Run Client

end StorageHandler
