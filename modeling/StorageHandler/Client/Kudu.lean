import StorageHandler.Client.Basic

/-!
# The Kudu client library

The client library may be missing, and an old one cannot import secrets. `KuduLibrary.builder`
connects to the masters of an address list and wraps the connection in a client.
-/

namespace StorageHandler

/-- The hosts of addresses, in order. -/
def Address.hosts (addresses : List Address) : List String := addresses.map (·.host)

/-- The ports of addresses, in order. -/
def Address.ports (addresses : List Address) : List Int := addresses.map (·.port)

/-- How an installed client library behaves. -/
structure KuduLibrary where
  connectFailure : Option Failure
  canImport : Bool
  importFailure : Option Failure
  closeFailure : Option Failure
  deriving DecidableEq, Repr

namespace KuduLibrary

/-- A connection of the library as a client of the masters. -/
def wrap (l : KuduLibrary) (addresses : String) : Client where
  service := addresses
  importing _ := if l.canImport then l.importFailure.map .foreign else some .importMissing
  closing := some l.closeFailure

/-- Connects to masters by their hosts and ports. -/
def connect (l : KuduLibrary) (hosts : List String) (ports : List Int) : Run Unit :=
  match l.connectFailure with
  | none => Run.act (.connect hosts ports)
  | some f => ⟨[.connect hosts ports], .error (.foreign f)⟩

/-- Builds clients with the library, if it is installed. The library is looked for before the
addresses are read. It takes the hosts and the ports in a list of their own each. -/
def builder (l : Option KuduLibrary) : Builder := fun addresses => do
  match l with
  | none => Run.fail .libraryMissing
  | some l =>
    let masters ← Run.ofExcept ((Address.readAll addresses).mapError .addresses)
    l.connect (Address.hosts masters) (Address.ports masters)
    return l.wrap addresses

end KuduLibrary

end StorageHandler
