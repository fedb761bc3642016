import StorageHandler.Failure
import StorageHandler.Text.Cut
import StorageHandler.Text.Numeral

/-!
# Lists of addresses

The addresses of masters are written `host`, `host:port` or, for a host with colons, `[host]:port`,
with commas between them. `Address.readAll` reads such a list entry by entry and refuses it with the
first entry that is no address.
-/

namespace StorageHandler

/-- Where a master listens. -/
structure Address where
  host : String
  port : Int
  deriving DecidableEq, Repr

/-- Why a list of addresses is refused. -/
inductive AddressError where
  | brackets (entry : String)
  | unbracketed (entry : String)
  | emptyHost (entry : String)
  | port (entry : String)
  | noEntries (list : String)
  deriving DecidableEq, Repr

/-- What a refused list says. -/
def AddressError.message : AddressError → String
  | .brackets entry =>
    "Invalid Kudu master address '" ++ entry ++ "': malformed IPv6 brackets."
  | .unbracketed entry =>
    "Invalid Kudu master address '" ++ entry
      ++ "': IPv6 hosts must be bracketed, e.g. [::1]:7051."
  | .emptyHost entry => "Invalid Kudu master address '" ++ entry ++ "': host is empty."
  | .port entry => "Invalid Kudu master address '" ++ entry ++ "': port must be numeric."
  | .noEntries list => "No Kudu master addresses found in '" ++ list ++ "'."

/-- A refused list as a failure. -/
def AddressError.failure (e : AddressError) : Failure := ⟨.configuration, e.message⟩

namespace Address

/-- The port of a master that names none. -/
def defaultPort : Int := 7051

/-- The host and the text of the port, which is empty if there is none. -/
def divide (entry : String) : Except AddressError (String × String) :=
  match entry.toList with
  | '[' :: cs =>
    match Text.cutList ']' cs with
    | (host, some []) => .ok (String.ofList host, "")
    | (host, some (':' :: port)) => .ok (String.ofList host, String.ofList port)
    | _ => .error (.brackets entry)
  | cs =>
    match Text.cutList ':' cs with
    | (host, none) => .ok (String.ofList host, "")
    | (host, some port) =>
      if ':' ∈ port then .error (.unbracketed entry)
      else .ok (String.ofList host, String.ofList port)

/-- The address that an entry writes. -/
def read (entry : String) : Except AddressError Address := do
  let (host, port) ← divide entry
  if host = "" then throw (.emptyHost entry)
  if port = "" then return ⟨host, defaultPort⟩
  match Text.Numeral.read? .decimal port with
  | some n => return ⟨host, n⟩
  | none => throw (.port entry)

/-- The addresses of a list, of which there must be one at least. -/
def readAll (list : String) : Except AddressError (List Address) := do
  match ← (Text.entries list).mapM read with
  | [] => throw (.noEntries list)
  | addresses => return addresses

end Address

end StorageHandler
