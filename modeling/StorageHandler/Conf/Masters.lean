import StorageHandler.Conf.Table

/-!
# Master addresses

Where the masters of a Kudu cluster are said: in the table's own setting, else in the configured
default, else in the process default, which `withDefaultMasters` writes under the default's name. An
empty text says nothing.
-/

namespace StorageHandler

/-- The setting that holds the addresses of a table's masters. -/
def mastersKey : String := "kudu.master_addresses"

/-- The setting that holds the default addresses. -/
def defaultMastersKey : String := "hive.kudu.master.addresses.default"

/-- Neither setting holds addresses. -/
structure MastersMissing where
  key : String
  defaultKey : String
  deriving DecidableEq, Repr

/-- What missing addresses say. -/
def MastersMissing.message (e : MastersMissing) : String :=
  "Kudu master addresses are not specified in the table property (" ++ e.key
    ++ "), or default configuration (" ++ e.defaultKey
    ++ "). Set one of them to a comma-separated list of host:port pairs."

/-- Missing addresses as a failure. -/
def MastersMissing.failure (e : MastersMissing) : Failure := ⟨.configuration, e.message⟩

namespace JobConf

/-- The value of a setting unless it is empty. -/
def nonempty? (c : JobConf) (key : String) : Option String :=
  (c.find? key).filter (· ≠ "")

/-- The addresses under `key`, else those under `defaultKey`. -/
def masters (c : JobConf) (key defaultKey : String) : Except MastersMissing String :=
  match c.nonempty? key <|> c.nonempty? defaultKey with
  | some addresses => .ok addresses
  | none => .error ⟨key, defaultKey⟩

/-- The addresses under the usual names. -/
def kuduMasters (c : JobConf) : Except MastersMissing String :=
  c.masters mastersKey defaultMastersKey

/-- The configuration with a default under `defaultKey`, unless there is one already. -/
def withDefaultMasters (c : JobConf) (addresses : Option String) (defaultKey : String) : JobConf :=
  match addresses.filter (· ≠ ""), c.nonempty? defaultKey with
  | some addresses, none => c.insert defaultKey addresses
  | _, _ => c

/-- The same for a default of any kind: an empty one is no default, and one that is not a text is
refused. -/
def withDefaultDatum (c : JobConf) (addresses : Datum) (defaultKey : String) :
    Except ConfError JobConf :=
  if addresses.isVoid ∨ (c.nonempty? defaultKey).isSome then .ok c
  else c.set (.text defaultKey) addresses

end JobConf

end StorageHandler
