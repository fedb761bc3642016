import StorageHandler.Conf.Table

/-!
# Overlays

The properties of a table are laid over a job's configuration: a property replaces a setting of the
same name at its place, and new ones follow at the end. A table's serde properties replace its own
parameters in the same way.
-/

namespace StorageHandler

/-- What a Hive table says about itself. -/
structure HiveTable where
  parameters : Table
  serdeParameters : Option Table

/-- The parameters with the serde parameters laid over them. -/
def HiveTable.properties (t : HiveTable) : Table :=
  match t.serdeParameters with
  | none => t.parameters
  | some serde => t.parameters.putAll serde

/-- A configuration with table properties laid over it. -/
def JobConf.overlay (c : JobConf) (properties : Option Table) : Except ConfError JobConf :=
  c.assignAll (properties.getD [])

end StorageHandler
