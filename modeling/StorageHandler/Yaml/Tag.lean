/-!
# Tags

A tag names the type of a node. Those of the language itself are told apart from all others.
-/

namespace StorageHandler.Yaml

/-- The type of a node. -/
inductive Tag where
  | null | bool | int | float | binary | timestamp | string
  | sequence | mapping | set | orderedMap | pairs
  /-- The key of what is merged into a mapping. -/
  | merge
  /-- The key of what a mapping stands for as a scalar. -/
  | value
  | other (name : String)
  deriving DecidableEq, Repr

/-- What the names of the language's own tags start with. -/
def ownTagPrefix : String := "tag:yaml.org,2002:"

/-- The tags of the language, by the ends of their names. -/
def ownTags : List (String × Tag) :=
  [("null", .null), ("bool", .bool), ("int", .int), ("float", .float), ("binary", .binary),
   ("timestamp", .timestamp), ("str", .string), ("seq", .sequence), ("map", .mapping),
   ("set", .set), ("omap", .orderedMap), ("pairs", .pairs), ("merge", .merge), ("value", .value)]

/-- The tag of a name. -/
def Tag.ofName (name : String) : Tag :=
  match ownTags.find? fun t => ownTagPrefix ++ t.1 = name with
  | some t => t.2
  | none => .other name

end StorageHandler.Yaml
