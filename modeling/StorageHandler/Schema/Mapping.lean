import StorageHandler.Schema.Hive
import StorageHandler.Schema.Kudu

/-!
# From Kudu types to Hive types

Every Kudu type has one Hive category. `hiveType` gives the descriptor of a column type and
`hiveColumns` those of all columns, in order; a type that is unknown or lacks what it needs is
refused.
-/

namespace StorageHandler

/-- The Hive category of a Kudu type. -/
def KuduType.hiveCategory : KuduType → HiveCategory
  | .bool => .boolean
  | .int8 => .tinyint
  | .int16 => .smallint
  | .int32 => .int
  | .int64 => .bigint
  | .float => .float
  | .double => .double
  | .decimal => .decimal
  | .unixtimeMicros => .timestamp
  | .string => .string
  | .binary => .binary

/-- The type that a tag stands for. -/
def TypeTag.resolve : TypeTag → Except UnsupportedType KuduType
  | .known t => .ok t
  | .named s =>
    match KuduType.named? s with
    | some t => .ok t
    | none => .error (.unknown s)

/-- The Hive type of a Kudu type. A decimal takes its attributes along, and must have them; all
other types have none. -/
def KuduType.hiveType (t : KuduType) (attributes : Option DecimalAttributes) :
    Except UnsupportedType HiveType :=
  match t, attributes with
  | .decimal, none => .error .missingAttributes
  | .decimal, some a => HiveType.decimal a.precision a.scale
  | t, _ => HiveType.primitive t.hiveCategory

/-- The Hive type of a tag. -/
def TypeTag.hiveType (tag : TypeTag) (attributes : Option DecimalAttributes) :
    Except UnsupportedType HiveType := do
  let t ← tag.resolve
  t.hiveType attributes

/-- The Hive columns of a Kudu table: the same names in the same order. -/
def hiveColumns (columns : List KuduColumn) : Except UnsupportedType (List (String × HiveType)) :=
  columns.mapM fun c => do
    let t ← c.tag.hiveType c.attributes
    return (c.name, t)

end StorageHandler
