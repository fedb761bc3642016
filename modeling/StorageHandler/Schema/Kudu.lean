import StorageHandler.Text.Capital

/-!
# Kudu column types

The eleven column types of a Kudu table. A type is written by its name in any case:
`KuduType.named?` finds it, and refuses every other text (`UnsupportedType.unknown`).
-/

namespace StorageHandler

/-- The column types of a Kudu table. -/
inductive KuduType where
  | bool | int8 | int16 | int32 | int64 | float | double | decimal | unixtimeMicros | string
  | binary
  deriving DecidableEq, Repr

namespace KuduType

/-- All column types. -/
def all : List KuduType :=
  [.bool, .int8, .int16, .int32, .int64, .float, .double, .decimal, .unixtimeMicros, .string,
   .binary]

/-- The name of a type, in capitals. -/
def name : KuduType → String
  | .bool => "BOOL"
  | .int8 => "INT8"
  | .int16 => "INT16"
  | .int32 => "INT32"
  | .int64 => "INT64"
  | .float => "FLOAT"
  | .double => "DOUBLE"
  | .decimal => "DECIMAL"
  | .unixtimeMicros => "UNIXTIME_MICROS"
  | .string => "STRING"
  | .binary => "BINARY"

/-- The type with a name in capitals. -/
def ofName? (s : String) : Option KuduType := all.find? fun t => t.name = s

/-- The type with a name in any case. -/
def named? (s : String) : Option KuduType := ofName? (Text.capitals s)

theorem mem_all (t : KuduType) : t ∈ all := by cases t <;> simp [all]

@[simp] theorem ofName?_name (t : KuduType) : ofName? t.name = some t := by
  cases t <;> simp [ofName?, all, name]

theorem name_of_ofName? {s : String} {t : KuduType} (h : ofName? s = some t) : t.name = s := by
  simpa using List.find?_some h

end KuduType

/-- The precision and the scale of a decimal column. -/
structure DecimalAttributes where
  precision : Int
  scale : Int
  deriving DecidableEq, Repr

/-- How a column names its type: the type itself, or a text that should be its name. -/
inductive TypeTag where
  | known (type : KuduType)
  | named (name : String)
  deriving DecidableEq, Repr

/-- A column of a Kudu table. -/
structure KuduColumn where
  name : String
  tag : TypeTag
  attributes : Option DecimalAttributes
  deriving DecidableEq, Repr

end StorageHandler
