import StorageHandler.Failure
import StorageHandler.Text.Numeral

/-!
# Hive primitive types

The descriptors of Hive's primitive types. Only decimals have a precision and a scale:
`HiveType.primitive` refuses a decimal without them and `HiveType.decimal` a pair that Hive cannot
represent. The refusal names the pair, so what leaves depends on whether the pair can be written
(`UnsupportedType.failure`).
-/

namespace StorageHandler

/-- The primitive categories of Hive that a Kudu column can have. -/
inductive HiveCategory where
  | boolean | tinyint | smallint | int | bigint | float | double | decimal | timestamp | string
  | binary
  deriving DecidableEq, Repr

/-- The name of a category in a table definition. -/
def HiveCategory.name : HiveCategory → String
  | .boolean => "boolean"
  | .tinyint => "tinyint"
  | .smallint => "smallint"
  | .int => "int"
  | .bigint => "bigint"
  | .float => "float"
  | .double => "double"
  | .decimal => "decimal"
  | .timestamp => "timestamp"
  | .string => "string"
  | .binary => "binary"

/-- Why a column type is refused. -/
inductive UnsupportedType where
  | unknown (tag : String)
  | missingAttributes
  | bareDecimal
  | precisionOutOfRange (precision : Int)
  | scaleOutOfRange (scale precision : Int)
  deriving DecidableEq, Repr

/-- The greatest precision of a Hive decimal. -/
def maxDecimalPrecision : Int := 38

/-- What a refused column type says; nothing if the precision or the scale that it names is too long
to be written. -/
def UnsupportedType.message? : UnsupportedType → Option String
  | .unknown tag => some ("Unsupported column type: " ++ tag)
  | .missingAttributes =>
    some "Unsupported column type: DECIMAL without precision and scale attributes."
  | .bareDecimal => some "Hive decimal types require precision and scale."
  | .precisionOutOfRange precision => do
    let precision ← Text.Numeral.text? precision
    return "Decimal precision " ++ precision ++ " is outside Hive's range [1, "
      ++ Text.Numeral.text maxDecimalPrecision ++ "]."
  | .scaleOutOfRange scale precision => do
    let scale ← Text.Numeral.text? scale
    let precision ← Text.Numeral.text? precision
    return "Decimal scale " ++ scale ++ " must be between 0 and the precision " ++ precision ++ "."

/-- The failure that leaves when a column type is refused. -/
def UnsupportedType.failure (e : UnsupportedType) : Failure :=
  .ofText .unsupportedType e.message?

/-- A descriptor of a Hive type. -/
structure HiveType where
  category : HiveCategory
  precision : Option Int
  scale : Option Int
  deriving DecidableEq, Repr

namespace HiveType

/-- A precision or a scale in a type name; nothing if it is too long to be written. -/
def parameterText? : Option Int → Option String
  | some n => Text.Numeral.text? n
  | none => some "None"

/-- The name of a type in a table definition, such as `decimal(10,2)`; nothing if the precision or
the scale is too long to be written. -/
def typeName? (t : HiveType) : Option String :=
  match t.category with
  | .decimal => do
    let precision ← parameterText? t.precision
    let scale ← parameterText? t.scale
    return "decimal(" ++ precision ++ "," ++ scale ++ ")"
  | c => some c.name

/-- The descriptor of a category without parameters. -/
def primitive (c : HiveCategory) : Except UnsupportedType HiveType :=
  if c = .decimal then .error .bareDecimal else .ok ⟨c, none, none⟩

/-- The descriptor of a decimal: the precision is from 1 to 38, the scale from 0 to the
precision. -/
def decimal (precision scale : Int) : Except UnsupportedType HiveType :=
  if ¬(1 ≤ precision ∧ precision ≤ maxDecimalPrecision) then
    .error (.precisionOutOfRange precision)
  else if ¬(0 ≤ scale ∧ scale ≤ precision) then .error (.scaleOutOfRange scale precision)
  else .ok ⟨.decimal, some precision, some scale⟩

end HiveType

end StorageHandler
