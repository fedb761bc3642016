import StorageHandler.Datum
import StorageHandler.Text.Lower
import StorageHandler.Yaml.Binary
import StorageHandler.Yaml.Number
import StorageHandler.Yaml.Tag
import StorageHandler.Yaml.Timestamp

/-!
# Scalars

The values of scalars, and their texts. Two scalars are the same key if they are equal as numbers,
where truth values count as 0 and 1, or as moments, whatever their zones.
-/

namespace StorageHandler.Yaml

/-- The value of a scalar. -/
inductive Scalar where
  | null
  | boolean (b : Bool)
  | integer (i : Int)
  | number (x : Float)
  | text (ps : List Text.Point)
  | bytes (bs : List UInt8)
  | date (d : Date)
  | moment (m : Moment)

/-- The words for truth values, in lower case. -/
def booleanWords : List (String × Bool) :=
  [("yes", true), ("no", false), ("true", true), ("false", false), ("on", true), ("off", false)]

namespace Scalar

/-- The truth value that a scalar writes. -/
def booleanOf (ps : List Text.Point) : Except YamlError Scalar :=
  let word := Text.smalls ps
  match booleanWords.find? fun w => Text.points w.1 = word with
  | some w => .ok (.boolean w.2)
  | none => .error (.notBoolean word)

/-- The date or the moment that a scalar writes. -/
def timestampOf (text : String) : Except YamlError Scalar :=
  match Stamp.read? (withoutFinalBreak text.toList) with
  | none => .error .notTimestamp
  | some stamp => stamp.resolve.map fun
    | .inl d => .date d
    | .inr m => .moment m

/-- The value of the code points `ps` by a rule for texts; of anything else than a text, `other`. -/
def ofWhole (ps : List Text.Point) (other : YamlError) (rule : String → Except YamlError Scalar) :
    Except YamlError Scalar :=
  match Text.whole? ps with
  | some s => rule s
  | none => .error other

/-- The value of code points with a tag; nothing for the tags of collections, and an error for tags
that no value has. -/
def ofPoints? (tag : Tag) (ps : List Text.Point) : Option (Except YamlError Scalar) :=
  match tag with
  | .null => some (.ok .null)
  | .bool => some (booleanOf ps)
  | .int => some (ofWhole ps .badValue fun s => (integerOf s).map .integer)
  | .float => some (ofWhole ps .badValue fun s => (floatOf s).map .number)
  | .binary => some (ofWhole ps .malformed fun s => (bytesOf s).map .bytes)
  | .timestamp => some (ofWhole ps .notTimestamp timestampOf)
  | .string => some (.ok (.text ps))
  | .merge | .value | .other _ => some (.error .malformed)
  | .sequence | .mapping | .set | .orderedMap | .pairs => none

/-- A scalar as messages quote it; nothing for an integer with too many digits. -/
def quoted? : Scalar → Option String
  | .null => some nullText
  | .boolean b => some (booleanText b)
  | .integer i => Text.Numeral.text? i
  | .number x => some (numberLayout.write x)
  | .text ps => some (Text.quotedPoints ps)
  | .bytes bs => some (Text.quotedBytes bs)
  | .date d => some d.quoted
  | .moment m => some m.quoted

/-- The text of a scalar; nothing for an integer with too many digits. -/
def plain? : Scalar → Option (List Text.Point)
  | .text ps => some ps
  | .date d => some (Text.points d.text)
  | .moment m => some (Text.points m.text)
  | s => s.quoted?.map Text.points

/-- What makes a scalar the same key as another. -/
inductive Key where
  | null
  | whole (i : Int)
  | broken (bits : UInt64)
  | text (ps : List Text.Point)
  | bytes (bs : List UInt8)
  | date (d : Date)
  | zoneless (instant : Int)
  | instant (instant : Int)
  deriving DecidableEq

/-- The key that a scalar is. -/
def key : Scalar → Key
  | .null => .null
  | .boolean b => .whole (if b then 1 else 0)
  | .integer i => .whole i
  | .number x =>
    match (Decimal.Reading.ofBits x.toBits).whole? with
    | some i => .whole i
    | none => .broken x.toBits
  | .text ps => .text ps
  | .bytes bs => .bytes bs
  | .date d => .date d
  | .moment m => if m.zone.isSome then .instant m.instant else .zoneless m.instant

end Scalar

end StorageHandler.Yaml
