import StorageHandler.Text.Cut
import StorageHandler.Yaml.QuotedScalar
import StorageHandler.Yaml.Tag
import StorageHandler.Yaml.Timestamp

/-!
# The types of untagged scalars

A plain scalar without a tag has the type that its text looks like: `typeOf` tries truth values,
floating-point numbers, integers, merge keys, nulls, timestamps and value keys in turn. What looks
like none of them is a string. One line feed at the end does not count.
-/

namespace StorageHandler.Yaml

/-- The texts without a sign at the start. -/
def unsigned : List Char → List Char
  | '+' :: cs => cs
  | '-' :: cs => cs
  | cs => cs

/-- A digit or an underscore. -/
def isSpacedDigit (c : Char) : Bool := c.isDigit || c == '_'

/-- Whether all characters satisfy `p` and there is at least one. -/
def allOf (p : Char → Bool) (cs : List Char) : Bool := !cs.isEmpty && cs.all p

/-- The nulls. -/
def looksNull (cs : List Char) : Bool :=
  ["", "~", "null", "Null", "NULL"].contains (String.ofList cs)

/-- The truth values. -/
def looksBool (cs : List Char) : Bool :=
  ["yes", "Yes", "YES", "no", "No", "NO", "true", "True", "TRUE", "false", "False", "FALSE", "on",
    "On", "ON", "off", "Off", "OFF"].contains (String.ofList cs)

/-- One or two digits, of which the first of two is at most five. -/
def isSixtieth : List Char → Bool
  | [d] => d.isDigit
  | [t, d] => '0' ≤ t && t ≤ '5' && d.isDigit
  | _ => false

/-- The integers: in base 2, 8, 10 and 16, and in base 60 with colons. -/
def looksInt (cs : List Char) : Bool :=
  match unsigned cs with
  | '0' :: 'b' :: ds => allOf (fun c => c == '0' || c == '1' || c == '_') ds
  | '0' :: 'x' :: ds => allOf (fun c => isHexDigit c || c == '_') ds
  | '0' :: ds => ds.all fun c => ('0' ≤ c && c ≤ '7') || c == '_'
  | d :: ds =>
    d.isDigit && match Text.splitList ':' ds with
      | first :: rest => first.all isSpacedDigit && rest.all isSixtieth
      | [] => false
  | [] => false

/-- An exponent with a sign, or nothing. -/
def looksExponent : List Char → Bool
  | [] => true
  | e :: s :: ds => (e == 'e' || e == 'E') && (s == '+' || s == '-') && allOf Char.isDigit ds
  | _ => false

/-- The floating-point numbers with a point. -/
def looksPointed (cs : List Char) : Bool :=
  let whole := (unsigned cs).takeWhile fun c => isSpacedDigit c || c == ':'
  match (unsigned cs).drop whole.length, Text.splitList ':' whole with
  | '.' :: rest, [first] =>
    first.head?.any Char.isDigit && looksExponent (rest.dropWhile isSpacedDigit)
  | '.' :: rest, first :: more =>
    first.head?.any Char.isDigit && first.all isSpacedDigit && more.all isSixtieth
      && rest.all isSpacedDigit
  | _, _ => false

/-- The floating-point numbers. -/
def looksFloat (cs : List Char) : Bool :=
  looksPointed cs
    || (match cs with
      | '.' :: d :: ds => d.isDigit && looksExponent (ds.dropWhile isSpacedDigit)
      | _ => false)
    || [".inf", ".Inf", ".INF"].contains (String.ofList (unsigned cs))
    || [".nan", ".NaN", ".NAN"].contains (String.ofList cs)

/-- The timestamps. -/
def looksTimestamp (cs : List Char) : Bool := (Stamp.read? cs).any Stamp.isPlain

/-- The type that characters look like. The marks of anchors, aliases and tags by themselves have a
type of their own, which no value has. -/
def typeOf (cs : List Char) : Tag :=
  let core := withoutFinalBreak cs
  if looksBool core then .bool
  else if looksFloat core then .float
  else if looksInt core then .int
  else if core = ['<', '<'] then .merge
  else if looksNull core ∧ (core ≠ [] ∨ cs = []) then .null
  else if looksTimestamp core then .timestamp
  else if core = ['='] then .value
  else if core = ['!'] ∨ core = ['&'] ∨ core = ['*'] then .other "yaml"
  else .string

/-- The type of a plain scalar without a tag. What holds a half of a pair is a string. -/
def plainTag (ps : List Text.Point) : Tag :=
  match ps.mapM Text.Point.char? with
  | some cs => typeOf cs
  | none => .string

end StorageHandler.Yaml
