import StorageHandler.Failure

/-!
# Flaws of YAML texts

Why a text gives no value. Most flaws are a matter of the language (`YamlError.malformed`); the
others come up where a well-formed scalar does not fit the type that its tag gives it.
-/

namespace StorageHandler.Yaml

/-- Why a text gives no value. -/
inductive YamlError where
  /-- The text is not YAML, or not a single document, or asks for an unknown type. -/
  | malformed
  /-- A number, a date or a character code is out of its domain. -/
  | badValue
  /-- A character code or a number is too large to be looked at. -/
  | tooLarge
  /-- A truth value is written in an unknown way. -/
  | notBoolean (word : List Text.Point)
  /-- A number is written with no characters. -/
  | emptyNumber
  /-- A timestamp is written in an unknown way. -/
  | notTimestamp
  /-- A timestamp is not written as a scalar. -/
  | timestampNotScalar
  /-- A node is nested too deeply, or is written in terms of itself. -/
  | tooDeep
  deriving DecidableEq, Repr

/-- What a flaw says. The flaws of the language have one text. -/
def YamlError.message : YamlError → String
  | .malformed => "<yaml error>"
  | .notBoolean word => Text.quotedPoints word
  | _ => ""

/-- The kind of a flaw. Those of the language are bad settings. -/
def YamlError.kind : YamlError → Failure.Kind
  | .malformed => .configuration
  | .badValue => .value
  | .tooLarge => .overflow
  | .notBoolean _ => .key
  | .emptyNumber => .index
  | .notTimestamp => .attribute
  | .timestampNotScalar => .type
  | .tooDeep => .depth

end StorageHandler.Yaml
