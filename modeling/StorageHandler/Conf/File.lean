import StorageHandler.Conf.Basic
import StorageHandler.Files.System
import StorageHandler.Yaml.Document
import StorageHandler.Yaml.Members

/-!
# Configuration files

A configuration file holds a flat mapping: names and scalar values. A truth value is written in
lower case and nothing as the empty text; every other scalar by its usual text. Names with the same
text are one setting.

The texts of such a file are read by a library that may be missing, so the reader is a parameter
(`Yaml.Reader`); the program has `Yaml.read`.

Settings are lists of code points, for a scalar can have halves of surrogate pairs in it
(`FileSystem.loadSettings`). A configuration has texts, in which there are no halves
(`FileSystem.loadConf`): two halves that make a pair are joined to its character there, and a lone
half becomes U+FFFD. What a file says is given without that loss by `loadSettings`.
-/

namespace StorageHandler

open Yaml (Content Scalar Value YamlError)

/-- Why a file gives no configuration. -/
inductive LoadError where
  /-- The library for such files is not installed. -/
  | libraryMissing
  | unreadable (path : Path) (error : FileError)
  /-- The bytes of the file are not a text. -/
  | notText
  | flawed (path : Path) (error : YamlError)
  | notMapping (path : Path)
  | nested (key : List Text.Point) (path : Path)
  /-- An integer has too many digits to be written. -/
  | longInteger
  deriving DecidableEq, Repr

namespace LoadError

/-- What the failure says. A key in it may have halves of surrogate pairs. -/
def text : LoadError → List Text.Point
  | .libraryMissing =>
    Text.points "YAML configuration files require PyYAML. Install with 'pip install pyyaml'."
  | .unreadable path error =>
    Text.points
      ("Failed to read configuration file " ++ path.text ++ ": " ++ error.message path ++ ".")
  | .notText => []
  | .flawed path .malformed =>
    Text.points
      ("Failed to read configuration file " ++ path.text ++ ": " ++ YamlError.malformed.message
        ++ ".")
  | .flawed _ error => Text.points error.message
  | .notMapping path =>
    Text.points ("Configuration file " ++ path.text ++ " must contain a mapping at its root.")
  | .nested key path =>
    Text.points "Configuration key '" ++ key
      ++ Text.points ("' in " ++ path.text
        ++ " has a nested value. Only flat key/value pairs are supported.")
  | .longInteger => []

/-- What the failure says, without halves of pairs. -/
def message (e : LoadError) : String := Text.joined e.text

/-- The kind of the failure. -/
def kind : LoadError → Failure.Kind
  | .libraryMissing => .missingLibrary
  | .unreadable _ .nulInPath => .value
  | .unreadable .. => .configuration
  | .notText => .encoding
  | .flawed _ error => error.kind
  | .notMapping _ => .configuration
  | .nested .. => .configuration
  | .longInteger => .value

/-- The failure with its kind. -/
def failure (e : LoadError) : Failure := ⟨e.kind, e.message⟩

end LoadError

/-- The text of a scalar as a setting. -/
def settingText : Scalar → Option (List Text.Point)
  | .boolean b => some (Text.points (if b then "true" else "false"))
  | .null => some []
  | s => s.plain?

/-- The text of a set: its members between braces. -/
def setText (members : List Scalar) : Option String :=
  if members.isEmpty then some "set()"
  else ((Yaml.orderedMembers members).mapM Scalar.quoted?).map fun texts =>
    "\x7b" ++ ", ".intercalate texts ++ "\x7d"

/-- The setting that an entry of a file makes. -/
def fileSetting (path : Path) (entry : Scalar × Value) :
    Except LoadError (List Text.Point × List Text.Point) := do
  let some key := entry.1.plain? | throw .longInteger
  let text ← match entry.2 with
    | .scalar s => pure (settingText s)
    | .set members => pure ((setText members).map Text.points)
    | .sequence => throw (.nested key path)
    | .mapping => throw (.nested key path)
  match text with
  | some text => return (key, text)
  | none => throw .longInteger

/-- The settings that the content of a file makes. -/
def fileSettings (path : Path) :
    Content → Except LoadError (OrderedMap (List Text.Point) (List Text.Point))
  | .scalar .null => .ok .empty
  | .mapping entries => (entries.mapM (fileSetting path)).map .ofList
  | _ => .error (.notMapping path)

/-- The settings in a file, as a reader of its text gives them, if there is a reader. -/
def FileSystem.loadSettings (fs : FileSystem) (reader : Option Yaml.Reader) (path : Path) :
    Except LoadError (OrderedMap (List Text.Point) (List Text.Point)) := do
  let some read := reader | throw .libraryMissing
  match fs.read path with
  | .error error => throw (.unreadable path error)
  | .ok bytes =>
    match Text.decode? bytes with
    | none => throw .notText
    | some text =>
      match read text with
      | .error error => throw (.flawed path error)
      | .ok content => fileSettings path content

/-- The configuration in a file: its settings, with halves of surrogate pairs joined or replaced. -/
def FileSystem.loadConf (fs : FileSystem) (reader : Option Yaml.Reader) (path : Path) :
    Except LoadError JobConf := do
  let settings ← fs.loadSettings reader path
  return .ofList (settings.entries.map fun e => (Text.joined e.1, Text.joined e.2))

end StorageHandler
