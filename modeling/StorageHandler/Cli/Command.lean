import StorageHandler.Cli.Reading
import StorageHandler.Conf.File
import StorageHandler.Conf.Masters
import StorageHandler.Conf.Overlay
import StorageHandler.Conf.Setting
import StorageHandler.Schema.Mapping
import StorageHandler.Token.File

/-!
# Commands

The three things that the command line can ask for. Each gives the text that it prints, or the first
failure on the way there: nothing is printed before everything has been found. A command is run with
what it finds in its process: the reader of configuration files, if it is installed, the environment
and the files.
-/

namespace StorageHandler.Cli

/-- What the command line can ask for. -/
inductive Command where
  /-- The masters for a configuration file with settings over it and table properties over those. -/
  | masterAddresses (confFile : Option String) (settings tableProperties : List (Given String))
  /-- The Hive type of a Kudu type. -/
  | hiveType (kuduType : String) (precision : Option (Given Int)) (scale : Given Int)
  /-- The tokens in a token file. -/
  | inspectTokens (tokenFile : Option String)
  deriving DecidableEq, Repr

/-- The configuration that settings and table properties make of the one in a file. -/
def settledConf (file : JobConf) (defaultMasters : Option String)
    (settings properties : OrderedMap String String) : JobConf :=
  ((file.withDefaultMasters defaultMasters defaultMastersKey).union settings).union properties

/-- The configuration in the file of a path, if the path is not empty. -/
def optionalConf (reader : Option Yaml.Reader) (fs : FileSystem) (confFile : Option String) :
    Except LoadError JobConf :=
  match confFile.filter (· ≠ "") with
  | none => .ok .empty
  | some path => fs.loadConf reader (Path.ofString path)

/-- The settings that an option was given, in order. A void one cannot be read. -/
def givenSettings (given : List (Given String)) :
    Except Failure (OrderedMap String String) := do
  let settings ← given.mapM fun
    | .value s => (Setting.read s).mapError SettingError.failure
    | .void => throw ⟨.attribute, ""⟩
  return .ofList settings

/-- The masters that the command line asks for. -/
def mastersFor (reader : Option Yaml.Reader) (env : Environment) (fs : FileSystem)
    (confFile : Option String) (settings tableProperties : List (Given String)) :
    Except Failure String := do
  let file ← (optionalConf reader fs confFile).mapError LoadError.failure
  let process ← (env.settings fs).mapError EnvironmentError.failure
  let settings ← givenSettings settings
  let properties ← givenSettings tableProperties
  (settledConf file process.masters settings properties).kuduMasters.mapError MastersMissing.failure

/-- The Hive type of a Kudu type with the attributes that options were given. A scale says nothing
without a precision, and void attributes nothing of a type without attributes. -/
def givenType (t : KuduType) (precision : Option (Given Int)) (scale : Given Int) :
    Except Failure HiveType :=
  match t, precision, scale with
  | .decimal, some .void, _ => .error ⟨.type, ""⟩
  | .decimal, some (.value p), .void => do
    let _ ← (HiveType.decimal p 0).mapError UnsupportedType.failure
    throw ⟨.type, ""⟩
  | t, some (.value p), .value s => (t.hiveType (some ⟨p, s⟩)).mapError UnsupportedType.failure
  | t, _, _ => (t.hiveType none).mapError UnsupportedType.failure

/-- The name of a Hive type, if it can be written. -/
def writtenName (t : HiveType) : Except Failure String :=
  match t.typeName? with
  | some name => .ok name
  | none => .error .unwritable

/-- The name of the Hive type of a Kudu type. -/
def hiveTypeName (kuduType : String) (precision : Option (Given Int)) (scale : Given Int) :
    Except Failure String := do
  let t ← (TypeTag.named kuduType).resolve.mapError UnsupportedType.failure
  writtenName (← givenType t precision scale)

/-- There is no token file to list. -/
def noTokenFile : Failure :=
  ⟨.configuration, "No token file given. Pass --token-file or set " ++ tokenFileVariable ++ "."⟩

/-- The token file to list: the one that is asked for, else the one of the process. -/
def listedFile (env : Environment) (fs : FileSystem) (tokenFile : Option String) :
    Except Failure Path := do
  match tokenFile.filter (· ≠ "") with
  | some path => return Path.ofString path
  | none =>
    match (← (env.settings fs).mapError EnvironmentError.failure).tokenFile with
    | some path => return path
    | none => throw noTokenFile

/-- What the list says about a token under its alias; its secrets are not among that. -/
def tokenRow (entry : String × SecurityToken) : String :=
  entry.1 ++ "\t" ++ entry.2.kind ++ "\t" ++ entry.2.service ++ "\n"

/-- The list of the tokens of credentials: a line for each. -/
def tokenList (c : Credentials) : String := String.join (c.tokens.entries.map tokenRow)

/-- The list of the tokens that the command line asks for. -/
def tokenListing (env : Environment) (fs : FileSystem) (tokenFile : Option String) :
    Except Failure String := do
  let path ← listedFile env fs tokenFile
  let c ← (fs.readTokens path).mapError TokenFileError.failure
  return tokenList c

/-- What a command prints. -/
def Command.print (reader : Option Yaml.Reader) (env : Environment) (fs : FileSystem) :
    Command → Except Failure String
  | .masterAddresses confFile settings tableProperties => do
    return (← mastersFor reader env fs confFile settings tableProperties) ++ "\n"
  | .hiveType kuduType precision scale => do
    return (← hiveTypeName kuduType precision scale) ++ "\n"
  | .inspectTokens tokenFile => tokenListing env fs tokenFile

end StorageHandler.Cli
